import IndexerTypes.Json.Quotation
import IndexerTypes.Yaml.Place

/-! The texts of scalars. A scalar may go over several lines; what stands between its lines
becomes one space or the breaks of the empty lines, unless the style keeps breaks. -/

namespace IndexerTypes.Yaml.ScalarText

/-- A line break and the breaks of the empty lines after it. -/
def folded (first others : List Char) : List Char :=
  if startsWith (· == '\n') first then (if others.isEmpty then [' '] else others)
  else first ++ others

/-- Blanks and breaks between two parts of a scalar. -/
structure Gap where
  /-- Blanks, as long as the line goes on. -/
  blanks : List Char
  broken : Bool
  firstBreak : List Char
  otherBreaks : List Char

namespace Gap

def none : Gap := ⟨[], false, [], []⟩

/-- The gap after a break that a backslash takes away. -/
def escapedBreak : Gap := ⟨[], true, [], []⟩

def text (g : Gap) : List Char := if g.broken then folded g.firstBreak g.otherBreaks else g.blanks

def addBlank (g : Gap) (c : Char) : Gap :=
  if g.broken then g else { g with blanks := g.blanks ++ [c] }

def addBreak (g : Gap) (s : List Char) : Gap :=
  if g.broken then { g with otherBreaks := g.otherBreaks ++ breakText s }
  else ⟨[], true, breakText s, []⟩

/-- Reads on to the next character that is neither blank nor break. In the blanks that
indent a new line no tab may stand before the column `margin`. -/
def read (margin : Nat) : Nat → Gap → Place → Option (Gap × Place)
  | 0, g, p => some (g, p)
  | fuel + 1, g, p =>
    match p.rest with
    | [] => some (g, p)
    | c :: _ =>
      if isBlank c then
        if g.broken && p.column < margin && c == '\t' then Option.none
        else read margin fuel (g.addBlank c) (p.skip 1)
      else if isBreak c then read margin fuel (g.addBreak p.rest) p.nextLine
      else some (g, p)

end Gap

/-- A character that can neither follow a colon nor be part of a plain scalar in flow style. -/
def isFlowMark (c : Char) : Bool := c == ',' || c == '[' || c == ']' || c == '\x7b' || c == '\x7d'

def isFlowMarkOrQuestion (c : Char) : Bool := isFlowMark c || c == '?'

/-- A stretch of a plain scalar without blanks and breaks. -/
def plainStretch (inFlow : Bool) : List Char → Option (List Char)
  | [] => some []
  | c :: rest =>
    if isBlank c || isBreak c then some []
    else if inFlow && c == ':' && startsWith isFlowMarkOrQuestion rest then none
    else if (c == ':' && atGap rest) || (inFlow && isFlowMark c) then some []
    else (plainStretch inFlow rest).map (c :: ·)

/-- A scalar and the place behind it. -/
structure Reading where
  text : List Char
  /-- Whether the reading ended on a later line than the text. -/
  brokenEnd : Bool
  place : Place

/-- Puts a part behind a text that is kept in reversed order. -/
def behind (before part : List Char) : List Char := part.reverseAux before

def plainFrom (inFlow : Bool) (margin : Nat) : Nat → List Char → Gap → Place → Option Reading
  | 0, _, _, _ => none
  | fuel + 1, before, g, p =>
    if p.atDocumentMark || startsWith (· == '#') p.rest then
      some ⟨before.reverse, g.broken, p⟩
    else
      match plainStretch inFlow p.rest with
      | none => none
      | some [] => some ⟨before.reverse, g.broken, p⟩
      | some stretch =>
        let before := behind (behind before g.text) stretch
        let p := p.skip stretch.length
        match Gap.read margin (fuel + 1) Gap.none p with
        | none => none
        | some (g, p) =>
          if !inFlow && p.column < margin then some ⟨before.reverse, g.broken, p⟩
          else plainFrom inFlow margin fuel before g p

/-- A plain scalar. In block style its further lines begin at the column `margin` or behind. -/
def plain? (inFlow : Bool) (margin : Nat) (p : Place) : Option Reading :=
  plainFrom inFlow margin (p.rest.length + 1) [] Gap.none p

def hexNumber? (digits : List Char) : Option Nat :=
  digits.foldlM
    (fun value c => (Json.Quotation.hexValue? c).map (value * 16 + ·)) 0

/-- The character with the code point that `count` hexadecimal digits name. -/
def codePoint? (count : Nat) (s : List Char) : Option (Char × Nat) :=
  let digits := s.take count
  if digits.length < count then none
  else
    match hexNumber? digits with
    | none => none
    | some n => if h : n.isValidChar then some (Char.ofNatAux n h, count + 1) else none

/-- The character that an escape stands for, and the length of the escape without its
backslash. -/
def escape? : List Char → Option (Char × Nat)
  | '0' :: _ => some ('\x00', 1)
  | 'a' :: _ => some ('\x07', 1)
  | 'b' :: _ => some ('\x08', 1)
  | 't' :: _ => some ('\t', 1)
  | '\t' :: _ => some ('\t', 1)
  | 'n' :: _ => some ('\n', 1)
  | 'v' :: _ => some ('\x0b', 1)
  | 'f' :: _ => some ('\x0c', 1)
  | 'r' :: _ => some ('\r', 1)
  | 'e' :: _ => some ('\x1b', 1)
  | ' ' :: _ => some (' ', 1)
  | '"' :: _ => some ('"', 1)
  | '/' :: _ => some ('/', 1)
  | '\\' :: _ => some ('\\', 1)
  | 'N' :: _ => some ('\u0085', 1)
  | '_' :: _ => some ('\u00a0', 1)
  | 'L' :: _ => some ('\u2028', 1)
  | 'P' :: _ => some ('\u2029', 1)
  | 'x' :: s => codePoint? 2 s
  | 'u' :: s => codePoint? 4 s
  | 'U' :: s => codePoint? 8 s
  | _ => none

/-- A stretch of a quoted scalar without blanks and breaks, and the gap that opens behind it. -/
structure Stretch where
  text : List Char
  gap : Gap
  place : Place

/-- The characters read so far come in reversed order. -/
def singleStretch : Nat → List Char → Place → Option Stretch
  | 0, _, _ => none
  | fuel + 1, before, p =>
    match p.rest with
    | '\'' :: '\'' :: _ => singleStretch fuel ('\'' :: before) (p.skip 2)
    | [] => some ⟨before.reverse, Gap.none, p⟩
    | c :: _ =>
      if isBlank c || isBreak c || c == '\'' then some ⟨before.reverse, Gap.none, p⟩
      else singleStretch fuel (c :: before) (p.skip 1)

def doubleStretch : Nat → List Char → Place → Option Stretch
  | 0, _, _ => none
  | fuel + 1, before, p =>
    match p.rest with
    | [] => some ⟨before.reverse, Gap.none, p⟩
    | '\\' :: s =>
      if startsWith isBreak s then
        some ⟨before.reverse, Gap.escapedBreak, (p.skip 1).nextLine⟩
      else
        match escape? s with
        | none => none
        | some (c, length) => doubleStretch fuel (c :: before) (p.skip (length + 1))
    | c :: _ =>
      if isBlank c || isBreak c || c == '"' then some ⟨before.reverse, Gap.none, p⟩
      else doubleStretch fuel (c :: before) (p.skip 1)

def quotedStretch (quote : Char) (fuel : Nat) (p : Place) : Option Stretch :=
  if quote == '"' then doubleStretch fuel [] p else singleStretch fuel [] p

def quotedFrom (quote : Char) : Nat → List Char → Place → Option Reading
  | 0, _, _ => none
  | fuel + 1, before, p =>
    if p.atDocumentMark || p.rest.isEmpty then none
    else
      match quotedStretch quote (fuel + 1) p with
      | none => none
      | some ⟨stretch, g, p⟩ =>
        let before := behind before stretch
        if startsWith (· == quote) p.rest then some ⟨before.reverse, false, p.skip 1⟩
        else
          match Gap.read 0 (fuel + 1) g p with
          | none => none
          | some (g, p) => quotedFrom quote fuel (behind before g.text) p

/-- A quoted scalar, from its opening quote on. -/
def quoted? (quote : Char) (p : Place) : Option Reading :=
  quotedFrom quote (p.rest.length + 1) [] (p.skip 1)

inductive Chomping where
  /-- Without the break at the end. -/
  | strip
  | clip
  /-- With all breaks at the end. -/
  | keep

def chomping? : List Char → Option Chomping
  | '+' :: _ => some .keep
  | '-' :: _ => some .strip
  | _ => none

/-- How far a block scalar says that it is indented; none if the digit is zero. -/
def increment? : List Char → Option (Option Nat)
  | c :: _ =>
    if c == '0' then none
    else if c.isDigit then some (some (c.toNat - '0'.toNat))
    else some none
  | [] => some none

/-- The signs behind the mark of a block scalar, in either order. -/
def blockHeader? (p : Place) : Option (Chomping × Option Nat × Place) :=
  match chomping? p.rest with
  | some chomping =>
    let p := p.skip 1
    match increment? p.rest with
    | none => none
    | some none => some (chomping, none, p)
    | some (some n) => some (chomping, some n, p.skip 1)
  | none =>
    match increment? p.rest with
    | none => none
    | some none => some (.clip, none, p)
    | some (some n) =>
      let p := p.skip 1
      match chomping? p.rest with
      | some chomping => some (chomping, some n, p.skip 1)
      | none => some (.clip, some n, p)

/-- The indentation of a place, as far as the column `indent`; of any depth where none is set. -/
def skipIndent (indent : Option Nat) (p : Place) : Place :=
  let spaces := (p.rest.takeWhile (· == ' ')).length
  match indent with
  | none => p.skip spaces
  | some n => p.skip (min spaces (n - p.column))

def isShort (indent : Option Nat) (column : Nat) : Bool :=
  match indent with
  | none => true
  | some n => column < n

/-- Reads over empty lines; answers with their breaks and the widest indentation seen. -/
def emptyLines (indent : Option Nat) :
    Nat → List Char → Nat → Place → Option (List Char × Nat × Place)
  | 0, _, _, _ => none
  | fuel + 1, breaks, widest, p =>
    let p := skipIndent indent p
    let widest := max widest p.column
    if isShort indent p.column && startsWith (· == '\t') p.rest then none
    else if startsWith isBreak p.rest then
      emptyLines indent fuel (breaks ++ breakText p.rest) widest p.nextLine
    else some (breaks, widest, p)

/-- What is known of a block scalar in front of one of its lines. -/
structure BlockState where
  /-- In reversed order. -/
  before : List Char
  /-- The break of the line before. -/
  lastBreak : List Char
  /-- The breaks of the empty lines after that. -/
  breaks : List Char
  /-- Whether the line before began with a blank. -/
  afterBlank : Bool
  place : Place

/-- What stands between two lines, the breaks of empty lines left out. -/
def joint (literal : Bool) (s : BlockState) (blank : Bool) : List Char :=
  if !literal && startsWith (· == '\n') s.lastBreak && !s.afterBlank && !blank then
    (if s.breaks.isEmpty then [' '] else [])
  else s.lastBreak

/-- The lines at the column `indent`. Lines that begin with a blank keep their breaks. -/
def blockLines (literal : Bool) (indent : Nat) : Nat → BlockState → Option BlockState
  | 0, _ => none
  | fuel + 1, s =>
    if s.place.column ≠ indent || s.place.rest.isEmpty then some s
    else
      let blank := startsWith isBlank s.place.rest
      let line := s.place.rest.takeWhile fun c => !isBreak c
      let before := behind (behind (behind s.before (joint literal s blank)) s.breaks) line
      let p := s.place.skip line.length
      match emptyLines (some indent) (fuel + 1) [] 0 p.pastBreak with
      | none => none
      | some (breaks, _, next) =>
        blockLines literal indent fuel ⟨before, breakText p.rest, breaks, blank, next⟩

def chomped (chomping : Chomping) (s : BlockState) : List Char :=
  match chomping with
  | .strip => s.before.reverse
  | .clip => (behind s.before s.lastBreak).reverse
  | .keep => (behind (behind s.before s.lastBreak) s.breaks).reverse

/-- A block scalar, from its mark on. Its lines begin at the column `margin` or behind. -/
def block? (literal : Bool) (margin : Nat) (p : Place) : Option Reading :=
  match blockHeader? (p.skip 1) with
  | none => none
  | some (chomping, increment, p) =>
    match p.finishLine? with
    | none => none
    | some p =>
      let indent := increment.map (margin - 1 + ·)
      match emptyLines indent (p.rest.length + 1) [] 0 p with
      | none => none
      | some (breaks, widest, p) =>
        let indent := indent.getD (max (max widest margin) 1)
        (blockLines literal indent (p.rest.length + 1) ⟨[], [], breaks, false, p⟩).map fun s =>
          ⟨chomped chomping s, true, s.place⟩

end IndexerTypes.Yaml.ScalarText
