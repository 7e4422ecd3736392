import IndexerTypes.Yaml.Property
import IndexerTypes.Yaml.ScalarText

/-! From a text to its tokens. In block style the column of a token says which blocks end
before it and whether a new one begins. A key is known as a key only when the colon behind
it is reached, so the place where a key may have begun is kept until then; such a key ends
on its line and within 1024 bytes. -/

namespace IndexerTypes.Yaml.Layout

/-- A place where a key may have begun. -/
structure Candidate where
  /-- Whether something other than a key would be wrong here. -/
  required : Bool
  /-- How many tokens stand before the key. -/
  position : Nat
  index : Nat
  line : Nat
  column : Nat

def maxKeyLength : Nat := 1024

def Candidate.isStale (c : Candidate) (p : Place) : Bool :=
  c.line < p.line || c.index + maxKeyLength < p.index

structure State where
  place : Place
  /-- One more than the column of the innermost block; zero outside of all blocks. -/
  margin : Nat
  /-- The margins of the blocks around, innermost first. -/
  outerMargins : List Nat
  keyAllowed : Bool
  candidate : Option Candidate
  /-- For each flow collection around, the candidate of what is outside of it. -/
  outerCandidates : List (Option Candidate)
  /-- Newest first. -/
  tokens : List Token
  count : Nat

namespace State

def start (text : List Char) : State := ⟨Place.start text, 0, [], true, none, [], [], 0⟩

def inFlow (s : State) : Bool := !s.outerCandidates.isEmpty

def push (s : State) (t : Token) : State :=
  { s with tokens := t :: s.tokens, count := s.count + 1 }

/-- Puts tokens behind the first `position` tokens. -/
def insert (s : State) (position : Nat) (new : List Token) : State :=
  let later := s.count - position
  { s with
    tokens := s.tokens.take later ++ new.reverse ++ s.tokens.drop later
    count := s.count + new.length }

/-- Passes spaces, comments and breaks. Tabs count as spaces where no key can begin, and so
does a byte order mark at the start of a line. -/
def toToken : Nat → State → State
  | 0, s => s
  | fuel + 1, s =>
    let p := s.place
    let p := if p.column == 0 && startsWith (· == byteOrderMark) p.rest then p.skip 1 else p
    let tabs := s.inFlow || !s.keyAllowed
    let p := (p.skipWhile fun c => c == ' ' || (tabs && c == '\t')).skipComment
    if startsWith isBreak p.rest then
      toToken fuel { s with place := p.nextLine, keyAllowed := s.keyAllowed || !s.inFlow }
    else { s with place := p }

def fresh? (p : Place) : Option Candidate → Option (Option Candidate)
  | none => some none
  | some c => if c.isStale p then (if c.required then none else some none) else some (some c)

/-- Gives up the candidates that the text has left behind. -/
def dropStale? (s : State) : Option State :=
  match fresh? s.place s.candidate, s.outerCandidates.mapM (fresh? s.place) with
  | some candidate, some outer =>
    some { s with candidate := candidate, outerCandidates := outer }
  | _, _ => none

/-- Closes the blocks whose column lies behind the margin. -/
def closeTo (margin : Nat) : List Nat → State → State
  | [], s => s
  | outer :: rest, s =>
    if s.margin > margin then
      closeTo margin rest { s.push .blockEnd with margin := outer, outerMargins := rest }
    else s

def unroll (s : State) (margin : Nat) : State :=
  if s.inFlow then s else closeTo margin s.outerMargins s

/-- Gives up the candidate; refused where a key is required. -/
def dropCandidate? (s : State) : Option State :=
  match s.candidate with
  | some c => if c.required then none else some { s with candidate := none }
  | none => some s

/-- Notes that a key may begin here. -/
def noteCandidate? (s : State) : Option State :=
  if s.keyAllowed then
    s.dropCandidate?.map fun s =>
      let p := s.place
      let required := !s.inFlow && s.margin == p.column + 1
      { s with candidate := some ⟨required, s.count, p.index, p.line, p.column⟩ }
  else some s

/-- Opens a block at this column, unless one is open there or behind. -/
def openBlock (s : State) (column : Nat) (position : Nat) (t : Token) : State :=
  if !s.inFlow && s.margin ≤ column then
    { s.insert position [t] with margin := column + 1, outerMargins := s.margin :: s.outerMargins }
  else s

/-- Opens a block at this place, where one may begin. -/
def openBlockHere? (s : State) (t : Token) : Option State :=
  if s.inFlow then some s
  else if s.keyAllowed then some (s.openBlock s.place.column s.count t)
  else none

/-- Takes a token of one or more characters. -/
def take (s : State) (length : Nat) (t : Token) : State :=
  { s.push t with place := s.place.skip length }

def endOfText? (s : State) : Option (List Token) :=
  ((s.unroll 0).dropCandidate?).map fun s => s.tokens.reverse

def directive? (s : State) : Option State := do
  let s ← (s.unroll 0).dropCandidate?
  let (t, p) ← Property.directive? s.place
  pure { s.push t with place := p, keyAllowed := false }

def documentMark? (s : State) (t : Token) : Option State := do
  let s ← (s.unroll 0).dropCandidate?
  pure { s.take 3 t with keyAllowed := false }

def flowStart? (s : State) (t : Token) : Option State := do
  let s ← s.noteCandidate?
  pure { s.take 1 t with
    candidate := none
    outerCandidates := s.candidate :: s.outerCandidates
    keyAllowed := true }

/-- Leaves the innermost flow collection, if there is one. -/
def flowEnd? (s : State) (t : Token) : Option State := do
  let s ← s.dropCandidate?
  let s := { s.take 1 t with keyAllowed := false }
  match s.outerCandidates with
  | [] => pure s
  | c :: outer => pure { s with candidate := c, outerCandidates := outer }

def flowEntry? (s : State) : Option State := do
  let s ← s.dropCandidate?
  pure { s.take 1 .flowEntry with keyAllowed := true }

def blockEntry? (s : State) : Option State := do
  let s ← s.openBlockHere? .blockSequenceStart
  let s ← s.dropCandidate?
  pure { s.take 1 .blockEntry with keyAllowed := true }

def key? (s : State) : Option State := do
  let s ← s.openBlockHere? .blockMappingStart
  let s ← s.dropCandidate?
  pure { s.take 1 .key with keyAllowed := !s.inFlow }

/-- A colon behind a candidate makes it a key, and opens a block for it if need be. -/
def value? (s : State) : Option State :=
  match s.candidate with
  | some c =>
    let s := s.insert c.position [.key]
    let s := s.openBlock c.column c.position .blockMappingStart
    some { s.take 1 .value with candidate := none, keyAllowed := false }
  | none => do
    let s ← s.openBlockHere? .blockMappingStart
    pure { s.take 1 .value with keyAllowed := !s.inFlow }

/-- Takes an anchor, a reference or a tag. -/
def property? (s : State) (read? : Place → Option (Token × Place)) : Option State := do
  let s ← s.noteCandidate?
  let (t, p) ← read? s.place
  pure { s.push t with place := p, keyAllowed := false }

def blockScalar? (s : State) (literal : Bool) : Option State := do
  let s ← s.dropCandidate?
  let r ← ScalarText.block? literal s.margin s.place
  pure { s.push (.scalar false (String.ofList r.text)) with place := r.place, keyAllowed := true }

def quotedScalar? (s : State) (quote : Char) : Option State := do
  let s ← s.noteCandidate?
  let r ← ScalarText.quoted? quote s.place
  pure { s.push (.scalar false (String.ofList r.text)) with place := r.place, keyAllowed := false }

/-- A plain scalar. If lines were passed behind it, a key may begin again. -/
def plainScalar? (s : State) : Option State := do
  let s ← s.noteCandidate?
  let r ← ScalarText.plain? s.inFlow s.margin s.place
  pure { s.push (.scalar true (String.ofList r.text)) with
    place := r.place
    keyAllowed := r.brokenEnd }

/-- The marks that no plain scalar begins with. -/
def isMark (c : Char) : Bool :=
  ['-', '?', ':', ',', '[', ']', '\x7b', '\x7d', '#', '&', '*', '!', '|', '>', '\'', '"', '%',
    '@', '\x60'].contains c

/-- A dash, and in block style a question mark or a colon, begin a plain scalar if a
character follows them. -/
def beginsPlain (inFlow : Bool) (c : Char) (rest : List Char) : Bool :=
  !(isMark c || isBlank c) || (c == '-' && !startsWith isBlank rest) ||
    (!inFlow && (c == '?' || c == ':') && !atGap rest)

/-- Takes the token that begins at this place with the character `c`. -/
def token? (s : State) (c : Char) (rest : List Char) : Option State :=
  if s.place.column == 0 && c == '%' then s.directive?
  else if s.place.atDocumentMark then
    s.documentMark? (if c == '-' then .documentStart else .documentEnd)
  else if c == '[' then s.flowStart? .flowSequenceStart
  else if c == '\x7b' then s.flowStart? .flowMappingStart
  else if c == ']' then s.flowEnd? .flowSequenceEnd
  else if c == '\x7d' then s.flowEnd? .flowMappingEnd
  else if c == ',' then s.flowEntry?
  else if c == '-' && atGap rest then s.blockEntry?
  else if c == '?' && (s.inFlow || atGap rest) then s.key?
  else if c == ':' && (s.inFlow || atGap rest) then s.value?
  else if c == '*' then
    s.property? fun p => (Property.anchor? p).map fun (name, p) => (.reference name, p)
  else if c == '&' then
    s.property? fun p => (Property.anchor? p).map fun (name, p) => (.anchor name, p)
  else if c == '!' then
    s.property? fun p => (Property.tag? s.inFlow p).map fun (t, p) => (.tag t, p)
  else if c == '|' && !s.inFlow then s.blockScalar? true
  else if c == '>' && !s.inFlow then s.blockScalar? false
  else if c == '\'' || c == '"' then s.quotedScalar? c
  else if beginsPlain s.inFlow c rest then s.plainScalar?
  else none

/-- Each token takes at least one character. -/
def scan : Nat → State → Option (List Token)
  | 0, _ => none
  | fuel + 1, s =>
    match (s.toToken (fuel + 1)).dropStale? with
    | none => none
    | some s =>
      let s := s.unroll (s.place.column + 1)
      match s.place.rest with
      | [] => s.endOfText?
      | c :: rest => (s.token? c rest).bind (scan fuel)

end State

/-- The tokens of a text; `none` if the text has no tokens. -/
def tokens? (text : List Char) : Option (List Token) :=
  if text.all isAllowed then State.scan (text.length + 1) (State.start text) else none

end IndexerTypes.Yaml.Layout
