import IndexerTypes.Json.Quotation
import IndexerTypes.Yaml.Token

/-! Anchors, tags and directives. -/

namespace IndexerTypes.Yaml.Property

abbrev Reading (α : Type) := Option (α × Place)

/-- What may follow the name of an anchor. -/
def endsAnchor (s : List Char) : Bool :=
  atGap s ||
    startsWith (fun c => c == '?' || c == ':' || c == ',' || c == ']' || c == '\x7d' ||
      c == '%' || c == '@' || c == '\x60') s

/-- The name of an anchor, from the mark in front of it on. -/
def anchor? (p : Place) : Reading String :=
  let p := p.skip 1
  let name := p.rest.takeWhile isWordPart
  let p := p.skip name.length
  if name.isEmpty || !endsAnchor p.rest then none else some (String.ofList name, p)

def isTagPart (verbatim : Bool) (c : Char) : Bool :=
  isWordPart c ||
    [';', '/', '?', ':', '@', '&', '=', '+', '$', '.', '%', '!', '~', '*', '\'', '(', ')'].contains c ||
    (verbatim && (c == ',' || c == '[' || c == ']'))

/-- How many bytes a character has whose first byte this is. -/
def width? (first : Nat) : Option Nat :=
  if first < 0x80 then some 1
  else if 0xC0 ≤ first && first < 0xE0 then some 2
  else if 0xE0 ≤ first && first < 0xF0 then some 3
  else if 0xF0 ≤ first && first < 0xF8 then some 4
  else none

def octet? : List Char → Option (Nat × List Char)
  | '%' :: a :: b :: rest =>
    match Json.Quotation.hexValue? a, Json.Quotation.hexValue? b with
    | some a, some b => some (a * 16 + b, rest)
    | _, _ => none
  | _ => none

/-- Further octets of one character. -/
def laterOctets : Nat → List Char → Option (List UInt8 × List Char)
  | 0, s => some ([], s)
  | count + 1, s =>
    match octet? s with
    | none => none
    | some (octet, s) =>
      if 0x80 ≤ octet && octet < 0xC0 then
        (laterOctets count s).map fun (octets, s) => (UInt8.ofNat octet :: octets, s)
      else none

/-- The octets of one escaped character. -/
def escapedCharacter (s : List Char) : Option (List UInt8 × List Char) :=
  match octet? s with
  | none => none
  | some (first, s) =>
    match width? first with
    | none => none
    | some width =>
      (laterOctets (width - 1) s).map fun (octets, s) => (UInt8.ofNat first :: octets, s)

/-- The bytes of a part of a tag, and what follows it. -/
def tagBytes (verbatim : Bool) : Nat → List Char → Option (List UInt8 × List Char)
  | 0, s => some ([], s)
  | _ + 1, [] => some ([], [])
  | fuel + 1, c :: rest =>
    if !isTagPart verbatim c then some ([], c :: rest)
    else if c == '%' then
      match escapedCharacter (c :: rest) with
      | none => none
      | some (octets, rest) =>
        (tagBytes verbatim fuel rest).map fun (bytes, rest) => (octets ++ bytes, rest)
    else
      (tagBytes verbatim fuel rest).map fun (bytes, rest) => (UInt8.ofNat c.toNat :: bytes, rest)

/-- A part of a tag that is not empty, or has at least something in front of it. Of what
stands in front the exclamation mark is no part, and what stands behind a NUL is lost. -/
def tagPart? (verbatim : Bool) (front : List Char) (p : Place) : Reading Tag :=
  match tagBytes verbatim (p.rest.length + 1) p.rest with
  | none => none
  | some (bytes, rest) =>
    let length := p.rest.length - rest.length
    if length == 0 && front.isEmpty then none
    else
      let bytes := (front.drop 1).map (fun c => UInt8.ofNat c.toNat) ++ bytes
      some (bytes.takeWhile (· ≠ 0), p.skip length)

/-- An exclamation mark, a name, and perhaps another exclamation mark. -/
def handle (p : Place) : List Char × Place :=
  let name := (p.rest.drop 1).takeWhile isWordPart
  let text := '!' :: name
  let p := p.skip text.length
  if startsWith (· == '!') p.rest then (text ++ ['!'], p.skip 1) else (text, p)

def isNamedHandle (text : List Char) : Bool :=
  text.length > 1 && text.getLast? == some '!'

/-- The tag that is one exclamation mark. -/
def nonSpecific : Tag := [UInt8.ofNat '!'.toNat]

/-- The tag without its end. -/
def tagBody? (p : Place) : Reading TagText :=
  match p.rest with
  | '!' :: '<' :: _ =>
    match tagPart? true [] (p.skip 2) with
    | none => none
    | some (suffix, p) =>
      if startsWith (· == '>') p.rest then some (⟨"", suffix⟩, p.skip 1) else none
  | _ =>
    let (front, q) := handle p
    if isNamedHandle front then
      (tagPart? false [] q).map fun (suffix, p) => (⟨String.ofList front, suffix⟩, p)
    else
      match tagPart? false front q with
      | none => none
      | some (suffix, p) =>
        if suffix.isEmpty then some (⟨"", nonSpecific⟩, p) else some (⟨"!", suffix⟩, p)

/-- A tag, which a gap must follow, or in flow style a comma. -/
def tag? (inFlow : Bool) (p : Place) : Reading TagText :=
  (tagBody? p).filter fun (_, p) => atGap p.rest || (inFlow && startsWith (· == ',') p.rest)

/-- At most nine digits. -/
def versionNumber? (p : Place) : Reading Nat :=
  let digits := p.rest.takeWhile Char.isDigit
  if digits.isEmpty || digits.length > 9 then none
  else some (Nat.ofDigitChars 10 digits 0, p.skip digits.length)

def version? (p : Place) : Reading Token :=
  match versionNumber? p.skipBlanks with
  | none => none
  | some (major, p) =>
    if startsWith (· == '.') p.rest then
      (versionNumber? (p.skip 1)).map fun (minor, p) => (.version major minor, p)
    else none

def tagDirective? (p : Place) : Reading Token :=
  let p := p.skipBlanks
  if !startsWith (· == '!') p.rest then none
  else
    let (front, p) := handle p
    if front ≠ ['!'] && !isNamedHandle front then none
    else if !startsWith isBlank p.rest then none
    else
      match tagPart? true [] p.skipBlanks with
      | none => none
      | some (expansion, p) =>
        if atGap p.rest then some (.tagDirective (String.ofList front) expansion, p) else none

/-- A directive with the rest of its line. -/
def directive? (p : Place) : Reading Token :=
  let p := p.skip 1
  let name := p.rest.takeWhile isWordPart
  let p := p.skip name.length
  if name.isEmpty || !atGap p.rest then none
  else
    let body :=
      if name = "YAML".toList then version? p
      else if name = "TAG".toList then tagDirective? p
      else none
    match body with
    | none => none
    | some (token, p) => p.finishLine?.map fun p => (token, p)

end IndexerTypes.Yaml.Property
