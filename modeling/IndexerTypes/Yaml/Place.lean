/-! Places in a YAML text: what is left to read, and how far from the start of the text and
of its line the reading has come. -/

namespace IndexerTypes.Yaml

def isBlank (c : Char) : Bool := c == ' ' || c == '\t'

/-- The characters that end a line. -/
def isBreak (c : Char) : Bool :=
  c == '\r' || c == '\n' || c == '\u0085' || c == '\u2028' || c == '\u2029'

/-- The characters of names, of anchors for instance. -/
def isWordPart (c : Char) : Bool := c.isAlphanum || c == '_' || c == '-'

/-- The characters that a text may hold at all: no control characters but tabs and breaks. -/
def isAllowed (c : Char) : Bool :=
  let n := c.toNat
  n == 0x09 || n == 0x0A || n == 0x0D || (0x20 ≤ n && n ≤ 0x7E) || n == 0x85 ||
    (0xA0 ≤ n && n ≤ 0xFFFD) || 0x10000 ≤ n

def byteOrderMark : Char := '\uFEFF'

def startsWith (p : Char → Bool) : List Char → Bool
  | [] => false
  | c :: _ => p c

/-- At a blank, at a break or at the end. -/
def atGap : List Char → Bool
  | [] => true
  | c :: _ => isBlank c || isBreak c

/-- At a break or at the end. -/
def atLineEnd : List Char → Bool
  | [] => true
  | c :: _ => isBreak c

/-- What a break stands for in a text: most are newlines, the separators of lines and
paragraphs stand for themselves. -/
def breakText : List Char → List Char
  | [] => []
  | c :: _ =>
    if c == '\u2028' || c == '\u2029' then [c] else if isBreak c then ['\n'] else []

structure Place where
  rest : List Char
  /-- Bytes since the start of the text. -/
  index : Nat
  line : Nat
  /-- Characters since the start of the line. -/
  column : Nat

namespace Place

def start (text : List Char) : Place := ⟨text, 0, 0, 0⟩

/-- How many bytes a text has. -/
def byteLength (s : List Char) : Nat := s.foldl (fun length c => length + c.utf8Size) 0

/-- The place some characters further on in the same line. -/
def skip (p : Place) (count : Nat) : Place :=
  { p with
    rest := p.rest.drop count
    index := p.index + byteLength (p.rest.take count)
    column := p.column + count }

def skipWhile (test : Char → Bool) (p : Place) : Place := p.skip (p.rest.takeWhile test).length

def skipBlanks (p : Place) : Place := p.skipWhile isBlank

/-- The start of the next line, for a place at a break. -/
def nextLine (p : Place) : Place :=
  match p.rest with
  | '\r' :: '\n' :: rest => ⟨rest, p.index + 2, p.line + 1, 0⟩
  | c :: rest => ⟨rest, p.index + c.utf8Size, p.line + 1, 0⟩
  | [] => p

/-- At a break, the start of the next line; at the end, the end. -/
def pastBreak (p : Place) : Place := if p.rest.isEmpty then p else p.nextLine

/-- Whether a line starts here with three dashes or three points that stand alone. -/
def atDocumentMark (p : Place) : Bool :=
  p.column == 0 &&
    match p.rest with
    | '-' :: '-' :: '-' :: rest => atGap rest
    | '.' :: '.' :: '.' :: rest => atGap rest
    | _ => false

def skipComment (p : Place) : Place :=
  if startsWith (· == '#') p.rest then p.skipWhile fun c => !isBreak c else p

/-- The next line, if only blanks and a comment are left on this one. -/
def finishLine? (p : Place) : Option Place :=
  let p := p.skipBlanks.skipComment
  if atLineEnd p.rest then some p.pastBreak else none

end Place

end IndexerTypes.Yaml
