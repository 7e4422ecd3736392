/-! The tokens of a schema document. Commas and byte order marks count as spaces, comments
reach to the end of the line, and strings and numbers are checked here, since no later step
needs their values. -/

namespace IndexerTypes.Sdl

inductive Token where
  | punctuator (c : Char)
  | spread
  | name (text : String)
  | number
  | string
  deriving DecidableEq, Repr

namespace Token

def isSpace (c : Char) : Bool :=
  c == ' ' || c == ',' || c == '\t' || c == '\n' || c == '\r' || c == '\ufeff'

def isPunctuator (c : Char) : Bool :=
  c == '!' || c == '$' || c == ':' || c == '=' || c == '@' || c == '|' || c == '&' ||
    c == '(' || c == ')' || c == '[' || c == ']' || c == '\x7b' || c == '\x7d'

def isNameStart (c : Char) : Bool := c.isAlpha || c == '_'

def isNamePart (c : Char) : Bool := isNameStart c || c.isDigit

/-- A number ends at a space, a comment or a punctuator. -/
def endsNumber (c : Char) : Bool :=
  c == ' ' || c == ',' || c == '\t' || c == '\n' || c == '\r' || c == '#' || isPunctuator c

def isHexDigit (c : Char) : Bool :=
  c.isDigit || ('a' ≤ c && c ≤ 'f') || ('A' ≤ c && c ≤ 'F')

def hexValue (digits : List Char) : Nat :=
  digits.foldl (fun n c =>
    16 * n + (if c.isDigit then c.toNat - 48 else if 'a' ≤ c then c.toNat - 87 else c.toNat - 55)) 0

/-- Whether four characters name a character: hexadecimal digits, the first of which may be
a plus sign, and no half of a surrogate pair. -/
def isCharacterCode (a b c d : Char) : Bool :=
  let digits := if a = '+' then [b, c, d] else [a, b, c, d]
  digits.all isHexDigit && !(0xD800 ≤ hexValue digits && hexValue digits < 0xE000)

def isEscape (c : Char) : Bool :=
  c == '"' || c == '\\' || c == '/' || c == 'b' || c == 'f' || c == 'n' || c == 'r' || c == 't'

/-- What follows a string on one line, given what follows its opening quote. -/
def afterString : List Char → Option (List Char)
  | [] => none
  | '"' :: rest => some rest
  | '\n' :: _ => none
  | '\\' :: 'u' :: a :: b :: c :: d :: rest =>
    if isCharacterCode a b c d then afterString rest else none
  | '\\' :: c :: rest => if isEscape c then afterString rest else none
  | _ :: rest => afterString rest

/-- What follows a block string: three quotes end it unless a backslash stands before them. -/
def afterBlock (escaped : Bool) : List Char → Option (List Char)
  | [] => none
  | '"' :: '"' :: '"' :: rest => if escaped then afterBlock false rest else some rest
  | c :: rest => afterBlock (c == '\\') rest

/-- Digits without a leading zero, behind an optional minus. -/
def isInteger : List Char → Bool
  | ['0'] => true
  | ['-', '0'] => true
  | '-' :: c :: rest => c.isDigit && c != '0' && rest.all Char.isDigit
  | c :: rest => c.isDigit && c != '0' && rest.all Char.isDigit
  | [] => false

def isDigits (s : List Char) : Bool := !s.isEmpty && s.all Char.isDigit

/-- Digits behind a sign. Without a sign the first digit is none of 0 and 9. -/
def isExponent : List Char → Bool
  | '+' :: s => isDigits s
  | '-' :: s => isDigits s
  | c :: s => '0' < c && c < '9' && s.all Char.isDigit
  | [] => false

/-- An integer fits 64 bits with a sign. -/
def fits (lexeme : List Char) : Bool :=
  match lexeme with
  | '-' :: digits => Nat.ofDigitChars 10 digits 0 ≤ Nat.pow 2 63
  | digits => Nat.ofDigitChars 10 digits 0 < Nat.pow 2 63

/-- An integer, or an integer with a fraction, an exponent or both. -/
def isNumber (lexeme : List Char) : Bool :=
  let (mantissa, rest) := lexeme.span fun c => c != 'e' && c != 'E'
  let (whole, fraction) := mantissa.span (· != '.')
  if rest.isEmpty && fraction.isEmpty then isInteger whole && fits whole
  else
    isInteger whole && (fraction.isEmpty || isDigits (fraction.drop 1)) &&
      (rest.isEmpty || isExponent (rest.drop 1))

def dropComment (s : List Char) : List Char := s.dropWhile fun c => c != '\n' && c != '\r'

/-- The token at the start of a text that does not start with a space or a comment. -/
def first : List Char → Option (Token × List Char)
  | [] => none
  | '"' :: '"' :: '"' :: rest => (afterBlock false rest).map fun rest => (.string, rest)
  | '"' :: rest => (afterString rest).map fun rest => (.string, rest)
  | '.' :: '.' :: '.' :: rest => some (.spread, rest)
  | c :: rest =>
    if isPunctuator c then some (.punctuator c, rest)
    else if isNameStart c then
      some (.name (String.ofList (c :: rest.takeWhile isNamePart)), rest.dropWhile isNamePart)
    else if c = '-' ∨ c.isDigit then
      if isNumber (c :: rest.takeWhile (!endsNumber ·)) then
        some (.number, rest.dropWhile (!endsNumber ·))
      else none
    else none

/-- All tokens of a text. Each takes at least one character, so the length of the text
bounds their number. -/
def scan : Nat → List Char → Option (List Token)
  | _, [] => some []
  | 0, _ :: _ => none
  | fuel + 1, c :: rest =>
    if isSpace c then scan fuel rest
    else if c = '#' then scan fuel (dropComment rest)
    else do
      let (token, rest) ← first (c :: rest)
      let tokens ← scan fuel rest
      pure (token :: tokens)

def opens : Token → Bool
  | .punctuator c => c == '(' || c == '[' || c == '\x7b'
  | _ => false

def closes : Token → Bool
  | .punctuator c => c == ')' || c == ']' || c == '\x7d'
  | _ => false

/-- Whether at most `room` more brackets are open at any time. -/
def nestsWithin (room : Nat) : List Token → Bool
  | [] => true
  | t :: rest =>
    if t.opens then
      match room with
      | 0 => false
      | room + 1 => nestsWithin room rest
    else if t.closes then nestsWithin (room + 1) rest
    else nestsWithin room rest

/-- Brackets of all kinds together nest at most this deep. -/
def maxNesting : Nat := 50

def ofText (s : List Char) : Option (List Token) :=
  (scan s.length s).filter (nestsWithin maxNesting)

end Token

end IndexerTypes.Sdl
