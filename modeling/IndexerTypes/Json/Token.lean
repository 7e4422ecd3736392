import IndexerTypes.Json.Numeral
import IndexerTypes.Json.Quotation

/-! The tokens of a JSON text. -/

namespace IndexerTypes.Json

inductive Token where
  | openBracket
  | closeBracket
  | openBrace
  | closeBrace
  | comma
  | colon
  /-- A literal or a number. -/
  | leaf (value : Json)
  /-- A quotation; its content is missing where it has half of a surrogate pair. -/
  | quotation (content : Option (List Char))

namespace Token

def isSpace (c : Char) : Bool := c == ' ' || c == '\t' || c == '\n' || c == '\r'

/-- The token at the start of a text that does not start with a space. -/
def first : List Char → Option (Token × List Char)
  | [] => none
  | '[' :: rest => some (.openBracket, rest)
  | ']' :: rest => some (.closeBracket, rest)
  | '\x7b' :: rest => some (.openBrace, rest)
  | '\x7d' :: rest => some (.closeBrace, rest)
  | ',' :: rest => some (.comma, rest)
  | ':' :: rest => some (.colon, rest)
  | 'n' :: 'u' :: 'l' :: 'l' :: rest => some (.leaf .null, rest)
  | 't' :: 'r' :: 'u' :: 'e' :: rest => some (.leaf (.bool true), rest)
  | 'f' :: 'a' :: 'l' :: 's' :: 'e' :: rest => some (.leaf (.bool false), rest)
  | '"' :: rest => (Quotation.read rest).map fun (s, rest) => (.quotation s, rest)
  | s => (Numeral.read s).map fun (n, rest) => (.leaf n.value, rest)

/-- All tokens of a text. Each takes at least one character, so the length of the text
bounds their number. -/
def scan : Nat → List Char → Option (List Token)
  | _, [] => some []
  | 0, _ :: _ => none
  | fuel + 1, c :: rest =>
    if isSpace c then scan fuel rest
    else do
      let (token, rest) ← first (c :: rest)
      let tokens ← scan fuel rest
      pure (token :: tokens)

def ofText (s : List Char) : Option (List Token) := scan s.length s

end Token

end IndexerTypes.Json
