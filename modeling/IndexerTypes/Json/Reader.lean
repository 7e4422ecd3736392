import IndexerTypes.Json.Token

/-! From tokens to a document. Brackets and braces nest at most as deep as there are tokens. -/

namespace IndexerTypes.Json

def ofQuotation : Option (List Char) → Json
  | some s => .text (String.ofList s)
  | none => .unreadable

/-- Members whose keys all have content. -/
def withKeys? : List (Option (List Char) × Json) → Option (List (String × Json))
  | [] => some []
  | (some key, v) :: rest => (withKeys? rest).map ((String.ofList key, v) :: ·)
  | (none, _) :: _ => none

/-- An object has a value only if its keys have content. -/
def ofMembers (members : List (Option (List Char) × Json)) : Json :=
  match withKeys? members with
  | some members => .object members
  | none => .unreadable

/-- A key and the colon behind it. -/
def readKey : List Token → Option (Option (List Char) × List Token)
  | .quotation key :: .colon :: rest => some (key, rest)
  | _ => none

mutual

def readValue : Nat → List Token → Option (Json × List Token)
  | 0, _ => none
  | _ + 1, .leaf v :: rest => some (v, rest)
  | _ + 1, .quotation s :: rest => some (ofQuotation s, rest)
  | _ + 1, .openBracket :: .closeBracket :: rest => some (.array [], rest)
  | fuel + 1, .openBracket :: rest =>
    (readItems fuel rest).map fun (items, rest) => (.array items, rest)
  | _ + 1, .openBrace :: .closeBrace :: rest => some (.object [], rest)
  | fuel + 1, .openBrace :: rest =>
    (readMembers fuel rest).map fun (members, rest) => (ofMembers members, rest)
  | _ + 1, _ => none

/-- Values with commas between them, up to the closing bracket. -/
def readItems : Nat → List Token → Option (List Json × List Token)
  | 0, _ => none
  | fuel + 1, tokens =>
    match readValue fuel tokens with
    | some (v, .closeBracket :: rest) => some ([v], rest)
    | some (v, .comma :: rest) => (readItems fuel rest).map fun (items, rest) => (v :: items, rest)
    | _ => none

/-- Members with commas between them, up to the closing brace. -/
def readMembers :
    Nat → List Token → Option (List (Option (List Char) × Json) × List Token)
  | 0, _ => none
  | fuel + 1, tokens =>
    match readKey tokens with
    | none => none
    | some (key, rest) =>
      match readValue fuel rest with
      | some (v, .closeBrace :: rest) => some ([(key, v)], rest)
      | some (v, .comma :: rest) =>
        (readMembers fuel rest).map fun (members, rest) => ((key, v) :: members, rest)
      | _ => none

end

/-- The document that a list of tokens spells. -/
def ofTokens? (tokens : List Token) : Option Json :=
  match readValue (2 * tokens.length + 1) tokens with
  | some (v, []) => some v
  | _ => none

/-- The document in a text; `none` if the text is not well-formed. -/
def read? (s : String) : Option Json := (Token.ofText s.toList).bind ofTokens?

/-- Documents that are read for their values nest less than 128 deep. -/
def maxDepth : Nat := 127

/-- The document in a text, if each of its parts has a value. -/
def readStrict? (s : String) : Option Json :=
  (read? s).filter fun v => v.isReadable && v.depth ≤ maxDepth

end IndexerTypes.Json
