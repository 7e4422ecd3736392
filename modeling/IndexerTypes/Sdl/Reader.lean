import IndexerTypes.Sdl.Document
import IndexerTypes.Sdl.Token

/-! From tokens to a schema document. One token decides every choice, so a part that has
begun must be complete. -/

namespace IndexerTypes.Sdl.Reader

/-- Reads a part of a document off the front of the tokens. -/
abbrev Parser (α : Type) := List Token → Option (α × List Token)

def punctuator (c : Char) : Parser Unit
  | .punctuator d :: rest => if c = d then some ((), rest) else none
  | _ => none

def name : Parser String
  | .name text :: rest => some (text, rest)
  | _ => none

def keyword (word : String) : Parser Unit
  | .name text :: rest => if text = word then some ((), rest) else none
  | _ => none

def atPunctuator (c : Char) : List Token → Bool
  | .punctuator d :: _ => c = d
  | _ => false

def atKeyword (word : String) : List Token → Bool
  | .name text :: _ => text = word
  | _ => false

def skipPunctuator (c : Char) (tokens : List Token) : List Token :=
  if atPunctuator c tokens then tokens.drop 1 else tokens

def skipDescription : List Token → List Token
  | .string :: rest => rest
  | tokens => tokens

/-- Parts up to a closing mark, which is taken too. -/
def upTo (close : Char) (part : Parser α) : Nat → Parser (List α)
  | 0, _ => none
  | fuel + 1, tokens =>
    if atPunctuator close tokens then some ([], tokens.drop 1)
    else do
      let (a, tokens) ← part tokens
      let (as, tokens) ← upTo close part fuel tokens
      pure (a :: as, tokens)

/-- At least one part between an opening and a closing mark, or nothing at all. -/
def optionalBlock (opening close : Char) (part : Parser α) (fuel : Nat) : Parser (List α)
  | tokens =>
    if atPunctuator opening tokens then
      match upTo close part fuel (tokens.drop 1) with
      | some ([], _) => none
      | other => other
    else some ([], tokens)

/-- Names with a mark between them. -/
def names (mark : Char) : Nat → Parser (List String)
  | 0, _ => none
  | fuel + 1, tokens => do
    let (first, tokens) ← name tokens
    if atPunctuator mark tokens then
      let (others, tokens) ← names mark fuel (tokens.drop 1)
      pure (first :: others, tokens)
    else pure ([first], tokens)

mutual

/-- A value, with variables in it where `withVariables` says so. -/
def value (withVariables : Bool) : Nat → Parser Unit
  | 0, _ => none
  | fuel + 1, tokens =>
    match tokens with
    | .name _ :: rest => some ((), rest)
    | .number :: rest => some ((), rest)
    | .string :: rest => some ((), rest)
    | .punctuator '$' :: .name _ :: rest => if withVariables then some ((), rest) else none
    | .punctuator '[' :: rest => listItems withVariables fuel rest
    | .punctuator '\x7b' :: rest => objectMembers withVariables fuel rest
    | _ => none

def listItems (withVariables : Bool) : Nat → Parser Unit
  | 0, _ => none
  | fuel + 1, tokens =>
    match tokens with
    | .punctuator ']' :: rest => some ((), rest)
    | tokens => do
      let (_, tokens) ← value withVariables fuel tokens
      listItems withVariables fuel tokens

def objectMembers (withVariables : Bool) : Nat → Parser Unit
  | 0, _ => none
  | fuel + 1, tokens =>
    match tokens with
    | .punctuator '\x7d' :: rest => some ((), rest)
    | .name _ :: .punctuator ':' :: rest => do
      let (_, tokens) ← value withVariables fuel rest
      objectMembers withVariables fuel tokens
    | _ => none

end

def argument (fuel : Nat) : Parser Unit
  | tokens => do
    let (_, tokens) ← name tokens
    let (_, tokens) ← punctuator ':' tokens
    value true fuel tokens

/-- The names of the directives that stand here. -/
def directives : Nat → Parser (List String)
  | 0, _ => none
  | fuel + 1, tokens =>
    if atPunctuator '@' tokens then do
      let (first, tokens) ← name (tokens.drop 1)
      let (_, tokens) ← optionalBlock '(' ')' (argument fuel) fuel tokens
      let (others, tokens) ← directives fuel tokens
      pure (first :: others, tokens)
    else some ([], tokens)

def markNonNull (type : TypeRef) (tokens : List Token) : TypeRef × List Token :=
  if atPunctuator '!' tokens then (.nonNull type, tokens.drop 1) else (type, tokens)

def typeRef : Nat → Parser TypeRef
  | 0, _ => none
  | fuel + 1, tokens =>
    match tokens with
    | .name text :: rest => some (markNonNull (.named text) rest)
    | .punctuator '[' :: rest => do
      let (element, tokens) ← typeRef fuel rest
      let (_, tokens) ← punctuator ']' tokens
      pure (markNonNull (.list element) tokens)
    | _ => none

def defaultValue (fuel : Nat) : Parser Unit
  | tokens =>
    if atPunctuator '=' tokens then value false fuel (tokens.drop 1) else some ((), tokens)

/-- An argument of a field or a directive, or a field of an input type. -/
def inputValue (fuel : Nat) : Parser Unit
  | tokens => do
    let (_, tokens) ← name (skipDescription tokens)
    let (_, tokens) ← punctuator ':' tokens
    let (_, tokens) ← typeRef fuel tokens
    let (_, tokens) ← defaultValue fuel tokens
    let (_, tokens) ← directives fuel tokens
    pure ((), tokens)

def argumentDefinitions (fuel : Nat) : Parser (List Unit) :=
  optionalBlock '(' ')' (inputValue fuel) fuel

def field (fuel : Nat) : Parser Field
  | tokens => do
    let (fieldName, tokens) ← name (skipDescription tokens)
    let (_, tokens) ← argumentDefinitions fuel tokens
    let (_, tokens) ← punctuator ':' tokens
    let (type, tokens) ← typeRef fuel tokens
    let (_, tokens) ← directives fuel tokens
    pure (⟨fieldName, type⟩, tokens)

def interfaces (fuel : Nat) : Parser (List String)
  | tokens =>
    if atKeyword "implements" tokens then names '&' fuel (skipPunctuator '&' (tokens.drop 1))
    else some ([], tokens)

def enumValue (fuel : Nat) : Parser String
  | tokens => do
    let (valueName, tokens) ← name (skipDescription tokens)
    let (_, tokens) ← directives fuel tokens
    pure (valueName, tokens)

/-- What the body of a definition holds, and whether anything stands in it at all. -/
structure Body where
  definition : Definition
  isEmpty : Bool

def scalarBody (fuel : Nat) : Parser Body
  | tokens => do
    let (_, tokens) ← name tokens
    let (marks, tokens) ← directives fuel tokens
    pure (⟨.other, marks.isEmpty⟩, tokens)

def objectBody (fuel : Nat) : Parser Body
  | tokens => do
    let (typeName, tokens) ← name tokens
    let (parents, tokens) ← interfaces fuel tokens
    let (marks, tokens) ← directives fuel tokens
    let (fields, tokens) ← optionalBlock '\x7b' '\x7d' (field fuel) fuel tokens
    pure (⟨.object ⟨typeName, marks, fields⟩, parents.isEmpty && marks.isEmpty && fields.isEmpty⟩,
      tokens)

def interfaceBody (fuel : Nat) : Parser Body
  | tokens => do
    let (_, tokens) ← name tokens
    let (_, tokens) ← interfaces fuel tokens
    let (marks, tokens) ← directives fuel tokens
    let (fields, tokens) ← optionalBlock '\x7b' '\x7d' (field fuel) fuel tokens
    pure (⟨.other, marks.isEmpty && fields.isEmpty⟩, tokens)

def unionBody (fuel : Nat) : Parser Body
  | tokens => do
    let (_, tokens) ← name tokens
    let (marks, tokens) ← directives fuel tokens
    if atPunctuator '=' tokens then
      let (_, tokens) ← names '|' fuel (skipPunctuator '|' (tokens.drop 1))
      pure (⟨.other, false⟩, tokens)
    else pure (⟨.other, marks.isEmpty⟩, tokens)

def enumBody (fuel : Nat) : Parser Body
  | tokens => do
    let (typeName, tokens) ← name tokens
    let (marks, tokens) ← directives fuel tokens
    let (values, tokens) ← optionalBlock '\x7b' '\x7d' (enumValue fuel) fuel tokens
    pure (⟨.enum ⟨typeName, values⟩, marks.isEmpty && values.isEmpty⟩, tokens)

def inputBody (fuel : Nat) : Parser Body
  | tokens => do
    let (_, tokens) ← name tokens
    let (marks, tokens) ← directives fuel tokens
    let (fields, tokens) ← optionalBlock '\x7b' '\x7d' (inputValue fuel) fuel tokens
    pure (⟨.other, marks.isEmpty && fields.isEmpty⟩, tokens)

/-- The definition of a type, from its keyword on. -/
def typeBody (fuel : Nat) : Parser Body
  | .name word :: tokens =>
    if word = "scalar" then scalarBody fuel tokens
    else if word = "type" then objectBody fuel tokens
    else if word = "interface" then interfaceBody fuel tokens
    else if word = "union" then unionBody fuel tokens
    else if word = "enum" then enumBody fuel tokens
    else if word = "input" then inputBody fuel tokens
    else none
  | _ => none

def directiveLocations : List String := [
  "QUERY", "MUTATION", "SUBSCRIPTION", "FIELD", "FRAGMENT_DEFINITION", "FRAGMENT_SPREAD",
  "INLINE_FRAGMENT", "VARIABLE_DEFINITION", "SCHEMA", "SCALAR", "OBJECT", "FIELD_DEFINITION",
  "ARGUMENT_DEFINITION", "INTERFACE", "UNION", "ENUM", "ENUM_VALUE", "INPUT_OBJECT",
  "INPUT_FIELD_DEFINITION"]

def atName : List Token → Bool
  | .name _ :: _ => true
  | _ => false

/-- The places where a directive may stand, which need not be named at all. -/
def places (fuel : Nat) : Parser (List String)
  | tokens =>
    if atPunctuator '|' tokens || atName tokens then names '|' fuel (skipPunctuator '|' tokens)
    else some ([], tokens)

def directiveDefinition (fuel : Nat) : Parser Definition
  | tokens => do
    let (_, tokens) ← punctuator '@' tokens
    let (_, tokens) ← name tokens
    let (_, tokens) ← argumentDefinitions fuel tokens
    let tokens := if atKeyword "repeatable" tokens then tokens.drop 1 else tokens
    let (_, tokens) ← keyword "on" tokens
    let (named, tokens) ← places fuel tokens
    if named.all directiveLocations.contains then pure (.other, tokens) else none

def rootOperation : Parser String
  | tokens => do
    let (operation, tokens) ← name tokens
    let (_, tokens) ← punctuator ':' tokens
    let (_, tokens) ← name tokens
    pure (operation, tokens)

def operations : List String := ["query", "mutation", "subscription"]

/-- The root operations, each named at most once. -/
def schemaDefinition (fuel : Nat) : Parser Definition
  | tokens => do
    let (_, tokens) ← directives fuel tokens
    let (_, tokens) ← punctuator '\x7b' tokens
    let (roots, tokens) ← upTo '\x7d' rootOperation fuel tokens
    if roots.all operations.contains && decide roots.Nodup then pure (.other, tokens) else none

/-- The definition of a type or a directive. -/
def described (fuel : Nat) : Parser Definition
  | .name word :: tokens =>
    if word = "directive" then directiveDefinition fuel tokens
    else do
      let (body, tokens) ← typeBody fuel (.name word :: tokens)
      pure (body.definition, tokens)
  | _ => none

/-- An extension adds to a type that is defined elsewhere, and must add something. -/
def extension (fuel : Nat) : Parser Definition
  | tokens => do
    let (body, tokens) ← typeBody fuel tokens
    if body.isEmpty then none else pure (.other, tokens)

def definition (fuel : Nat) : Parser Definition
  | .string :: tokens => described fuel tokens
  | .name word :: tokens =>
    if word = "schema" then schemaDefinition fuel tokens
    else if word = "extend" then extension fuel tokens
    else described fuel (.name word :: tokens)
  | _ => none

def definitions (limit : Nat) : Nat → List Token → Option Document
  | _, [] => some []
  | 0, _ :: _ => none
  | fuel + 1, tokens => do
    let (first, tokens) ← definition limit tokens
    let others ← definitions limit fuel tokens
    pure (first :: others)

/-- The document that a list of tokens spells. It has at least one definition. -/
def document? (tokens : List Token) : Option Document :=
  if tokens.isEmpty then none else definitions (tokens.length + 1) tokens.length tokens

end IndexerTypes.Sdl.Reader

namespace IndexerTypes.Sdl

def read? (text : String) : Option Document := (Token.ofText text.toList).bind Reader.document?

end IndexerTypes.Sdl
