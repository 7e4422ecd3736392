import IndexerTypes.Text.Affix

/-! The declarations that generated files are made of: type-only imports, object types as
aliases or on one line, unions of string literals, and arrays. The text is final, nothing
reformats it. -/

namespace IndexerTypes.TypeScript

/-- The first line of every file that is not meant to be edited. -/
def generatedNote : String := "/* Autogenerated file. Do not edit manually. */"

/-- A member of an object type. -/
structure Member where
  name : String
  type : String
  optional : Bool
  deriving DecidableEq, Repr

namespace Member

def required (name type : String) : Member := ⟨name, type, false⟩

def absentable (name type : String) : Member := ⟨name, type, true⟩

def render (m : Member) : String :=
  m.name ++ (if m.optional then "?" else "") ++ ": " ++ m.type ++ ";"

end Member

structure ModuleImport where
  names : List String
  source : String
  deriving DecidableEq, Repr

def ModuleImport.render (i : ModuleImport) : String :=
  "import type \x7b " ++ ", ".intercalate i.names ++ " \x7d from \"" ++ i.source ++ "\";"

def memberLine (m : Member) : String := "  " ++ m.render ++ "\n"

/-- An exported alias with one member a line. -/
def objectAlias (name : String) (members : List Member) : String :=
  if members.isEmpty then "export type " ++ name ++ " = \x7b\x7d;\n"
  else "export type " ++ name ++ " = \x7b\n" ++ String.join (members.map memberLine) ++ "\x7d;\n"

/-- An object type on one line, without a separator after the last member. -/
def inlineObject (members : List Member) : String :=
  if members.isEmpty then "\x7b\x7d"
  else
    let body := " ".intercalate (members.map Member.render)
    "\x7b " ++ String.ofList (Text.dropTrailing ';' body.toList) ++ " \x7d"

def stringLiteral (value : String) : String := "\"" ++ value ++ "\""

/-- The closed union of some string literals; of none, the empty type. -/
def stringUnion (values : List String) : String :=
  if values.isEmpty then "never" else " | ".intercalate (values.map stringLiteral)

def isUnion (type : String) : Bool := Text.hasInfix " | ".toList type.toList

/-- An array type, with parentheses around a union. -/
def arrayOf (type : String) : String :=
  if isUnion type then "(" ++ type ++ ")[]" else type ++ "[]"

end IndexerTypes.TypeScript
