/-! Schema documents. Object types and enums are kept; of all other definitions only the
place in the document is. -/

namespace IndexerTypes.Sdl

inductive TypeRef where
  | named (name : String)
  | list (element : TypeRef)
  | nonNull (type : TypeRef)
  deriving DecidableEq, Repr

namespace TypeRef

def render : TypeRef → String
  | named name => name
  | list element => "[" ++ element.render ++ "]"
  | nonNull type => type.render ++ "!"

/-- The type without the marks around it. -/
def nullable : TypeRef → TypeRef
  | nonNull type => type.nullable
  | type => type

def isNonNull : TypeRef → Bool
  | nonNull _ => true
  | _ => false

end TypeRef

structure Field where
  name : String
  type : TypeRef
  deriving DecidableEq, Repr

structure ObjectType where
  name : String
  /-- The names of the directives on the type. -/
  directives : List String
  fields : List Field
  deriving DecidableEq, Repr

structure EnumType where
  name : String
  values : List String
  deriving DecidableEq, Repr

inductive Definition where
  | object (type : ObjectType)
  | enum (type : EnumType)
  | other
  deriving DecidableEq, Repr

abbrev Document := List Definition

end IndexerTypes.Sdl
