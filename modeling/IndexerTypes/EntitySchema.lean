import IndexerTypes.Sdl.Reader

/-! The entities of a schema: the object types marked with the directive `entity`. What a
field's type name stands for is decided here, once all enums and entities are known, so the
order of definitions does not matter. -/

namespace IndexerTypes

inductive ListElement where
  | scalar (name : String)
  | enum (type : Sdl.EnumType)
  /-- An entity or a nested list, as it is written. -/
  | unsupported (type : String)
  deriving DecidableEq, Repr

inductive FieldKind where
  | id
  | scalar (name : String)
  | enum (type : Sdl.EnumType)
  | list (element : ListElement)
  /-- A reference to another entity. -/
  | relationship (entity : String)
  deriving DecidableEq, Repr

structure EntityField where
  name : String
  kind : FieldKind
  notNull : Bool
  deriving DecidableEq, Repr

structure Entity where
  name : String
  fields : List EntityField
  deriving DecidableEq, Repr

structure EntitySchema where
  entities : List Entity
  deriving DecidableEq, Repr

namespace EntitySchema

inductive ReadError where
  | malformed (detail : String)
  | duplicateEntity (name : String)
  deriving DecidableEq, Repr

def ReadError.message : ReadError → String
  | .malformed detail => "Failed to parse GraphQL schema: " ++ detail
  | .duplicateEntity name => "Entity `" ++ name ++ "` is defined more than once"

def isEntity (type : Sdl.ObjectType) : Bool := type.directives.contains "entity"

def entityType? : Sdl.Definition → Option Sdl.ObjectType
  | .object type => if isEntity type then some type else none
  | _ => none

def enumType? : Sdl.Definition → Option Sdl.EnumType
  | .enum type => some type
  | _ => none

/-- The object types of a document that are entities. -/
def entityTypes (document : Sdl.Document) : List Sdl.ObjectType := document.filterMap entityType?

def isEntityName (document : Sdl.Document) (name : String) : Bool :=
  (entityTypes document).any fun type => type.name = name

/-- The enum of a name; if several are defined, the last. -/
def enumNamed? (document : Sdl.Document) (name : String) : Option Sdl.EnumType :=
  (document.filterMap enumType?).reverse.find? fun type => type.name = name

/-- An enum hides an entity of the same name, and `ID` hides both. -/
def namedKind (document : Sdl.Document) (name : String) : FieldKind :=
  if name = "ID" then .id
  else
    match enumNamed? document name with
    | some type => .enum type
    | none => if isEntityName document name then .relationship name else .scalar name

def listElement (document : Sdl.Document) (type : Sdl.TypeRef) : ListElement :=
  match type.nullable with
  | .named name =>
    match enumNamed? document name with
    | some type => .enum type
    | none => if isEntityName document name then .unsupported name else .scalar name
  | nested => .unsupported nested.render

def fieldKind (document : Sdl.Document) (type : Sdl.TypeRef) : FieldKind :=
  match type.nullable with
  | .list element => .list (listElement document element)
  | .named name => namedKind document name
  | .nonNull _ => .scalar type.render

def resolveField (document : Sdl.Document) (field : Sdl.Field) : EntityField where
  name := field.name
  kind := fieldKind document field.type
  notNull := field.type.isNonNull

def resolveEntity (document : Sdl.Document) (type : Sdl.ObjectType) : Entity where
  name := type.name
  fields := type.fields.map (resolveField document)

/-- The first name that stands in a list for the second time. -/
def firstRepeated? (seen : List String) : List String → Option String
  | [] => none
  | name :: rest =>
    if seen.contains name then some name else firstRepeated? (name :: seen) rest

/-- The entities of a document, in its order. -/
def ofDocument (document : Sdl.Document) : Except ReadError EntitySchema :=
  match firstRepeated? [] ((entityTypes document).map Sdl.ObjectType.name) with
  | some name => .error (.duplicateEntity name)
  | none => .ok ⟨(entityTypes document).map (resolveEntity document)⟩

def read (text : String) : Except ReadError EntitySchema :=
  match Sdl.read? text with
  | none => .error (.malformed "not a schema document")
  | some document => ofDocument document

def entity? (schema : EntitySchema) (name : String) : Option Entity :=
  schema.entities.find? fun entity => entity.name = name

end EntitySchema

end IndexerTypes
