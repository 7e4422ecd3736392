import IndexerTypes.EntitySchema
import IndexerTypes.GeneratedFile
import IndexerTypes.TypeScript
import IndexerTypes.TypeTable

/-! The module of entity types: for each entity the shape of its instances and the model
that gives access to them, and at the end a map from entity names to models. A field
without a type stops the whole module. -/

namespace IndexerTypes.EntityTypes

open TypeScript

def filename : String := "entities.ts"

/-- A field that has no type. -/
inductive Unmappable where
  | scalar (entity field name : String)
  | listElement (entity field : String)
  deriving DecidableEq, Repr

def Unmappable.message : Unmappable → String
  | .scalar entity field name =>
    "TypeScript type not found for scalar `" ++ name ++ "` (field `" ++ entity ++ "." ++
      field ++ "`)"
  | .listElement entity field =>
    "Unable to generate type for list field `" ++ entity ++ "." ++ field ++ "`"

def elementType? : ListElement → Option String
  | .scalar name => TypeTable.scalarType? name
  | .enum type => some (stringUnion type.values)
  | .unsupported _ => none

/-- The type of a field. References to entities are stored by key. -/
def fieldType (entity : String) (field : EntityField) : Except Unmappable String :=
  match field.kind with
  | .id => .ok "string"
  | .relationship _ => .ok "string"
  | .enum type => .ok (stringUnion type.values)
  | .scalar name =>
    match TypeTable.scalarType? name with
    | some type => .ok type
    | none => .error (.scalar entity field.name name)
  | .list element =>
    match elementType? element with
    | some type => .ok (arrayOf type)
    | none => .error (.listElement entity field.name)

/-- Keys and references are present whether or not the schema says so. -/
def isRequired (field : EntityField) : Bool :=
  match field.kind with
  | .id => true
  | .relationship _ => true
  | _ => field.notNull

def fieldMember (entity : String) (field : EntityField) : Except Unmappable Member := do
  let type ← fieldType entity field
  pure ⟨field.name, type, !isRequired field⟩

def instanceName (entity : String) : String := entity ++ "Instance"

def modelName (entity : String) : String := entity ++ "Model"

def instanceType (entity : Entity) : Except Unmappable String := do
  let members ← entity.fields.mapM (fieldMember entity.name)
  pure (objectAlias (instanceName entity.name) members)

def modelMembers (entity : String) : List Member :=
  let shape := instanceName entity
  [ .required "get" ("(id: string) => Promise<" ++ shape ++ " | null>"),
    .required "insert" ("(obj: " ++ shape ++ ") => Promise<" ++ shape ++ ">"),
    .required "update"
      ("(obj: \x7b id: string \x7d & Partial<" ++ shape ++ ">) => Promise<" ++ shape ++ ">"),
    .required "delete" "(id: string) => Promise<void>" ]

def modelType (entity : String) : String := objectAlias (modelName entity) (modelMembers entity)

def entitySection (entity : Entity) : Except Unmappable String := do
  let shape ← instanceType entity
  pure ("\n" ++ shape ++ "\n" ++ modelType entity.name)

def modelEntry (entity : Entity) : Member := .required entity.name (modelName entity.name)

def file (schema : EntitySchema) : Except Unmappable GeneratedFile := do
  let sections ← schema.entities.mapM entitySection
  pure {
    filename := filename
    content :=
      generatedNote ++ "\n" ++ String.join sections ++ "\n" ++
        objectAlias "entities" (schema.entities.map modelEntry) }

end IndexerTypes.EntityTypes
