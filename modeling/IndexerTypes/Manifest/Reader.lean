import IndexerTypes.Decimal.Positional
import IndexerTypes.Manifest.Basic
import IndexerTypes.Yaml.Resolution

/-! Manifests from YAML texts. Of the document only the schema and the data sources are read
at once; the fields of a data source are read in the order in which they are written, which
decides what is reported first. -/

namespace IndexerTypes

namespace DataSource

open Yaml (Value)

def foundIn : Value → Found
  | .null => .unit
  | .bool b => .bool b
  | .number (.natural n) => .natural n
  | .number (.negative n) => .negative n
  | .number (.real x) => .real (Decimal.positional x)
  | .text s => .text s
  | .sequence _ => .sequence
  | .mapping _ => .map
  | .tagged _ _ => .unit

def mismatched (v : Value) (expected : String) : Except Mismatch α :=
  .error (.wrongType (foundIn v) expected)

def readText (v : Value) : Except Mismatch String :=
  match v.untagged with
  | .text s => .ok s
  | other => mismatched other "a string"

def readWord (v : Value) : Except Mismatch UInt64 :=
  match v.untagged with
  | .number (.natural n) => .ok (UInt64.ofNat n)
  | .number (.negative n) => .error (.wrongValue (.negative n) "u64")
  | other => mismatched other "u64"

def readOptional (read : Value → Except Mismatch α) : Value → Except Mismatch (Option α)
  | .null => .ok none
  | v => (read v).map some

/-- The items of a sequence; null has none. -/
def readList (read : Value → Except Mismatch α) (v : Value) : Except Mismatch (List α) :=
  match v.untagged with
  | .sequence items => items.mapM read
  | .null => .ok []
  | other => mismatched other "a sequence"

def fieldName (key : Value) : Except Mismatch String :=
  match key.untagged with
  | .text s => .ok s
  | other => mismatched other "field identifier"

/-- Takes up the fields of a record in order; null has no fields. -/
def readFields (expected : String) (step : α → String → Value → Except Mismatch α) (start : α)
    (v : Value) : Except Mismatch α :=
  match v.untagged with
  | .mapping pairs =>
    pairs.foldlM (fun found p => do step found (← fieldName p.1) p.2) start
  | .null => .ok start
  | other => mismatched other ("struct " ++ expected)

/-- The value of a field that is met for the first time. -/
def once (name : String) (found : Option α) (value : Except Mismatch α) :
    Except Mismatch (Option α) :=
  if found.isSome then .error (.repeatedField name) else value.map some

def required (name : String) : Option α → Except Mismatch α
  | some a => .ok a
  | none => .error (.missingField name)

/-- The fields of an ABI reference that were met so far. -/
structure AbiFields where
  name : Option String
  file : Option String

def abiField (f : AbiFields) (key : String) (v : Value) : Except Mismatch AbiFields :=
  match key with
  | "name" => do pure { f with name := ← once "name" f.name (readText v) }
  | "file" => do pure { f with file := ← once "file" f.file (readText v) }
  | _ => .ok f

def readAbi (v : Value) : Except Mismatch AbiReference := do
  let f ← readFields "AbiRef" abiField ⟨none, none⟩ v
  pure ⟨← required "name" f.name, ← required "file" f.file⟩

def handlerField (event : Option String) (key : String) (v : Value) :
    Except Mismatch (Option String) :=
  match key with
  | "event" => once "event" event (readText v)
  | _ => .ok event

/-- The event of a handler; the handler itself does not matter. -/
def readHandler (v : Value) : Except Mismatch String := do
  required "event" (← readFields "EventHandler" handlerField none v)

structure ContractFields where
  address : Option String
  abi : Option (Option String)
  startBlock : Option (Option UInt64)

def contractField (f : ContractFields) (key : String) (v : Value) :
    Except Mismatch ContractFields :=
  match key with
  | "address" => do pure { f with address := ← once "address" f.address (readText v) }
  | "abi" => do pure { f with abi := ← once "abi" f.abi (readOptional readText v) }
  | "startBlock" => do
    pure { f with startBlock := ← once "startBlock" f.startBlock (readOptional readWord v) }
  | _ => .ok f

/-- The contract of a data source. -/
structure Contract where
  address : String
  abi : Option String
  startBlock : Option UInt64

def readContract (v : Value) : Except Mismatch Contract := do
  let f ← readFields "RawSource" contractField ⟨none, none, none⟩ v
  pure ⟨← required "address" f.address, f.abi.join, f.startBlock.join⟩

structure MappingFields where
  abis : Option (List AbiReference)
  events : Option (List String)

def mappingField (f : MappingFields) (key : String) (v : Value) :
    Except Mismatch MappingFields :=
  match key with
  | "abis" => do pure { f with abis := ← once "abis" f.abis (readList readAbi v) }
  | "eventHandlers" => do
    pure { f with events := ← once "eventHandlers" f.events (readList readHandler v) }
  | _ => .ok f

/-- The ABIs of a data source and its events. -/
structure Mapping where
  abis : List AbiReference
  events : List String

def readMapping (v : Value) : Except Mismatch Mapping := do
  let f ← readFields "RawMapping" mappingField ⟨none, none⟩ v
  pure ⟨← required "abis" f.abis, f.events.getD []⟩

structure Fields where
  name : Option String
  network : Option (Option String)
  contract : Option Contract
  mapping : Option Mapping

def field (f : Fields) (key : String) (v : Value) : Except Mismatch Fields :=
  match key with
  | "name" => do pure { f with name := ← once "name" f.name (readText v) }
  | "network" => do
    pure { f with network := ← once "network" f.network (readOptional readText v) }
  | "source" => do pure { f with contract := ← once "source" f.contract (readContract v) }
  | "mapping" => do pure { f with mapping := ← once "mapping" f.mapping (readMapping v) }
  | _ => .ok f

/-- A data source as it is written, not yet checked. -/
def ofValue (v : Value) : Except Mismatch DataSource := do
  let f ← readFields "RawDataSource" field ⟨none, none, none, none⟩ v
  let name ← required "name" f.name
  let contract ← required "source" f.contract
  let mapping ← required "mapping" f.mapping
  pure ⟨name, f.network.join, contract.address, contract.abi, contract.startBlock, mapping.abis,
    mapping.events⟩

/-- The name that a refusal gives to a data source. -/
def nameIn (v : Value) : String := ((v.get? "name").bind Value.text?).getD "<unnamed>"

def read (v : Value) : Except Flaw DataSource :=
  match ofValue v with
  | .error m => .error (.mismatch m)
  | .ok d =>
    match d.check with
    | .error flaw => .error flaw
    | .ok _ => .ok d

end DataSource

namespace Manifest

open Yaml (Document Node)

def readSchemaFile (d : Document) (n : Node) : Document.Reader String := do
  let file ← (← d.pairs n).foldlM (fun (file : Option String) (k, v) => do
    if (← d.text k) = "file" then
      if file.isSome then failure else pure (some (← d.text v))
    else pure file) none
  match file with
  | some file => pure file
  | none => failure

def readSchema (d : Document) (n : Node) : Document.Reader (Option String) := do
  match ← d.optional n with
  | none => pure none
  | some n => pure (some (← readSchemaFile d n))

/-- What has been read of the top of a document. -/
structure Fields where
  schema : Option (Option String)
  dataSources : Option (List Yaml.Value)

def readField (d : Document) (f : Fields) (pair : Node × Node) : Document.Reader Fields := do
  match ← d.text pair.1 with
  | "schema" =>
    if f.schema.isSome then failure
    else pure { f with schema := some (← readSchema d pair.2) }
  | "dataSources" =>
    if f.dataSources.isSome then failure
    else
      let values ← (← d.items pair.2).mapM (d.value (Document.maxDepth - 2))
      pure { f with dataSources := some values }
  | _ => pure f

def ofDocument (d : Document) : Document.Reader Manifest := do
  let f ← (← d.pairs d.root).foldlM (readField d) ⟨none, none⟩
  pure ⟨f.schema.join, f.dataSources.getD []⟩

/-- The manifest in a text; `none` if the text is not well-formed or of another shape. -/
def read? (text : String) : Option Manifest := do
  let d := Document.ofNode (← Yaml.read? text)
  let (m, _) ← (ofDocument d).run d.maxFollows
  pure m

/-- Checks data sources in order, each also against the names before it. -/
def checkFrom (accepted : List DataSource) : List Yaml.Value → Except Rejection (List DataSource)
  | [] => .ok accepted
  | v :: rest =>
    match DataSource.read v with
    | .error flaw => .error ⟨accepted.length, DataSource.nameIn v, flaw⟩
    | .ok d =>
      if accepted.any fun a => a.name = d.name then
        .error ⟨accepted.length, d.name, .repeatedName⟩
      else checkFrom (accepted ++ [d]) rest

/-- All data sources of the manifest, or the first that is at fault. -/
def sources (m : Manifest) : Except Rejection (List DataSource) := checkFrom [] m.dataSources

end Manifest

end IndexerTypes
