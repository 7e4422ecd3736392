import IndexerTypes.Abi.Basic
import IndexerTypes.Distinct
import IndexerTypes.Mismatch
import IndexerTypes.Text.Identifier
import IndexerTypes.Yaml.Value

/-! Manifests of a foreign project: where its schema is, and the contracts that it reads.
Data sources stay as they are written until they are checked one by one, so that a refusal
can say which one is at fault. -/

namespace IndexerTypes

/-- A name for an ABI file. -/
structure AbiReference where
  name : String
  file : String
  deriving DecidableEq, Repr

/-- A data source that passed all checks. -/
structure DataSource where
  name : String
  network : Option String
  address : String
  /-- The name of the ABI of the contract. -/
  abi : Option String
  startBlock : Option UInt64
  abis : List AbiReference
  /-- The signatures of the events that have a handler. -/
  events : List String
  deriving DecidableEq, Repr

namespace DataSource

/-- Why a data source is refused. -/
inductive Flaw where
  | mismatch (m : Mismatch)
  | badName (name : String)
  | blankAddress
  | handlerWithoutEvent (position : Nat)
  | repeatedName

def Flaw.message : Flaw → String
  | .mismatch m => m.message
  | .badName name => "`name` must be a valid identifier, got `" ++ name ++ "`"
  | .blankAddress => "`source.address` is empty"
  | .handlerWithoutEvent position => "event handler #" ++ toString position ++ " has no event name"
  | .repeatedName => "duplicate data source name"

def fileOf? (abis : List AbiReference) (name : String) : Option String :=
  (abis.find? fun a => a.name = name).map AbiReference.file

/-- The file of the ABI that the source names, or else of the one named like the source. -/
def abiFile? (d : DataSource) : Option String :=
  (d.abi.bind (fileOf? d.abis)).orElse fun _ => fileOf? d.abis d.name

/-- The names of the events with a handler, each once. -/
def eventNames (d : DataSource) : List String := Distinct.firsts id (d.events.map Abi.baseName)

def isBlankText (s : String) : Bool := (Text.trim s.toList).isEmpty

/-- The checks that a data source must pass by itself. -/
def check (d : DataSource) : Except Flaw Unit :=
  if !Text.isIdentifier d.name then .error (.badName d.name)
  else if isBlankText d.address then .error .blankAddress
  else
    match d.events.findIdx? fun e => (Abi.baseName e).isEmpty with
    | some position => .error (.handlerWithoutEvent position)
    | none => .ok ()

end DataSource

structure Manifest where
  schemaFile : Option String
  dataSources : List Yaml.Value

namespace Manifest

/-- The data source that is at fault, counted from zero, and why. -/
structure Rejection where
  index : Nat
  name : String
  flaw : DataSource.Flaw

def Rejection.message (r : Rejection) : String :=
  "Invalid data source #" ++ toString r.index ++ " (" ++ r.name ++ "): " ++ r.flaw.message

end Manifest

end IndexerTypes
