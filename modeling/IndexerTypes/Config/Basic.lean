import IndexerTypes.Json.Printer
import IndexerTypes.Network
import IndexerTypes.Path
import IndexerTypes.Text.Identifier

/-! The configuration of a project: the networks that it indexes and the contracts on them.
Source names become type names and module names, so they must be distinct identifiers. -/

namespace IndexerTypes

/-- A contract to index. -/
structure Source where
  kind : ChainKind
  name : String
  network : String
  /-- Where the ABI is, seen from the root of the project. -/
  abi : String
  address : String
  startBlock : Option UInt64
  deriving DecidableEq, Repr

/-- A leading `./` counts for nothing. -/
def Source.abiPath (s : Source) (root : Path) : Path :=
  root.join ⟨String.ofList (Path.withoutDotSlash s.abi.toList)⟩

structure Config where
  networks : List Network
  sources : List Source
  deriving DecidableEq, Repr

namespace Config

def filename : String := "ponder.config.json"

def environmentFilename : String := ".env.local"

def schemaFilename : String := "schema.graphql"

/-- Why a configuration is refused. -/
inductive Flaw where
  | malformed (detail : String)
  | badName (source : String)
  | repeatedName (source : String)
  | undeclaredNetwork (source network : String)
  deriving DecidableEq, Repr

def Flaw.message : Flaw → String
  | .malformed detail => detail
  | .badName source => "source name `" ++ source ++ "` is not a valid identifier"
  | .repeatedName source => "duplicate source name `" ++ source ++ "`"
  | .undeclaredNetwork source network =>
    "source `" ++ source ++ "` uses undeclared network `" ++ network ++ "`"

/-- Without any declared network every network name is allowed. -/
def isDeclared (networks : List Network) (name : String) : Bool :=
  networks.isEmpty || networks.any fun n => n.name = name

def checkSource (networks : List Network) (earlier : List Source) (s : Source) :
    Except Flaw Unit :=
  if !Text.isIdentifier s.name then .error (.badName s.name)
  else if earlier.any fun e => e.name = s.name then .error (.repeatedName s.name)
  else if !isDeclared networks s.network then .error (.undeclaredNetwork s.name s.network)
  else .ok ()

/-- Checks sources in order, each against those before it. -/
def checkFrom (networks : List Network) (earlier : List Source) : List Source → Except Flaw Unit
  | [] => .ok ()
  | s :: rest =>
    match checkSource networks earlier s with
    | .error flaw => .error flaw
    | .ok _ => checkFrom networks (earlier ++ [s]) rest

def check (c : Config) : Except Flaw Unit := checkFrom c.networks [] c.sources

def kindDocument : ChainKind → Json
  | .evm => .text "evm"

def wordDocument (n : UInt64) : Json := .number (.natural n.toNat)

def networkDocument (n : Network) : Json :=
  .object [
    ("kind", kindDocument n.kind),
    ("name", .text n.name),
    ("chainId", wordDocument n.chainId),
    ("rpcUrl", .text n.rpcUrl)]

/-- A start block that is not set is left out. -/
def startBlockMembers : Option UInt64 → List (String × Json)
  | none => []
  | some block => [("startBlock", wordDocument block)]

def sourceDocument (s : Source) : Json :=
  .object ([
    ("kind", kindDocument s.kind),
    ("name", .text s.name),
    ("network", .text s.network),
    ("abi", .text s.abi),
    ("address", .text s.address)] ++ startBlockMembers s.startBlock)

def document (c : Config) : Json :=
  .object [
    ("networks", .array (c.networks.map networkDocument)),
    ("sources", .array (c.sources.map sourceDocument))]

/-- The configuration as a file holds it. -/
def text (c : Config) : String := c.document.render 0 ++ "\n"

end Config

end IndexerTypes
