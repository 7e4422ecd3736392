import IndexerTypes.CommandLine
import IndexerTypes.Effect
import IndexerTypes.InputFile
import IndexerTypes.Stub

/-! Importing a foreign project. A plan is made from what the tree holds and decides every
file that will be written; only then is anything changed. The configuration is written after
all that it refers to. -/

namespace IndexerTypes

/-- What to import, into which project. -/
structure Import where
  directory : Path
  root : Path
  /-- Manifest names to try, in order. -/
  candidates : List String
  /-- The network of a data source that names none. -/
  defaultNetwork : String
  deriving DecidableEq, Repr

namespace Import

def handlersDirectory : String := "handlers"

/-- An import as options ask for it; what they leave open is taken from the settings. -/
def ofOptions (settings : Settings) (o : CommandLine.ImportOptions) : Import where
  directory := o.directory
  root := o.root
  candidates := if o.manifests.isEmpty then settings.manifestFiles else o.manifests
  defaultNetwork := o.defaultNetwork.getD settings.defaultNetwork

/-- An ABI file and its name among the ABI files of the project. -/
structure AbiCopy where
  source : Path
  name : String
  deriving DecidableEq, Repr

structure Plan where
  root : Path
  schema : Path
  abis : List AbiCopy
  stubs : List GeneratedFile
  index : GeneratedFile
  config : Config
  deriving DecidableEq, Repr

/-- What the data sources so far have come to. -/
structure Progress where
  networks : NetworkSet
  abis : List AbiCopy
  stubs : List GeneratedFile
  sources : List Source

namespace Progress

def start : Progress := ⟨.empty, [], [], []⟩

def addNetwork (g : Progress) (name : String) (chainId : UInt64) : Progress :=
  { g with networks := g.networks.insert (Network.ofChain name chainId) }

/-- Takes up an ABI file under its own name, which no other file may have. -/
def addAbi (g : Progress) (path : Path) (name : String) : Except Fault Progress :=
  match g.abis.find? fun a => a.name = name with
  | none => .ok { g with abis := g.abis ++ [⟨path, name⟩] }
  | some other =>
    if Path.Same other.source path then .ok g
    else .error (.abiNameTaken other.source path name)

def addSource (g : Progress) (d : DataSource) (network abiName : String) : Progress :=
  { g with
    stubs := g.stubs ++ [Stub.file d.name d.eventNames]
    sources := g.sources ++
      [⟨.evm, d.name, network, "./" ++ abisDirectory ++ "/" ++ abiName, d.address, d.startBlock⟩] }

end Progress

def networkOf (i : Import) (d : DataSource) : String := d.network.getD i.defaultNetwork

/-- The ABI file of a data source, and its name. -/
def findAbi (i : Import) (t : FileTree) (d : DataSource) : Except Fault (Path × String) :=
  match d.abiFile? with
  | none => .error (.abiNotNamed d.name)
  | some file =>
    let path := i.directory.join ⟨file⟩
    if t.isFile path then
      match path.fileName? with
      | some name => .ok (path, name)
      | none => .error (.missingFile path)
    else .error (.missingFile path)

def planContract (i : Import) (t : FileTree) (d : DataSource) (g : Progress) :
    Except Fault Progress := do
  let (path, name) ← i.findAbi t d
  let g ← g.addAbi path name
  pure (g.addSource d (i.networkOf d) name)

/-- Takes up one data source. Its network stays taken up even if its ABI is at fault. -/
def planSource (i : Import) (t : FileTree) (d : DataSource) (g : Progress) :
    Progress × Option Fault :=
  match Network.chainId? (i.networkOf d) with
  | none => (g, some (.unknownNetwork d.name (i.networkOf d)))
  | some chainId =>
    let g := g.addNetwork (i.networkOf d) chainId
    match i.planContract t d g with
    | .error fault => (g, some fault)
    | .ok g => (g, none)

def planSources (i : Import) (t : FileTree) (g : Progress) : List DataSource →
    Progress × Option Fault
  | [] => (g, none)
  | d :: rest =>
    match i.planSource t d g with
    | (g, none) => i.planSources t g rest
    | (g, some fault) => (g, some fault)

/-- The schema file that a manifest names. -/
def findSchema (i : Import) (t : FileTree) (m : Manifest) : Except Fault Path :=
  match m.schemaFile with
  | none => .error .noSchemaFile
  | some file =>
    let path := i.directory.join ⟨file⟩
    if t.isFile path then .ok path else .error (.missingFile path)

/-- What a manifest says, once it is known to be in order. -/
structure Content where
  schema : Path
  dataSources : List DataSource

def readContent (i : Import) (t : FileTree) (manifest : Path) : Except Fault Content := do
  let m ← Manifest.load t manifest
  let schema ← i.findSchema t m
  let dataSources ← m.sources.mapError Fault.dataSource
  pure ⟨schema, dataSources⟩

def planOf (i : Import) (schema : Path) (g : Progress) : Plan where
  root := i.root
  schema := schema
  abis := g.abis
  stubs := g.stubs
  index := Stub.index (g.sources.map Source.name)
  config := ⟨g.networks.networks, g.sources⟩

def networkNotice (n : Network) : Notice :=
  ⟨.debug, "Added network", [("name", n.name), ("chain_id", toString n.chainId.toNat)]⟩

/-- A plan or a fault, with what there is to tell on the way to it. -/
structure Planned where
  notices : List Notice
  result : Except Fault Plan

/-- Decides the whole import. Nothing is changed. -/
def plan (i : Import) (t : FileTree) : Planned :=
  match Manifest.locate t i.directory i.candidates with
  | .error fault => ⟨[], .error fault⟩
  | .ok manifest =>
    let found := pathNotice "Importing subgraph manifest" manifest
    match i.readContent t manifest with
    | .error fault => ⟨[found], .error fault⟩
    | .ok content =>
      let (g, fault) := i.planSources t .start content.dataSources
      { notices := found :: g.networks.networks.map networkNotice
        result :=
          match fault with
          | some fault => .error fault
          | none => .ok (i.planOf content.schema g) }

namespace Plan

def abisPath (p : Plan) : Path := p.root.join ⟨abisDirectory⟩

def handlersPath (p : Plan) : Path := p.root.join ⟨handlersDirectory⟩

def schemaPath (p : Plan) : Path := p.root.join ⟨Config.schemaFilename⟩

def configPath (p : Plan) : Path := p.root.join ⟨Config.filename⟩

def environmentPath (p : Plan) : Path := p.root.join ⟨Config.environmentFilename⟩

def abiPath (p : Plan) (a : AbiCopy) : Path := p.abisPath.join ⟨a.name⟩

/-- The handler modules, with the index behind the others. -/
def modules (p : Plan) : List GeneratedFile := p.stubs ++ [p.index]

def directoryEffects (p : Plan) : List Effect := [.directory p.abisPath, .directory p.handlersPath]

def copyEffects (p : Plan) : List Effect :=
  .copy "schema" p.schema p.schemaPath :: p.abis.map fun a => .copy "ABI" a.source (p.abiPath a)

def moduleEffects (p : Plan) : List Effect :=
  p.modules.flatMap fun f => f.effects "handler module" p.handlersPath

def configEffects (p : Plan) : List Effect := [
  .write "project config" p.configPath p.config.text,
  .write "environment file" p.environmentPath (Network.environment p.config.networks)]

/-- All that the import changes, in order. -/
def effects (p : Plan) : List Effect :=
  p.directoryEffects ++ p.copyEffects ++ p.moduleEffects ++ p.configEffects

end Plan

/-- What an import has made. -/
structure Outcome where
  sources : List Source
  networks : List Network
  /-- The handler modules, with the index behind the others. -/
  stubs : List Path
  schemaFile : Path

def Plan.outcome (p : Plan) : Outcome :=
  ⟨p.config.sources, p.config.networks, p.modules.map fun f => f.path p.handlersPath, p.schemaPath⟩

/-- The tree after a run, with its notices and its result. -/
structure Applied where
  tree : FileTree
  notices : List Notice
  result : Except Fault Outcome

def Plan.apply (p : Plan) (t : FileTree) : Applied :=
  let performed := Effect.performAll t p.effects
  { tree := performed.tree
    notices := performed.notices
    result :=
      match performed.fault with
      | some fault => .error fault
      | none => .ok p.outcome }

/-- Makes a plan and carries it out. -/
def apply (i : Import) (t : FileTree) : Applied :=
  let planned := i.plan t
  match planned.result with
  | .error fault => ⟨t, planned.notices, .error fault⟩
  | .ok p =>
    let applied := p.apply t
    { applied with notices := planned.notices ++ applied.notices }

def context (i : Import) : String := "Failed to import subgraph from " ++ i.directory.text

def doneNotice (o : Outcome) : Notice where
  level := .info
  message := "Imported subgraph"
  fields := [("sources", toString o.sources.length), ("networks", toString o.networks.length)]

/-- The tree after an import, with its notices and what it has made. -/
structure Run where
  tree : FileTree
  notices : List Notice
  result : Except Failure Outcome

def run (i : Import) (t : FileTree) : Run :=
  let applied := i.apply t
  match applied.result with
  | .error fault =>
    ⟨applied.tree, applied.notices, .error ((Failure.ofFault fault).within i.context)⟩
  | .ok outcome => ⟨applied.tree, applied.notices ++ [doneNotice outcome], .ok outcome⟩

end Import

end IndexerTypes
