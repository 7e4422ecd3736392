import IndexerTypes.CommandLine
import IndexerTypes.Effect
import IndexerTypes.HandlerTypes
import IndexerTypes.InputFile

/-! Generating the types of a project. Every file is rendered before the first is written, so
a project that is not in order leaves the output directory as it was. -/

namespace IndexerTypes

/-- Whose types to generate, and the directory that receives them. -/
structure Generation where
  root : Path
  output : Path
  deriving DecidableEq, Repr

namespace Generation

def ofOptions (settings : Settings) (o : CommandLine.GenerateOptions) : Generation :=
  ⟨o.root, o.outputPath settings⟩

def entityTypes (t : FileTree) (root : Path) : Except Failure GeneratedFile :=
  match EntitySchema.load t root with
  | .error fault => .error (.ofFault fault)
  | .ok schema =>
    (EntityTypes.file schema).mapError fun field =>
      (Failure.ofFault (.unmappable field)).within "Failed to generate entity types"

/-- The handler types of one source, which depend on no other source. -/
def sourceTypes (t : FileTree) (root : Path) (s : Source) :
    Except Fault HandlerTypes.Result :=
  (Abi.load t (s.abiPath root)).map (HandlerTypes.generate s.name)

/-- The sources share nothing, so it does not matter which of them is worked on first. If several
are at fault, the first of them is told here, where tasks side by side could tell any of them. -/
def handlerTypes (t : FileTree) (root : Path) (sources : List Source) :
    Except Fault (List HandlerTypes.Result) :=
  sources.mapM (sourceTypes t root)

def startNotice (root : Path) (s : Source) : Notice :=
  ⟨.debug, "Generating handler types", [("source", s.name), ("abi", (s.abiPath root).text)]⟩

def sourceNotices (t : FileTree) (root : Path) (s : Source) : List Notice :=
  match sourceTypes t root s with
  | .ok result => result.notices
  | .error _ => []

/-- What there is to tell about the handler types of some sources. -/
def handlerNotices (t : FileTree) (root : Path) (sources : List Source) : List Notice :=
  sources.map (startNotice root) ++ sources.flatMap (sourceNotices t root)

/-- All files of a project, the entity types first. -/
structure Rendered where
  files : List GeneratedFile
  unmapped : List HandlerTypes.Unmapped

def Rendered.ofResults (entities : GeneratedFile) (results : List HandlerTypes.Result) :
    Rendered where
  files := entities :: results.map HandlerTypes.Result.file
  unmapped := results.flatMap HandlerTypes.Result.unmapped

/-- What a project renders to, with what there is to tell on the way to it. -/
structure Rendering where
  notices : List Notice
  result : Except Failure Rendered

def loadConfig (t : FileTree) (root : Path) : Except Failure Config :=
  (Config.load t root).mapError fun fault =>
    (Failure.ofFault fault).within "Failed to load project config"

def render (t : FileTree) (root : Path) : Rendering :=
  match loadConfig t root with
  | .error failure => ⟨[], .error failure⟩
  | .ok config =>
    match entityTypes t root with
    | .error failure => ⟨[], .error failure⟩
    | .ok entities =>
      { notices := handlerNotices t root config.sources
        result :=
          match handlerTypes t root config.sources with
          | .error fault => .error (.ofFault fault)
          | .ok results => .ok (Rendered.ofResults entities results) }

/-- The tree after some files were written, with the notices and perhaps what went wrong. -/
structure Written where
  tree : FileTree
  notices : List Notice
  failure : Option Failure

def writeContext (f : GeneratedFile) : String := "Failed to write " ++ f.filename

def writeFiles (output : Path) (t : FileTree) : List GeneratedFile → Written
  | [] => ⟨t, [], none⟩
  | f :: rest =>
    let performed := Effect.performAll t (f.effects "types" output)
    match performed.fault with
    | some fault =>
      ⟨performed.tree, performed.notices, some ((Failure.ofFault fault).within (writeContext f))⟩
    | none =>
      let later := writeFiles output performed.tree rest
      { later with notices := performed.notices ++ later.notices }

structure Summary where
  files : List Path
  unmapped : List HandlerTypes.Unmapped

/-- The tree after a run, with its notices and what it has made. -/
structure Run where
  tree : FileTree
  notices : List Notice
  result : Except Failure Summary

def run (g : Generation) (t : FileTree) : Run :=
  let rendering := render t g.root
  match rendering.result with
  | .error failure => ⟨t, rendering.notices, .error failure⟩
  | .ok rendered =>
    let written := writeFiles g.output t rendered.files
    { tree := written.tree
      notices := rendering.notices ++ written.notices
      result :=
        match written.failure with
        | some failure => .error failure
        | none => .ok ⟨rendered.files.map fun f => f.path g.output, rendered.unmapped⟩ }

end Generation

end IndexerTypes
