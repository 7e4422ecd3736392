import IndexerTypes.Program

/-! The part of a tree that a command looks at or changes. What it reads first names what it
reads next, so the more of the tree is known, the more of its paths are. -/

namespace IndexerTypes.Reach

def ofEffect : Effect → List Path
  | .directory path => [path]
  | .copy _ source target => [source, target]
  | .write _ target _ => [target]

/-- The paths of an import before its manifest is known. -/
def ofImport (i : Import) : List Path := i.candidates.map fun name => i.directory.join ⟨name⟩

def abiFiles (i : Import) (m : Manifest) : List Path :=
  match m.sources with
  | .ok sources => (sources.filterMap DataSource.abiFile?).map fun file => i.directory.join ⟨file⟩
  | .error _ => []

/-- The files that the manifest of an import names. -/
def ofManifest (i : Import) (t : FileTree) : List Path :=
  match (Manifest.locate t i.directory i.candidates).bind (Manifest.load t) with
  | .ok m => m.schemaFile.toList.map (fun file => i.directory.join ⟨file⟩) ++ abiFiles i m
  | .error _ => []

def ofPlan (i : Import) (t : FileTree) : List Path :=
  match (i.plan t).result with
  | .ok p => p.effects.flatMap ofEffect
  | .error _ => []

/-- The paths of a generation before its configuration is known. -/
def ofGeneration (g : Generation) : List Path :=
  [g.root.join ⟨Config.filename⟩, g.root.join ⟨Config.schemaFilename⟩, g.output,
    g.output.join ⟨EntityTypes.filename⟩]

def ofSource (g : Generation) (s : Source) : List Path :=
  [s.abiPath g.root, g.output.join ⟨HandlerTypes.filename s.name⟩]

def ofConfig (g : Generation) (t : FileTree) : List Path :=
  match Config.load t g.root with
  | .ok c => c.sources.flatMap (ofSource g)
  | .error _ => []

/-- The paths of a command that a tree lets one know. -/
def paths (settings : Settings) (t : FileTree) : CommandLine.Command → List Path
  | .generate options =>
    let g := Generation.ofOptions settings options
    ofGeneration g ++ ofConfig g t
  | .importFrom options =>
    let i := Import.ofOptions settings options
    ofImport i ++ ofManifest i t ++ ofPlan i t

/-- So often a tree has to be extended by the paths of a command before it holds them all:
by the manifest or the configuration, by what these name, and by what is written. -/
def rounds : Nat := 3

end IndexerTypes.Reach
