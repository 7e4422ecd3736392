import IndexerTypes.Reach

/-! The command line program: copies the part of the disk that a command concerns into a
tree, runs the command on the tree, and brings the changes back to the disk. -/

namespace IndexerTypes.Disk

def absolute (l : Location) : String := "/" ++ "/".intercalate l

/-- Takes the entry at a location into the tree, if there is one. -/
def loadEntry (t : FileTree) (l : Location) : IO FileTree := do
  let path := (← IO.currentDir) / absolute l
  if l.isEmpty then pure t
  else if ← path.isDir then pure (t.set l .directory)
  else if ← path.pathExists then pure (t.set l (.file (← IO.FS.readBinFile path)))
  else pure t

/-- Takes all entries on the way of a path into the tree. -/
def loadPath (t : FileTree) (p : Path) : IO FileTree := do
  let mut tree := t
  let mut place := if p.startsAtRoot then [] else t.workingDirectory
  for segment in p.segments do
    match tree.enter place segment with
    | .ok next =>
      place := next
      tree ← loadEntry tree place
    | .error _ => break
  pure tree

def loadAll (t : FileTree) (paths : List Path) : IO FileTree := paths.foldlM loadPath t

def start : IO FileTree := do
  let home := (Path.mk (← IO.currentDir).toString).segments
  let above := (List.range home.length).map fun k => home.take (k + 1)
  above.foldlM loadEntry ⟨home, []⟩

def load (settings : Settings) (command : CommandLine.Command) : IO FileTree := do
  let mut tree ← start
  for _ in List.range Reach.rounds do
    tree ← loadAll tree (Reach.paths settings tree command)
  pure tree

/-- Writes the entries that are new or changed. -/
def save (before after : FileTree) : IO Unit := do
  for (l, entry) in after.entries do
    if before.entryAt? l ≠ some entry then
      match entry with
      | .directory => IO.FS.createDirAll (absolute l)
      | .file content => IO.FS.writeBinFile (absolute l) content

end IndexerTypes.Disk

namespace IndexerTypes.Terminal

def usage : String :=
  "Usage: ponder-codegen [-v] codegen [-r ROOT] [-o OUTPUT_DIR]\n" ++
  "       ponder-codegen [-v] import --from DIR [-r ROOT] [--manifest FILE,...] " ++
  "[--default-network NETWORK]\n"

def settings : IO Settings := do
  let names :=
    [Settings.manifestFilesVariable, Settings.generatedDirVariable, Settings.defaultNetworkVariable]
  let values ← names.mapM fun name => do pure (name, ← IO.getEnv name)
  pure (Settings.ofEnvironment fun name => (values.lookup name).join)

def noticeLine (n : Notice) : String :=
  ", ".intercalate ((n.level.tag ++ " " ++ n.message) ::
    n.fields.map fun (key, value) => key ++ ": " ++ value)

def showEnding : Program.Ending → IO Unit
  | .done => pure ()
  | .help => IO.print usage
  | .version => IO.print Program.versionText
  | .refused => IO.eprint usage
  | .failed failure => IO.eprint failure.report

def run (args : List String) : IO Program.Run := do
  let settings ← settings
  match CommandLine.read args with
  | .error _ => pure (Program.run settings args ⟨[], []⟩)
  | .ok invocation =>
    let before ← Disk.load settings invocation.command
    let run := Program.run settings args before
    Disk.save before run.tree
    pure run

end IndexerTypes.Terminal

def main (args : List String) : IO UInt32 := do
  let run ← IndexerTypes.Terminal.run args
  for notice in run.notices do
    IO.eprintln (IndexerTypes.Terminal.noticeLine notice)
  IndexerTypes.Terminal.showEnding run.ending
  pure run.ending.exitCode.toUInt32
