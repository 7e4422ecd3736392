import IndexerTypes.Fault
import IndexerTypes.GeneratedFile
import IndexerTypes.Notice

/-! Changes to a tree, decided first and performed later, one after the other. The first
that fails is the last that is tried; what was done before it stays done. -/

namespace IndexerTypes

inductive Effect where
  /-- Makes a directory and all that are missing above it. -/
  | directory (path : Path)
  /-- Copies a file, unless both paths lead to one file. -/
  | copy (what : String) (source target : Path)
  | write (what : String) (target : Path) (content : String)
  deriving DecidableEq, Repr

def pathNotice (message : String) (path : Path) : Notice := ⟨.info, message, [("path", path.text)]⟩

namespace Effect

/-- The tree after the effect, with what there is to tell about it. -/
def perform (t : FileTree) : Effect → FileTree × Except Fault (List Notice)
  | directory path =>
    match t.makeDirectories path with
    | (t, .ok _) => (t, .ok [])
    | (t, .error e) => (t, .error (.file path e))
  | copy what source target =>
    if t.sameEntry source target then (t, .ok [])
    else
      match t.copy source target with
      | .ok t => (t, .ok [pathNotice ("Copied " ++ what) target])
      | .error e => (t, .error (.file source e))
  | write what target content =>
    match t.writeText target content with
    | .ok t => (t, .ok [pathNotice ("Wrote " ++ what) target])
    | .error e => (t, .error (.file target e))

/-- What has come of some effects. -/
structure Performed where
  tree : FileTree
  notices : List Notice
  fault : Option Fault

def performAll (t : FileTree) : List Effect → Performed
  | [] => ⟨t, [], none⟩
  | e :: rest =>
    match e.perform t with
    | (t, .error fault) => ⟨t, [], some fault⟩
    | (t, .ok notices) =>
      let later := performAll t rest
      { later with notices := notices ++ later.notices }

end Effect

namespace GeneratedFile

def path (f : GeneratedFile) (directory : Path) : Path := directory.join ⟨f.filename⟩

/-- Writes the file into a directory, which is made if it is missing. -/
def effects (f : GeneratedFile) (what : String) (directory : Path) : List Effect :=
  [.directory directory, .write what (f.path directory) f.content]

end GeneratedFile

end IndexerTypes
