import IndexerTypes.Config.Reader
import IndexerTypes.Fault
import IndexerTypes.Manifest.Reader

/-! Reading the files that a run starts from. -/

namespace IndexerTypes

namespace InputFile

def readText (t : FileTree) (path : Path) : Except Fault String :=
  (t.readText path).mapError (.file path)

/-- The text of a file that must be there. -/
def readPresent (t : FileTree) (path : Path) : Except Fault String :=
  if t.isFile path then readText t path else .error (.missingFile path)

end InputFile

namespace Config

def load (t : FileTree) (root : Path) : Except Fault Config := do
  let path := root.join ⟨filename⟩
  let text ← InputFile.readPresent t path
  (read text).mapError (.config path)

end Config

namespace EntitySchema

def load (t : FileTree) (root : Path) : Except Fault EntitySchema := do
  let text ← InputFile.readPresent t (root.join ⟨Config.schemaFilename⟩)
  (read text).mapError .schema

end EntitySchema

namespace Abi

def load (t : FileTree) (path : Path) : Except Fault (List Event) := do
  let text ← InputFile.readText t path
  (read text).mapError (.abi path)

end Abi

namespace Manifest

/-- The first of the candidates that is a file in the directory. -/
def locate (t : FileTree) (directory : Path) (candidates : List String) : Except Fault Path :=
  match (candidates.map fun name => directory.join ⟨name⟩).find? t.isFile with
  | some path => .ok path
  | none => .error (.manifestNotFound directory candidates)

def load (t : FileTree) (path : Path) : Except Fault Manifest := do
  let text ← InputFile.readText t path
  match read? text with
  | some m => .ok m
  | none => .error (.malformedManifest path "not a manifest")

end Manifest

end IndexerTypes
