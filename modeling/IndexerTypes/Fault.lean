import IndexerTypes.Abi.Reader
import IndexerTypes.Config.Basic
import IndexerTypes.EntityTypes
import IndexerTypes.FileTree
import IndexerTypes.Manifest.Basic

/-! What ends a run, and how it is reported. A fault says what is wrong; the contexts around
it say what the run was about. -/

namespace IndexerTypes

inductive Fault where
  | unmappable (field : EntityTypes.Unmappable)
  | schema (error : EntitySchema.ReadError)
  | abi (path : Path) (error : Abi.ReadError)
  | manifestNotFound (directory : Path) (candidates : List String)
  | malformedManifest (path : Path) (detail : String)
  | noSchemaFile
  /-- Two ABI files have one name, but only one of them can be copied under it. -/
  | abiNameTaken (first second : Path) (name : String)
  | dataSource (rejection : Manifest.Rejection)
  | unknownNetwork (source network : String)
  | abiNotNamed (source : String)
  | missingFile (path : Path)
  | config (path : Path) (flaw : Config.Flaw)
  | file (path : Path) (error : FileError)

/-- The directory of a project that holds its ABI files. -/
def abisDirectory : String := "abis"

namespace Fault

def message : Fault → String
  | unmappable field => field.message
  | schema error => error.message
  | abi path error => "Failed to parse ABI " ++ path.text ++ ": " ++ error.message
  | manifestNotFound directory candidates =>
    "No manifest found in " ++ directory.text ++ " (looked for " ++
      ", ".intercalate candidates ++ ")"
  | malformedManifest path detail => "Failed to parse manifest " ++ path.text ++ ": " ++ detail
  | noSchemaFile => "Invalid manifest: missing `schema.file`"
  | abiNameTaken first second name =>
    "Invalid manifest: ABI files " ++ first.text ++ " and " ++ second.text ++
      " would both be copied to " ++ abisDirectory ++ "/" ++ name
  | dataSource rejection => rejection.message
  | unknownNetwork source network =>
    "Unhandled network name `" ++ network ++ "` for source `" ++ source ++ "`"
  | abiNotNamed source => "ABI path not found for source: " ++ source
  | missingFile path => "File not found: " ++ path.text
  | config path flaw => "Invalid project config " ++ path.text ++ ": " ++ flaw.message
  | file path error => "I/O error on " ++ path.text ++ ": " ++ error.message

/-- What lies behind the fault, outside of the program. -/
def cause? : Fault → Option String
  | file _ error => some error.message
  | _ => none

end Fault

/-- A fault with its contexts, outermost first. -/
structure Failure where
  contexts : List String
  fault : Fault

namespace Failure

def ofFault (fault : Fault) : Failure := ⟨[], fault⟩

def within (context : String) (f : Failure) : Failure := { f with contexts := context :: f.contexts }

/-- The messages from the outermost context to the innermost cause. -/
def chain (f : Failure) : List String := f.contexts ++ f.fault.message :: f.fault.cause?.toList

def line (f : Failure) : String := ": ".intercalate f.chain

/-- A message whose lines after the first are indented. -/
def indented (first others : String) (message : String) : String :=
  first ++ ("\n" ++ others).intercalate ((message.toList.splitOn '\n').map String.ofList) ++ "\n"

def numbered (index : Nat) (message : String) : String :=
  indented ("    " ++ toString index ++ ": ") "       " message

def causes : List String → String
  | [] => ""
  | [message] => "\nCaused by:\n" ++ indented "    " "    " message
  | messages => "\nCaused by:\n" ++ String.join (messages.mapIdx numbered)

/-- The report that ends a failed run. -/
def report (f : Failure) : String :=
  match f.chain with
  | [] => ""
  | message :: rest => "Error: " ++ message ++ "\n" ++ causes rest

end Failure

end IndexerTypes
