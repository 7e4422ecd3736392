import IndexerTypes.Text.Blank
import IndexerTypes.Text.Quoted

/-! Settings that come from environment variables, each with a default. -/

namespace IndexerTypes

structure Settings where
  /-- Manifest names to try, in order. -/
  manifestFiles : List String
  /-- The directory under the project root that receives generated types. -/
  generatedDir : String
  /-- The network of a data source that names none. -/
  defaultNetwork : String
  deriving DecidableEq, Repr

namespace Settings

/-- The parts between commas, without the blanks around them and without empty parts. -/
def splitList (raw : String) : List String :=
  ((raw.toList.splitOn ',').map Text.trim).filter (· ≠ []) |>.map String.ofList

def manifestFilesVariable : String := "PONDER_MANIFEST_FILES"

def generatedDirVariable : String := "PONDER_GENERATED_DIR"

def defaultNetworkVariable : String := "PONDER_DEFAULT_NETWORK"

/-- Settings from the variables that `value?` knows. -/
def ofEnvironment (value? : String → Option String) : Settings where
  manifestFiles :=
    splitList ((value? manifestFilesVariable).getD "subgraph.yaml,subgraph-mainnet.yaml")
  generatedDir := (value? generatedDirVariable).getD "generated"
  defaultNetwork := (value? defaultNetworkVariable).getD "mainnet"

/-- The settings when no variable is set. -/
def standard : Settings := ofEnvironment fun _ => none

/-- One line that shows every setting. -/
def summary (s : Settings) : String :=
  "EnvVars \x7b manifest_files: [" ++ ", ".intercalate (s.manifestFiles.map Text.quoted) ++
    "], generated_dir: " ++ Text.quoted s.generatedDir ++
    ", default_network: " ++ Text.quoted s.defaultNetwork ++ " \x7d"

end Settings

end IndexerTypes
