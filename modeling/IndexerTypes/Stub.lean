import IndexerTypes.GeneratedFile
import IndexerTypes.TypeScript

/-! Skeleton handler modules. They are there to be edited, so they carry no note. A stub
imports one handler type per event, declares a constant of that type, and exports the
constants under the source's name; the index gathers the stubs of all sources. -/

namespace IndexerTypes.Stub

open TypeScript

def indexFilename : String := "index.ts"

def handlerType (event : String) : String := event ++ "Handler"

def typesModule (source : String) : String := "../generated/" ++ source

def importSection (source : String) (events : List String) : String :=
  if events.isEmpty then ""
  else (ModuleImport.mk (events.map handlerType) (typesModule source)).render ++ "\n\n"

/-- A handler that does nothing. -/
def constant (event : String) : String :=
  "const handle" ++ event ++ ": " ++ handlerType event ++
    " = async (event, context) => \x7b\n  return;\n\x7d;\n\n"

def keyLine (event : String) : String := "  " ++ event ++ ": handle" ++ event ++ ",\n"

def exportSection (source : String) (events : List String) : String :=
  if events.isEmpty then "export const " ++ source ++ " = \x7b\x7d;\n"
  else
    "export const " ++ source ++ " = \x7b\n" ++ String.join (events.map keyLine) ++ "\x7d;\n"

/-- The module of one source. -/
def file (source : String) (events : List String) : GeneratedFile where
  filename := source ++ ".ts"
  content :=
    importSection source events ++ String.join (events.map constant) ++
      exportSection source events

def importLine (source : String) : String :=
  "import \x7b " ++ source ++ " \x7d from \"./" ++ source ++ "\";\n"

def entryLine (source : String) : String := "  " ++ source ++ ": " ++ source ++ ",\n"

/-- The module that exports the handlers of all sources. -/
def index (sources : List String) : GeneratedFile where
  filename := indexFilename
  content :=
    if sources.isEmpty then "export default \x7b\x7d;\n"
    else
      String.join (sources.map importLine) ++ "\nexport default \x7b\n" ++
        String.join (sources.map entryLine) ++ "\x7d;\n"

end IndexerTypes.Stub
