import IndexerTypes.Abi.Basic
import IndexerTypes.GeneratedFile
import IndexerTypes.Notice
import IndexerTypes.TypeScript
import IndexerTypes.TypeTable

/-! The declaration module of one contract source: for each event name the payload of the
event and the type of its handler, and at the end the set of handlers of the source. Of
events that share a name only the first is declared. A parameter whose type has no
counterpart becomes `unknown` and is reported. -/

namespace IndexerTypes.HandlerTypes

open TypeScript

/-- The type of parameters: one type, or an object with a type for each name. -/
inductive Shape where
  | value (type : String)
  | object (members : List (String × Shape))

namespace Shape

mutual

def ofParam : Abi.Param → Shape
  | .tuple _ components => .object (membersOf components)
  | .value name type =>
    .value ((TypeTable.abiType? (Abi.Param.value name type).baseType).getD TypeTable.unknown)

def membersOf : List Abi.Param → List (String × Shape)
  | [] => []
  | p :: rest => (p.name, ofParam p) :: membersOf rest

end

mutual

def render : Shape → String
  | .value type => type
  | .object members => inlineObject (renderMembers members)

def renderMembers : List (String × Shape) → List Member
  | [] => []
  | (name, shape) :: rest => .required name shape.render :: renderMembers rest

end

end Shape

/-- The type of an event's parameters, on one line. -/
def paramsType (params : List Abi.Param) : String := (Shape.object (Shape.membersOf params)).render

/-- The names on the way to a parameter, joined by points. -/
def pathBelow (above name : String) : String :=
  if above.isEmpty then name else above ++ "." ++ name

mutual

/-- Paths and types of the parameters without a counterpart, in order. -/
def unmappedOf (above : String) : Abi.Param → List (String × String)
  | .tuple name components => unmappedIn (pathBelow above name) components
  | .value name type =>
    match TypeTable.abiType? (Abi.Param.value name type).baseType with
    | some _ => []
    | none => [(pathBelow above name, type)]

def unmappedIn (above : String) : List Abi.Param → List (String × String)
  | [] => []
  | p :: rest => unmappedOf above p ++ unmappedIn above rest

end

/-- A parameter that is typed as `unknown`. -/
structure Unmapped where
  source : String
  event : String
  /-- The path of the parameter through the tuples around it. -/
  param : String
  type : String
  deriving DecidableEq, Repr

/-- The name that an event is handled under. -/
def eventKey (event : Abi.Event) : String := Abi.baseName event.signature

/-- What becomes of an event. -/
inductive Decision where
  | declared (name : String) (event : Abi.Event)
  /-- An event of this name is declared already. -/
  | skipped (event : Abi.Event)

def decisionsFrom (seen : List String) : List Abi.Event → List Decision
  | [] => []
  | event :: rest =>
    if seen.contains (eventKey event) then .skipped event :: decisionsFrom seen rest
    else .declared (eventKey event) event :: decisionsFrom (eventKey event :: seen) rest

namespace Decision

def name? : Decision → Option String
  | declared name _ => some name
  | skipped _ => none

def unmapped (source : String) : Decision → List Unmapped
  | declared name event =>
    (unmappedIn "" event.inputs).map fun (param, type) => ⟨source, name, param, type⟩
  | skipped _ => []

def payloadName (event : String) : String := event ++ "Event"

def handlerName (event : String) : String := event ++ "Handler"

/-- The payload and the handler type of an event. -/
def declaration : Decision → String
  | declared name event =>
    "export interface " ++ payloadName name ++ " extends EventLog \x7b\n  name: \"" ++ name ++
      "\";\n  params: " ++ paramsType event.inputs ++
      ";\n  block: Block;\n  transaction: Transaction;\n\x7d\nexport type " ++
      handlerName name ++ " = (event: " ++ payloadName name ++ ", context: Context) => void;\n"
  | skipped _ => ""

def unmappedNotice (u : Unmapped) : Notice where
  level := .warning
  message := "Unhandled ABI parameter type, using `unknown`"
  fields := [("source", u.source), ("event", u.event), ("param", u.param), ("type", u.type)]

def notices (source : String) (d : Decision) : List Notice :=
  match d with
  | declared _ event =>
    ⟨.debug, "Generating event types", [("source", source), ("signature", event.signature)]⟩ ::
      (d.unmapped source).map unmappedNotice
  | skipped event =>
    [⟨.warning, "Skipping overloaded event", [("source", source), ("signature", event.signature)]⟩]

end Decision

def imports : List ModuleImport := [
  ⟨["Block", "EventLog", "Transaction"], "@ponder/ponder"⟩,
  ⟨["BigNumber", "Bytes"], "ethers"⟩]

def contextImport : ModuleImport := ⟨["Context"], "./context"⟩

/-- What every declaration module starts with. -/
def header : String :=
  generatedNote ++ "\n\n" ++ "\n".intercalate (imports.map ModuleImport.render) ++ "\n\n" ++
    contextImport.render ++ "\n"

def handlerMember (event : String) : Member := .absentable event (Decision.handlerName event)

def handlerSet (source : String) (events : List String) : String :=
  objectAlias (source ++ "Handlers") (events.map handlerMember)

def filename (source : String) : String := source ++ ".d.ts"

/-- The module of a source, with what there is to report about it. -/
structure Result where
  file : GeneratedFile
  unmapped : List Unmapped
  notices : List Notice

def generate (source : String) (events : List Abi.Event) : Result :=
  let decisions := decisionsFrom [] events
  let declarations := String.join (decisions.map Decision.declaration)
  { file :=
      ⟨filename source,
        header ++ "\n" ++ declarations ++ (if declarations.isEmpty then "" else "\n") ++
          handlerSet source (decisions.filterMap Decision.name?)⟩
    unmapped := decisions.flatMap (Decision.unmapped source)
    notices := decisions.flatMap (Decision.notices source) }

end IndexerTypes.HandlerTypes
