import IndexerTypes.Abi.Basic
import IndexerTypes.Json.Printer
import IndexerTypes.Json.Reader
import IndexerTypes.Mismatch

/-! Events from a JSON document: a list of ABI items, or an object that carries such a list.
Only the items of type `event` are read, and only the fields that matter. Fields are read in
the order of their keys, which decides what is reported first. -/

namespace IndexerTypes.Abi

inductive ReadError where
  | malformed (detail : String)
  | noItems
  | badEvent (mismatch : Mismatch)

def ReadError.message : ReadError → String
  | .malformed detail => detail
  | .noItems => "expected a JSON array or an object with an `abi` array"
  | .badEvent mismatch => "invalid event: " ++ mismatch.message

def foundIn : Json → Found
  | .null => .null
  | .bool b => .bool b
  | .number (.natural n) => .natural n
  | .number (.negative n) => .negative n
  | .number (.real x) => .real (Json.renderFloat x)
  | .text s => .text s
  | .array _ => .sequence
  | .object _ => .map
  | .unreadable => .null

def readText : Json → Except Mismatch String
  | .text s => .ok s
  | v => .error (.wrongType (foundIn v) "a string")

/-- The text of a field that may be absent. -/
def readTextField? (members : List (String × Json)) (key : String) :
    Except Mismatch (Option String) :=
  match Json.get? members key with
  | none => .ok none
  | some v => (readText v).map some

def required (key : String) : Option String → Except Mismatch String
  | some s => .ok s
  | none => .error (.missingField key)

mutual

/-- A parameter, as an object or as the list of its name, type and components. -/
def readParam : Json → Except Mismatch Declared
  | .object members => do
    let components ← (readComponents? members).getD (.ok [])
    let name ← readTextField? members "name"
    let type ← readTextField? members "type"
    let type ← required "type" type
    pure (.mk (name.getD "") type components)
  | .array [] => .error (.wrongLength 1 "struct RawParam with 3 elements")
  | .array [name] => do
    let _ ← readText name
    .error (.wrongLength 1 "struct RawParam with 3 elements")
  | .array [name, type] => do
    pure (.mk (← readText name) (← readText type) [])
  | .array (name :: type :: components :: rest) => do
    let name ← readText name
    let type ← readText type
    let components ← readParams components
    if rest.isEmpty then pure (.mk name type components)
    else .error (.wrongLength (3 + rest.length) "fewer elements in array")
  | v => .error (.wrongType (foundIn v) "struct RawParam")

/-- The components in an object's members; of several, the last are read. -/
def readComponents? : List (String × Json) → Option (Except Mismatch (List Declared))
  | [] => none
  | (key, v) :: rest =>
    match readComponents? rest with
    | some components => some components
    | none => if key = "components" then some (readParams v) else none

def readParams : Json → Except Mismatch (List Declared)
  | .array items => readParamItems items
  | v => .error (.wrongType (foundIn v) "a sequence")

def readParamItems : List Json → Except Mismatch (List Declared)
  | [] => .ok []
  | v :: rest => do
    let param ← readParam v
    let params ← readParamItems rest
    pure (param :: params)

end

def readEvent (members : List (String × Json)) : Except Mismatch Event := do
  let inputs ←
    match Json.get? members "inputs" with
    | none => pure []
    | some v => readParams v
  let name ← readTextField? members "name"
  let name ← required "name" name
  pure ⟨name, paramsFrom 0 inputs⟩

/-- The members of an item that declares an event. -/
def eventMembers? : Json → Option (List (String × Json))
  | .object members =>
    match Json.get? members "type" with
    | some (.text s) => if s = "event" then some members else none
    | _ => none
  | _ => none

def itemsOf : Json → Except ReadError (List Json)
  | .array items => .ok items
  | .object members =>
    match Json.get? members "abi" with
    | some (.array items) => .ok items
    | _ => .error .noItems
  | _ => .error .noItems

/-- The events of a document, in its order. -/
def eventsOf (document : Json) : Except ReadError (List Event) := do
  let items ← itemsOf document
  (items.filterMap eventMembers?).mapM fun members =>
    (readEvent members).mapError .badEvent

def read (text : String) : Except ReadError (List Event) :=
  match Json.readStrict? text with
  | none => .error (.malformed "not a JSON document")
  | some document => eventsOf document

end IndexerTypes.Abi
