import IndexerTypes.Proofs.HandlerTypes.Declarations
import IndexerTypes.Proofs.Manifest
import IndexerTypes.Stub

/-! # Stubs and the types that they import

A stub is made from the events that a manifest has handlers for, and the declaration module of its
source from the events of an ABI. Both go by base names: what a stub imports is exported, and its
keys are keys of the set of handlers, just for those names that are names of events in the ABI
(`matched_stub`). -/

namespace IndexerTypes.HandlerTypes

open Abi

/-- An exported declaration, by its name. -/
structure Export where
  keyword : String
  name : String
  body : String

def Export.render (x : Export) : String :=
  "export " ++ x.keyword ++ " " ++ x.name ++ " " ++ x.body

/-- The exports in the block of an event. -/
def eventExports (event : Event) : List Export := [
  ⟨"interface", eventKey event ++ "Event",
    "extends EventLog \x7b\n  name: \"" ++ eventKey event ++ "\";\n  params: " ++
      paramsType event.inputs ++ ";\n  block: Block;\n  transaction: Transaction;\n\x7d\n"⟩,
  ⟨"type", eventKey event ++ "Handler",
    "= (event: " ++ eventKey event ++ "Event, context: Context) => void;\n"⟩]

def setExport (source : String) (names : List String) : Export :=
  ⟨"type", source ++ "Handlers",
    if names = [] then "= \x7b\x7d;\n"
    else "= \x7b\n" ++ String.join (names.map fun name => "  " ++ name ++ "?: " ++ name ++
      "Handler;\n") ++ "\x7d;\n"⟩

def blockExports (events : List Event) : List Export :=
  (Distinct.firsts eventKey events).flatMap eventExports

/-- All exports of a declaration module, in order. -/
def exports (source : String) (events : List Event) : List Export :=
  blockExports events ++ [setExport source (keys events)]

theorem eventBlock_eq (event : Event) :
    eventBlock event = String.join ((eventExports event).map Export.render) := by
  unfold eventBlock block
  simp only [eventExports, List.map_cons, List.map_nil, Export.render, String.join_cons,
    String.join_nil, String.append_empty, String.append_assoc]
  rfl

theorem setText_eq (source : String) (names : List String) :
    setText source names = (setExport source names).render := by
  unfold setText setExport Export.render
  cases names with
  | nil =>
    simp only [if_true, String.append_assoc]
    rfl
  | cons name names =>
    simp only [reduceCtorEq, if_false, String.append_assoc]
    rfl

variable {source name : String} {events : List Event}

/-- The set of handlers and the payloads have other endings. -/
theorem handlerName_ne (name other : String) :
    name ++ "Handler" ≠ other ++ "Event" ∧ name ++ "Handler" ≠ other ++ "Handlers" := by
  have hlast : ∀ s : String, (s ++ "Handler").toList.getLast? = some 'r' ∧
      (s ++ "Event").toList.getLast? = some 't' ∧ (s ++ "Handlers").toList.getLast? = some 's' := by
    intro s
    simp [List.getLast?_append]
  constructor
  · intro he
    have h := (hlast name).1
    rw [he, (hlast other).2.1] at h
    cases h
  · intro he
    have h := (hlast name).1
    rw [he, (hlast other).2.2] at h
    cases h

/-- The type of a handler is exported just for the names of events. -/
theorem handlerName_mem_exports :
    name ++ "Handler" ∈ (exports source events).map Export.name ↔ name ∈ keys events := by
  have hset : name ++ "Handler" ≠ (setExport source (keys events)).name :=
    (handlerName_ne name source).2
  have hblock : ∀ e, name ++ "Handler" ∈ (eventExports e).map Export.name ↔ eventKey e = name := by
    intro e
    simp [eventExports, (handlerName_ne name (eventKey e)).1, eq_comm]
  simp only [exports, blockExports, keys, List.map_append, List.map_flatMap, List.mem_append,
    List.mem_flatMap, hblock, List.map_cons, List.map_nil, List.mem_singleton, List.mem_map]
  exact or_iff_left hset

theorem content_exports (source : String) (events : List Event) :
    (generate source events).file.content =
      opening ++ String.join ((blockExports events).map Export.render) ++ gap (keys events) ++
        (setExport source (keys events)).render := by
  have hblocks : String.join ((Distinct.firsts eventKey events).map eventBlock) =
      String.join ((blockExports events).map Export.render) := by
    rw [blockExports]
    induction Distinct.firsts eventKey events with
    | nil => rfl
    | cons e firsts ih =>
      rw [List.map_cons, String.join_cons, ih, eventBlock_eq, List.flatMap_cons, List.map_append,
        String.join_append]
  rw [content_generate, hblocks, setText_eq]

end IndexerTypes.HandlerTypes

namespace IndexerTypes.Stub

open Abi HandlerTypes

/-- The import of types from the module of a source; none, if no type is needed. -/
def importText (source : String) (types : List String) : String :=
  if types = [] then ""
  else "import type \x7b " ++ ", ".intercalate types ++ " \x7d from \"../generated/" ++ source ++
    "\";\n\n"

/-- The object with the handlers of a source. -/
def objectText (source : String) (keys : List String) : String :=
  if keys = [] then "export const " ++ source ++ " = \x7b\x7d;\n"
  else "export const " ++ source ++ " = \x7b\n" ++
    String.join (keys.map fun key => "  " ++ key ++ ": handle" ++ key ++ ",\n") ++ "\x7d;\n"

theorem importSection_eq (source : String) (events : List String) :
    importSection source events = importText source (events.map handlerType) := by
  unfold importSection importText TypeScript.ModuleImport.render typesModule
  cases events with
  | nil => rfl
  | cons event events =>
    simp only [List.isEmpty_cons, List.map_cons, reduceCtorEq, if_false, String.append_assoc]
    rfl

theorem exportSection_eq (source : String) (events : List String) :
    exportSection source events = objectText source events := by
  unfold exportSection objectText
  cases events <;> rfl

/-- A stub and the declaration module of its source. -/
structure Matched (d : DataSource) (events : List Event) : Prop where
  stub : (file d.name d.eventNames).content =
    importText d.name (d.eventNames.map (· ++ "Handler")) ++
      String.join (d.eventNames.map constant) ++ objectText d.name d.eventNames
  types : (generate d.name events).file.content =
    opening ++ String.join ((blockExports events).map Export.render) ++ gap (keys events) ++
      (setExport d.name (keys events)).render
  /-- A type is exported just if it belongs to an event of the ABI, -/
  imported : ∀ name ∈ d.eventNames,
    name ++ "Handler" ∈ (exports d.name events).map Export.name ↔
      ∃ e ∈ events, baseName e.signature = name
  /-- and so is a key admitted. -/
  keyed : ∀ name ∈ d.eventNames,
    name ∈ keys events ↔ ∃ e ∈ events, baseName e.signature = name
  /-- If each handler spells the name of an event of the ABI, nothing is missing. -/
  resolved : (∀ signature ∈ d.events, ∃ e ∈ events, Spells signature (baseName e.signature)) →
    (∀ type ∈ d.eventNames.map (· ++ "Handler"),
      type ∈ (exports d.name events).map Export.name) ∧
    ∀ key ∈ d.eventNames, key ∈ keys events

/-- A handler that spells the name of an event is for this event. -/
theorem eventNames_subset {d : DataSource} {events : List Event}
    (h : ∀ signature ∈ d.events, ∃ e ∈ events, Spells signature (baseName e.signature)) :
    ∀ name ∈ d.eventNames, name ∈ keys events := by
  intro name hname
  obtain ⟨signature, hs, rfl⟩ := DataSource.mem_eventNames.mp hname
  obtain ⟨e, he, hspells⟩ := h signature hs
  exact mem_keys.mpr ⟨e, he, (baseName_of_spells hspells).symm⟩

/-- **A stub finds the types of the events that the ABI has.** Its imports are exported by the
module of the source, and its keys are keys of the set of handlers, just for the names of events of
the ABI, and so for all of them if the handlers name only such events. -/
theorem matched_stub (d : DataSource) (events : List Event) : Matched d events where
  stub := by
    rw [← exportSection_eq]
    show importSection _ _ ++ _ ++ _ = _
    rw [importSection_eq]
    rfl
  types := content_exports d.name events
  imported _ _ := handlerName_mem_exports.trans mem_keys
  keyed _ _ := mem_keys
  resolved h := by
    have hkeys := eventNames_subset h
    refine ⟨?_, hkeys⟩
    rw [List.forall_mem_map]
    exact fun name hname => handlerName_mem_exports.mpr (hkeys name hname)

end IndexerTypes.Stub
