import IndexerTypes.HandlerTypes
import IndexerTypes.Proofs.Abi.BaseName
import IndexerTypes.Proofs.Distinct
import Mathlib.Data.List.Basic

/-! # What a declaration module declares

Events are gone through in their order, and the first event of each name is declared. So a module
has one block for each name, in the order in which the names come up, and a set of handlers with
these names as keys. Every other event is only reported (`declares_generate`). -/

namespace IndexerTypes.HandlerTypes

open Abi

variable {events : List Event}

/-! ## Decisions -/

/-- An event is declared unless one before it has its name. -/
def Decision.ofPlace (p : List Event × Event) : Decision :=
  if Distinct.Repeats eventKey p then .skipped p.2 else .declared (eventKey p.2) p.2

/-- The names that have been seen are those of the events that have been gone through. -/
theorem decisionsFrom_eq {seen : List String} {before : List Event}
    (h : ∀ name, name ∈ seen ↔ name ∈ before.map eventKey) :
    decisionsFrom seen events = (Distinct.withEarlier before events).map Decision.ofPlace := by
  induction events generalizing seen before with
  | nil => rfl
  | cons event rest ih =>
    have hseen : seen.contains (eventKey event) = true ↔
        Distinct.Repeats eventKey (before, event) := List.contains_iff_mem.trans (h _)
    rw [decisionsFrom, Distinct.withEarlier, List.map_cons, Decision.ofPlace]
    by_cases hr : Distinct.Repeats eventKey (before, event)
    · -- The name is not new, so the names that have been seen stay those of `before`.
      have hrest : ∀ name, name ∈ seen ↔ name ∈ (before ++ [event]).map eventKey := by
        intro name
        rw [h, List.map_append, List.mem_append, List.map_singleton, List.mem_singleton]
        exact ⟨.inl, fun hn => hn.elim id fun he => he ▸ hr⟩
      rw [if_pos (hseen.mpr hr), if_pos hr, ih hrest]
    · have hrest : ∀ name,
          name ∈ eventKey event :: seen ↔ name ∈ (before ++ [event]).map eventKey := by
        intro name
        rw [List.mem_cons, h, List.map_append, List.mem_append, List.map_singleton,
          List.mem_singleton, or_comm]
      rw [if_neg fun hs => hr (hseen.mp hs), if_neg hr, ih hrest]

theorem decisions_eq (events : List Event) :
    decisionsFrom [] events = (Distinct.withEarlier [] events).map Decision.ofPlace :=
  decisionsFrom_eq (by simp)

variable {α : Type} {f : Decision → List α}

/-- What is done for declared events only is done for the first event of each name. -/
theorem flatMap_declared (h : ∀ event, f (.skipped event) = []) :
    (decisionsFrom [] events).flatMap f =
      (Distinct.firsts eventKey events).flatMap fun e => f (.declared (eventKey e) e) := by
  rw [decisions_eq, Distinct.firsts_eq]
  induction Distinct.withEarlier [] events with
  | nil => rfl
  | cons p places ih =>
    by_cases hr : Distinct.Repeats eventKey p
    · simpa [Decision.ofPlace, hr, h] using ih
    · simpa [Decision.ofPlace, hr] using ih

/-- What is done for skipped events only is done for all the others. -/
theorem flatMap_skipped (h : ∀ name event, f (.declared name event) = []) :
    (decisionsFrom [] events).flatMap f =
      (Distinct.repeated eventKey events).flatMap fun e => f (.skipped e) := by
  rw [decisions_eq, Distinct.repeated]
  induction Distinct.withEarlier [] events with
  | nil => rfl
  | cons p places ih =>
    by_cases hr : Distinct.Repeats eventKey p
    · simpa [Decision.ofPlace, hr] using ih
    · simpa [Decision.ofPlace, hr, h] using ih

/-- The names under which events are declared. -/
def keys (events : List Event) : List String := (Distinct.firsts eventKey events).map eventKey

theorem mem_keys {name : String} :
    name ∈ keys events ↔ ∃ e ∈ events, baseName e.signature = name :=
  Distinct.mem_map_firsts.trans List.mem_map

theorem eventKey_eq (event : Event) : eventKey event = baseName event.name :=
  baseName_signature event

/-! ## The text -/

/-- The note and the imports. -/
def opening : String :=
  "/* Autogenerated file. Do not edit manually. */\n\n" ++
  "import type \x7b Block, EventLog, Transaction \x7d from \"@ponder/ponder\";\n" ++
  "import type \x7b BigNumber, Bytes \x7d from \"ethers\";\n\n" ++
  "import type \x7b Context \x7d from \"./context\";\n\n"

/-- The payload of an event with these parameters, and the type of its handler. -/
def block (name params : String) : String :=
  "export interface " ++ name ++ "Event extends EventLog \x7b\n" ++
  "  name: \"" ++ name ++ "\";\n" ++
  "  params: " ++ params ++ ";\n" ++
  "  block: Block;\n" ++
  "  transaction: Transaction;\n" ++
  "\x7d\n" ++
  "export type " ++ name ++ "Handler = (event: " ++ name ++ "Event, context: Context) => void;\n"

def eventBlock (event : Event) : String := block (eventKey event) (paramsType event.inputs)

/-- The set of the handlers of a source. -/
def setText (source : String) (names : List String) : String :=
  if names = [] then "export type " ++ source ++ "Handlers = \x7b\x7d;\n"
  else "export type " ++ source ++ "Handlers = \x7b\n" ++
    String.join (names.map fun name => "  " ++ name ++ "?: " ++ name ++ "Handler;\n") ++ "\x7d;\n"

/-- What stands between the blocks and the set: a blank line, if there are blocks. -/
def gap (names : List String) : String := if names = [] then "" else "\n"

theorem header_eq : header ++ "\n" = opening := by decide +kernel

theorem declaration_declared (name : String) (event : Event) :
    (Decision.declared name event).declaration = block name (paramsType event.inputs) := by
  unfold Decision.declaration Decision.payloadName Decision.handlerName block
  simp only [String.append_assoc]
  rfl

theorem block_ne_empty (name params : String) : block name params ≠ "" := by
  intro h
  exact absurd (String.append_eq_empty_iff.mp h).2 (by decide)

theorem join_declarations : String.join ((decisionsFrom [] events).map Decision.declaration) =
    String.join ((Distinct.firsts eventKey events).map eventBlock) := by
  have hchars := @flatMap_declared events Char (fun d => d.declaration.toList) fun _ => rfl
  simp only [declaration_declared] at hchars
  rw [← String.toList_inj, String.toList_join, String.toList_join, List.flatMap_map,
    List.flatMap_map, hchars]
  rfl

theorem names_eq : (decisionsFrom [] events).filterMap Decision.name? = keys events := by
  rw [List.filterMap_eq_flatMap_toList, flatMap_declared fun _ => rfl]
  exact List.flatMap_pure_eq_map _ _

theorem memberLine_handler (name : String) : TypeScript.memberLine (handlerMember name) =
    "  " ++ name ++ "?: " ++ name ++ "Handler;\n" := by
  simp [TypeScript.memberLine, handlerMember, TypeScript.Member.absentable,
    TypeScript.Member.render, Decision.handlerName, String.append_assoc]

theorem handlerSet_eq (source : String) (names : List String) :
    handlerSet source names = setText source names := by
  cases names with
  | nil => simp [handlerSet, TypeScript.objectAlias, setText, String.append_assoc]
  | cons name names =>
    simp [handlerSet, TypeScript.objectAlias, setText, memberLine_handler, Function.comp_def,
      String.append_assoc]

theorem gap_eq (events : List Event) :
    (if (String.join ((Distinct.firsts eventKey events).map eventBlock)).isEmpty then ""
      else "\n") = gap (keys events) := by
  rw [keys]
  cases Distinct.firsts eventKey events with
  | nil => rfl
  | cons e firsts => simp [gap, eventBlock, block_ne_empty]

theorem content_generate (source : String) (events : List Event) :
    (generate source events).file.content =
      opening ++ String.join ((Distinct.firsts eventKey events).map eventBlock) ++
        gap (keys events) ++ setText source (keys events) := by
  rw [← header_eq, ← gap_eq, ← handlerSet_eq, ← names_eq, ← join_declarations]
  rfl

/-! ## The report -/

def generating (source : String) (event : Event) : Notice :=
  ⟨.debug, "Generating event types", [("source", source), ("signature", event.signature)]⟩

def skipping (source : String) (event : Event) : Notice :=
  ⟨.warning, "Skipping overloaded event", [("source", source), ("signature", event.signature)]⟩

/-- The notice about the event itself. -/
def Decision.record (source : String) : Decision → Notice
  | declared _ event => generating source event
  | skipped event => skipping source event

/-- Only parameters are reported besides. -/
theorem Decision.notices_eq (source : String) (d : Decision) :
    d.notices source = d.record source :: (d.unmapped source).map unmappedNotice := by
  cases d <;> rfl

theorem Decision.record_ofPlace (source : String) (p : List Event × Event) :
    (ofPlace p).record source =
      if Distinct.Repeats eventKey p then skipping source p.2 else generating source p.2 := by
  unfold ofPlace
  split <;> rfl

/-- The notices with one of these messages, in order. -/
def Result.saying (r : Result) (messages : List String) : List Notice :=
  r.notices.filter fun n => n.message ∈ messages

def unmappedMessage : String := "Unhandled ABI parameter type, using `unknown`"

/-- A message that is not about parameters is that of the records. -/
theorem saying_generate (source : String) (events : List Event) {messages : List String}
    (h : unmappedMessage ∉ messages) :
    (generate source events).saying messages = (decisionsFrom [] events).flatMap fun d =>
      if (d.record source).message ∈ messages then [d.record source] else [] := by
  have hnone : ∀ l : List Unmapped,
      (l.map Decision.unmappedNotice).filter (fun n => n.message ∈ messages) = [] := by
    intro l
    rw [List.filter_eq_nil_iff]
    simp only [List.mem_map, decide_eq_true_eq]
    rintro n ⟨u, -, rfl⟩
    exact h
  refine List.filter_flatMap.trans (List.flatMap_congr fun d _ => ?_)
  rw [Decision.notices_eq, List.filter_cons, hnone]
  simp

theorem saying_generating (source : String) (events : List Event) :
    (generate source events).saying ["Generating event types"] =
      (Distinct.firsts eventKey events).map (generating source) := by
  rw [saying_generate source events (by decide), flatMap_declared fun _ => rfl]
  exact List.flatMap_pure_eq_map _ _

theorem saying_skipping (source : String) (events : List Event) :
    (generate source events).saying ["Skipping overloaded event"] =
      (Distinct.repeated eventKey events).map (skipping source) := by
  rw [saying_generate source events (by decide), flatMap_skipped fun _ _ => rfl]
  exact List.flatMap_pure_eq_map _ _

/-- Together these are one notice for each event, in the order of the events. -/
theorem saying_records (source : String) (events : List Event) :
    (generate source events).saying ["Generating event types", "Skipping overloaded event"] =
      (Distinct.withEarlier [] events).map fun p =>
        if Distinct.Repeats eventKey p then skipping source p.2 else generating source p.2 := by
  have hrecord : ∀ d : Decision, (d.record source).message ∈
      ["Generating event types", "Skipping overloaded event"] := by
    intro d
    cases d <;> simp [Decision.record, generating, skipping]
  rw [saying_generate source events (by decide), decisions_eq, List.flatMap_map]
  refine (List.flatMap_congr fun p _ => ?_).trans (List.flatMap_pure_eq_map _ _)
  rw [if_pos (hrecord _), Decision.record_ofPlace]
  rfl

/-! ## The module -/

/-- What the module of a source declares for its events, and what is reported about them. -/
structure Declares (source : String) (events : List Event) (r : Result) : Prop where
  /-- The name of an event is in its own name, whatever parameters it has. -/
  named : ∀ e : Event, eventKey e = baseName e.name
  /-- No two of the events that are declared have one name, -/
  distinct : (keys events).Nodup
  /-- and no name is left out. -/
  complete : ∀ e ∈ events, eventKey e ∈ keys events
  /-- Each of them is the first event of its name, -/
  first : ∀ e ∈ Distinct.firsts eventKey events,
    events.find? (fun other => eventKey other = eventKey e) = some e
  /-- and their names come up in this order. -/
  order : keys events = Distinct.firsts id (events.map eventKey)
  sublist : (Distinct.firsts eventKey events).Sublist events
  content : r.file.content =
    opening ++ String.join ((Distinct.firsts eventKey events).map eventBlock) ++
      gap (keys events) ++ setText source (keys events)
  generated : r.saying ["Generating event types"] =
    (Distinct.firsts eventKey events).map (generating source)
  skipped : r.saying ["Skipping overloaded event"] =
    (Distinct.repeated eventKey events).map (skipping source)
  records : r.saying ["Generating event types", "Skipping overloaded event"] =
    (Distinct.withEarlier [] events).map fun p =>
      if Distinct.Repeats eventKey p then skipping source p.2 else generating source p.2

/-- **One block and one key for each name.** After the header, the module of a source declares the
first event of each name, in order, with its payload and its handler, and then the set of these
handlers, whose keys are the names. Every event is reported once, in order: as generated if it is
declared, and as skipped if an earlier one has its name. -/
theorem declares_generate (source : String) (events : List Event) :
    Declares source events (generate source events) where
  named := eventKey_eq
  distinct := Distinct.nodup_firsts eventKey events
  complete e he := mem_keys.mpr ⟨e, he, rfl⟩
  first _ he := Distinct.find?_of_mem_firsts he
  order := Distinct.map_firsts eventKey events
  sublist := Distinct.firsts_sublist eventKey events
  content := content_generate source events
  generated := saying_generating source events
  skipped := saying_skipping source events
  records := saying_records source events

end IndexerTypes.HandlerTypes
