import IndexerTypes.Proofs.Stub
import IndexerTypes.Proofs.Stub.Reading

/-! # The names that a stub binds

A stub binds the types that it imports, a constant for each event and the object that it exports.
The object is called like the source, and this name is checked to be an identifier. The other names
are made from the names of events, which are only checked not to be empty, and no name is held
against the others. So there are manifests with stubs that are no modules. This theory says for
which data sources the names of the stub are identifiers and differ from each other
(`bound_sources`). -/

namespace IndexerTypes.Stub

open Text

/-- A declaration of a stub, by the name that it binds. -/
structure Binding where
  keyword : String
  name : String
  body : String

def Binding.render (b : Binding) : String := b.keyword ++ " " ++ b.name ++ b.body

def constantBinding (event : String) : Binding :=
  ⟨"const", constantName event,
    ": " ++ handlerType event ++ " = async (event, context) => \x7b\n  return;\n\x7d;\n\n"⟩

def objectBinding (source : String) (events : List String) : Binding :=
  ⟨"export const", source,
    if events = [] then " = \x7b\x7d;\n"
    else " = \x7b\n" ++ String.join (events.map keyLine) ++ "\x7d;\n"⟩

/-- The declarations below the import. -/
def bindings (source : String) (events : List String) : List Binding :=
  events.map constantBinding ++ [objectBinding source events]

/-- All names that a stub binds, in order: what it imports and what it declares. -/
def boundNames (source : String) (events : List String) : List String :=
  events.map handlerType ++ (bindings source events).map Binding.name

variable {source event : String} {events : List String}

theorem render_constantBinding (event : String) :
    (constantBinding event).render = constant event := by
  unfold constantBinding Binding.render constantName constant
  simp only [String.append_assoc]
  rfl

theorem render_objectBinding (source : String) (events : List String) :
    (objectBinding source events).render = exportSection source events := by
  unfold objectBinding Binding.render exportSection
  cases events with
  | nil =>
    simp only [if_true, List.isEmpty_nil, String.append_assoc]
    rfl
  | cons event more =>
    simp only [reduceCtorEq, if_false, List.isEmpty_cons, Bool.false_eq_true, String.append_assoc]
    rfl

/-- A stub is its import and its declarations. -/
theorem content_bindings (source : String) (events : List String) :
    (file source events).content = importText source (events.map handlerType) ++
      String.join ((bindings source events).map Binding.render) := by
  have hconstants : (events.map constantBinding).map Binding.render = events.map constant := by
    rw [List.map_map]
    exact List.map_congr_left fun event _ => render_constantBinding event
  rw [bindings, List.map_append, String.join_append, hconstants, ← importSection_eq,
    ← String.append_assoc, List.map_singleton, render_objectBinding, String.join_cons,
    String.join_nil, String.append_empty]
  rfl

theorem boundNames_eq (source : String) (events : List String) :
    boundNames source events =
      events.map handlerType ++ (events.map constantName ++ [source]) := by
  rw [boundNames, bindings, List.map_append, List.map_map]
  rfl

/-! ## Identifiers -/

theorem isIdentifier_constantName (h : isIdentifier event = true) :
    isIdentifier (constantName event) = true := by
  refine isIdentifier_append (by decide) (List.all_eq_true.mpr fun c hc => ?_)
  exact isIdentifierPart_of_mem h hc

/-- The type of a handler begins like its event. -/
theorem isIdentifier_handlerType_iff (hne : event ≠ "") :
    isIdentifier (handlerType event) = true ↔ isIdentifier event = true := by
  refine ⟨fun h => ?_, fun h => isIdentifier_append h (by decide)⟩
  obtain ⟨c, rest, hl, hstart, hrest⟩ := isIdentifier_iff.mp h
  rw [handlerType, String.toList_append] at hl
  cases he : event.toList with
  | nil => exact absurd (String.toList_inj.mp he) hne
  | cons first tail =>
    rw [he] at hl
    obtain ⟨rfl, rfl⟩ := List.cons.inj hl
    exact isIdentifier_iff.mpr
      ⟨first, tail, he, hstart, fun d hd => hrest d (List.mem_append_left _ hd)⟩

theorem isIdentifier_boundNames (hs : isIdentifier source = true)
    (hne : ∀ event ∈ events, event ≠ "") :
    (∀ name ∈ boundNames source events, isIdentifier name = true) ↔
      ∀ event ∈ events, isIdentifier event = true := by
  rw [boundNames_eq]
  constructor
  · intro h event he
    exact (isIdentifier_handlerType_iff (hne event he)).mp
      (h _ (List.mem_append_left _ (List.mem_map_of_mem he)))
  · intro h
    rw [List.forall_mem_append, List.forall_mem_append, List.forall_mem_map, List.forall_mem_map]
    refine ⟨?_, ?_, List.forall_mem_singleton.mpr hs⟩
    · exact fun event he => (isIdentifier_handlerType_iff (hne event he)).mpr (h event he)
    · exact fun event he => isIdentifier_constantName (h event he)

/-! ## Names that differ -/

/-- No name of the stub is made twice. -/
structure Apart (source : String) (events : List String) : Prop where
  /-- The source is called neither like a handler nor like the type of one. -/
  source : ∀ event ∈ events, source ≠ constantName event ∧ source ≠ handlerType event
  /-- No two events are called like the handler and the type of a third. -/
  events : ∀ middle, constantName middle ∈ events → handlerType middle ∉ events

/-- The type of one event is called like the constant of another just if the name has a middle
between the beginning of the one and the ending of the other: these do not overlap, as the ending
starts with a character that the beginning lacks. -/
theorem handlerType_eq_constantName {event other : String} :
    handlerType event = constantName other ↔
      ∃ middle, event = constantName middle ∧ other = handlerType middle := by
  constructor
  · intro he
    have hl := congrArg String.toList he
    rw [handlerType, constantName, String.toList_append, String.toList_append] at hl
    rcases List.append_eq_append_iff.mp hl with ⟨common, hstart, hend⟩ | ⟨middle, hevent, hother⟩
    · cases common with
      | nil =>
        rw [List.append_nil] at hstart
        exact ⟨"", String.toList_inj.mp hstart.symm, String.toList_inj.mp hend.symm⟩
      | cons c tail =>
        have hfirst : 'H' = c := (List.cons.inj hend).1
        have hmem : c ∈ "handle".toList := hstart ▸ List.mem_append_right _ List.mem_cons_self
        exact absurd (hfirst ▸ hmem) (by decide)
    · have hmiddle : (String.ofList middle).toList = middle := String.toList_ofList
      refine ⟨String.ofList middle, String.toList_inj.mp ?_, String.toList_inj.mp ?_⟩
      · rw [hevent, constantName, String.toList_append, hmiddle]
      · rw [hother, handlerType, String.toList_append, hmiddle]
  · rintro ⟨middle, rfl, rfl⟩
    exact String.append_assoc

theorem nodup_boundNames (h : events.Nodup) :
    (boundNames source events).Nodup ↔ Apart source events := by
  have htypes : (events.map handlerType).Nodup :=
    h.map fun _ _ => (String.append_left_inj _).mp
  have hconstants : (events.map constantName).Nodup :=
    h.map fun _ _ => (String.append_right_inj _).mp
  rw [boundNames_eq, List.nodup_append, List.nodup_append]
  constructor
  · intro ⟨_, ⟨_, _, hobject⟩, himport⟩
    refine ⟨fun event he => ⟨fun hs => ?_, fun hs => ?_⟩, fun middle hm ho => ?_⟩
    · exact hobject _ (List.mem_map_of_mem he) source (List.mem_singleton_self _) hs.symm
    · have hsource : source ∈ events.map constantName ++ [source] :=
        List.mem_append_right _ (List.mem_singleton_self _)
      exact himport _ (List.mem_map_of_mem he) source hsource hs.symm
    · have hconstant : constantName (handlerType middle) ∈ events.map constantName ++ [source] :=
        List.mem_append_left _ (List.mem_map_of_mem ho)
      exact himport _ (List.mem_map_of_mem hm) _ hconstant
        (handlerType_eq_constantName.mpr ⟨middle, rfl, rfl⟩)
  · intro hapart
    refine ⟨htypes, ⟨hconstants, List.nodup_singleton _, ?_⟩, ?_⟩
    · intro name hname last hlast he
      obtain ⟨event, hevent, rfl⟩ := List.mem_map.mp hname
      rw [List.mem_singleton.mp hlast] at he
      exact (hapart.source event hevent).1 he.symm
    · intro name hname other hother he
      obtain ⟨event, hevent, rfl⟩ := List.mem_map.mp hname
      rcases List.mem_append.mp hother with hother | hother
      · obtain ⟨second, hsecond, rfl⟩ := List.mem_map.mp hother
        obtain ⟨middle, rfl, rfl⟩ := handlerType_eq_constantName.mp he
        exact hapart.events middle hevent hsecond
      · rw [List.mem_singleton.mp hother] at he
        exact (hapart.source event hevent).2 he.symm

/-! ## Data sources of manifests -/

/-- **When the stub of a data source is a module.** It imports, for each event that a manifest has a
handler for, the type of the handler, and declares a constant; and it declares an object. If the
manifest is accepted, the names of all these are identifiers just if the names of the events are,
and they differ just if they are not made alike. -/
theorem bound_sources {m : Manifest} {found : List DataSource} {d : DataSource}
    (h : m.sources = .ok found) (hd : d ∈ found) :
    (file d.name d.eventNames).content = importText d.name (d.eventNames.map handlerType) ++
      String.join ((bindings d.name d.eventNames).map Binding.render) ∧
    ((∀ name ∈ boundNames d.name d.eventNames, isIdentifier name = true) ↔
      ∀ event ∈ d.eventNames, isIdentifier event = true) ∧
    ((boundNames d.name d.eventNames).Nodup ↔ Apart d.name d.eventNames) := by
  have hsound := DataSource.check_eq_ok.mp ((Manifest.accepted_of_sources h).checked d hd)
  exact ⟨content_bindings d.name d.eventNames,
    isIdentifier_boundNames hsound.name hsound.eventNames,
    nodup_boundNames (DataSource.nodup_eventNames d)⟩

/-- A source that is called like the handler of one event, and has another event whose name is no
identifier. -/
def entangledText : String :=
  "dataSources:\n" ++
  "- name: handleTransfer\n  source:\n    address: x\n  mapping:\n    abis: []\n" ++
  "    eventHandlers:\n    - event: Transfer(address)\n    - event: Foo-Bar(address)\n"

def entangledSource : DataSource :=
  ⟨"handleTransfer", none, "x", none, none, [], ["Transfer(address)", "Foo-Bar(address)"]⟩

/-- The source is accepted, and its stub is no module. -/
theorem bound_sources_entangled : ∃ m, Manifest.read? entangledText = some m ∧
    m.sources = .ok [entangledSource] ∧
    ¬ (∀ name ∈ boundNames entangledSource.name entangledSource.eventNames,
      isIdentifier name = true) ∧
    ¬ (boundNames entangledSource.name entangledSource.eventNames).Nodup := by
  have hread : (Manifest.read? entangledText).map (fun m => m.sources.toOption) =
      some (some [entangledSource]) := by
    decide +kernel
  obtain ⟨m, hm, haccepted⟩ := Option.map_eq_some_iff.mp hread
  have hsources : m.sources = .ok [entangledSource] := by
    cases hs : m.sources with
    | error r =>
      rw [hs] at haccepted
      cases haccepted
    | ok found =>
      rw [hs] at haccepted
      rw [Option.some.inj haccepted]
  obtain ⟨-, hnames, hapart⟩ := bound_sources hsources List.mem_cons_self
  refine ⟨m, hm, hsources, ?_, ?_⟩
  · rw [hnames]
    exact fun h => absurd (h "Foo-Bar" (by decide)) (by decide)
  · rw [hapart]
    exact fun h => (h.source "Transfer" (by decide)).1 rfl

end IndexerTypes.Stub
