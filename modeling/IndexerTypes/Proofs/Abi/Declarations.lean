import IndexerTypes.Abi.Reader
import IndexerTypes.Proofs.Except

/-! # The declarations of events in a document

A document is read just if each of its items of type `event` declares an event: it has a name, and
inputs, if there are any, that are read as parameters. The events are then the declared ones, in
order and with a name for every parameter (`read_eq_ok`). -/

namespace IndexerTypes.Abi

/-- An event as a document declares it. -/
structure DeclaredEvent where
  name : String
  inputs : List Declared

def DeclaredEvent.event (d : DeclaredEvent) : Event := ⟨d.name, paramsFrom 0 d.inputs⟩

/-- The inputs that the members of an item declare; if no member is about them, there are none. -/
def DeclaresInputs (members : List (String × Json)) (inputs : List Declared) : Prop :=
  match Json.get? members "inputs" with
  | none => inputs = []
  | some v => readParams v = .ok inputs

/-- The members of an item declare the event. -/
structure Declares (members : List (String × Json)) (d : DeclaredEvent) : Prop where
  name : Json.get? members "name" = some (.text d.name)
  inputs : DeclaresInputs members d.inputs

/-- The items of type `event` in a document declare these events, in order. -/
def DeclaresAll (text : String) (declared : List DeclaredEvent) : Prop :=
  ∃ document items, Json.readStrict? text = some document ∧ itemsOf document = .ok items ∧
    List.Forall₂ Declares (items.filterMap eventMembers?) declared

variable {members : List (String × Json)} {key text : String}

theorem readText_eq_ok {v : Json} {s : String} : readText v = .ok s ↔ v = .text s := by
  cases v <;> simp [readText]

theorem readTextField?_eq_ok {s : String} :
    readTextField? members key = .ok (some s) ↔ Json.get? members key = some (.text s) := by
  unfold readTextField?
  split
  · simp_all
  · simp_all [map_eq_ok, readText_eq_ok]

theorem required_eq_ok {found : Option String} {s : String} :
    required key found = .ok s ↔ found = some s := by
  cases found <;> simp [required]

/-- Inputs that are missing are read as an empty list. -/
theorem readEvent_eq (members : List (String × Json)) : readEvent members = (do
    let inputs ← readParams ((Json.get? members "inputs").getD (.array []))
    let name ← readTextField? members "name"
    let name ← required "name" name
    pure ⟨name, paramsFrom 0 inputs⟩) := by
  unfold readEvent
  cases Json.get? members "inputs" <;> rfl

theorem declaresInputs_iff {inputs : List Declared} : DeclaresInputs members inputs ↔
    readParams ((Json.get? members "inputs").getD (.array [])) = .ok inputs := by
  unfold DeclaresInputs
  cases Json.get? members "inputs" with
  | none => exact ⟨fun h => congrArg Except.ok h.symm, fun h => (Except.ok.inj h).symm⟩
  | some v => rfl

/-- The inputs come first, the name after them. -/
theorem named_eq_ok {inputs : Except Mismatch (List Declared)} {e : Event} :
    (do
      let inputs ← inputs
      let name ← readTextField? members "name"
      let name ← required "name" name
      pure (Event.mk name (paramsFrom 0 inputs))) = .ok e ↔
      ∃ d : DeclaredEvent, inputs = .ok d.inputs ∧
        Json.get? members "name" = some (.text d.name) ∧ d.event = e := by
  simp only [bind_eq_ok, required_eq_ok]
  constructor
  · rintro ⟨declared, hinputs, found, hfound, name, rfl, he⟩
    exact ⟨⟨name, declared⟩, hinputs, readTextField?_eq_ok.mp hfound, Except.ok.inj he⟩
  · rintro ⟨d, hinputs, hname, rfl⟩
    exact ⟨d.inputs, hinputs, some d.name, readTextField?_eq_ok.mpr hname, d.name, rfl, rfl⟩

theorem readEvent_eq_ok {e : Event} :
    readEvent members = .ok e ↔ ∃ d, Declares members d ∧ d.event = e := by
  rw [readEvent_eq, named_eq_ok]
  refine exists_congr fun d => ?_
  rw [← declaresInputs_iff, ← and_assoc]
  exact and_congr_left' ⟨fun h => ⟨h.2, h.1⟩, fun h => ⟨h.inputs, h.name⟩⟩

/-- The events of items are the ones that they declare. -/
theorem readEvents_eq_ok {items : List (List (String × Json))} {events : List Event} :
    List.Forall₂ (fun members e => readEvent members = .ok e) items events ↔
      ∃ declared, List.Forall₂ Declares items declared ∧
        declared.map DeclaredEvent.event = events := by
  constructor
  · intro h
    obtain ⟨declared, hevents, hdeclares⟩ := Pointwise.exists_third
      (S := fun e d => DeclaredEvent.event d = e) h fun members _ e he => by
        obtain ⟨d, hd, he⟩ := readEvent_eq_ok.mp he
        exact ⟨d, he, hd⟩
    have hmap := Pointwise.map_eq (g := id) hevents.flip fun _ _ he => he
    exact ⟨declared, hdeclares, hmap.trans (List.map_id _)⟩
  · rintro ⟨declared, h, rfl⟩
    exact List.forall₂_map_right_iff.mpr (h.imp fun _ d hd => readEvent_eq_ok.mpr ⟨d, hd, rfl⟩)

theorem read_eq_ok {events : List Event} :
    Abi.read text = .ok events ↔
      ∃ declared, DeclaresAll text declared ∧ declared.map DeclaredEvent.event = events := by
  unfold Abi.read
  split
  · rename_i hnone
    simp [DeclaresAll, hnone]
  · rename_i document hdocument
    simp only [eventsOf, bind_eq_ok, mapM_eq_ok, mapError_eq_ok, readEvents_eq_ok]
    constructor
    · rintro ⟨items, hitems, declared, hdeclares, he⟩
      exact ⟨declared, ⟨document, items, hdocument, hitems, hdeclares⟩, he⟩
    · rintro ⟨declared, ⟨other, items, hother, hitems, hdeclares⟩, he⟩
      obtain rfl := Option.some.inj (hdocument.symm.trans hother)
      exact ⟨items, hitems, declared, hdeclares, he⟩

/-- What each declared event has to do with the event that is read for it, in a whole document. -/
theorem exists_declared_of_read {R : DeclaredEvent → Event → Prop} {events : List Event}
    (h : Abi.read text = .ok events) (hr : ∀ d, R d d.event) :
    ∃ declared, DeclaresAll text declared ∧ List.Forall₂ R declared events := by
  obtain ⟨declared, hdeclares, rfl⟩ := read_eq_ok.mp h
  refine ⟨declared, hdeclares, List.forall₂_map_right_iff.mpr ?_⟩
  exact List.forall₂_same.mpr fun d _ => hr d

end IndexerTypes.Abi
