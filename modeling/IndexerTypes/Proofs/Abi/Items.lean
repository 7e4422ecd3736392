import IndexerTypes.Proofs.Abi.Declarations
import IndexerTypes.Proofs.Json.Members

/-! # Items that declare an event

What a document says of a parameter is its name, its type and its components, which are parameters
themselves (`Parts`). A list of parameters is read just if all of them say this, at every depth
(`exists_readParamItems_iff`), and what is read has one parameter for each of them, in order, with a
tuple for each tuple (`Mirrors`). So a list of items is read as one event for each item of type
`event`, or not at all (`settles_eventsOf`). -/

namespace IndexerTypes.Abi

/-- The name, the type and the components that a document gives a parameter, as an object or as a
list. The name and the components may be missing. -/
inductive Parts : Json → String → String → List Json → Prop where
  | object {members : List (String × Json)} {name type : String} {components : List Json}
      (htype : Json.get? members "type" = some (.text type))
      (hname : (Json.get? members "name").getD (.text "") = .text name)
      (hcomponents : (Json.get? members "components").getD (.array []) = .array components) :
      Parts (.object members) name type components
  | pair {name type : String} : Parts (.array [.text name, .text type]) name type []
  | triple {name type : String} {components : List Json} :
      Parts (.array [.text name, .text type, .array components]) name type components

/-- The document gives a parameter all that it needs. -/
def IsParam (v : Json) : Prop := ∃ name type components, Parts v name type components

/-- One of the parameters, or of their components at any depth. -/
inductive Reaches : List Json → Json → Prop where
  | here {items : List Json} {v : Json} (hv : v ∈ items) : Reaches items v
  | inside {items components : List Json} {v w : Json} {name type : String} (hv : v ∈ items)
      (hparts : Parts v name type components) (hw : Reaches components w) : Reaches items w

/-- The parameters as the document declares them. -/
inductive Shows : List Json → List Declared → Prop where
  | nil : Shows [] []
  | cons {v : Json} {name type : String} {components rest : List Json}
      {inner tail : List Declared} (hparts : Parts v name type components)
      (hinner : Shows components inner) (hrest : Shows rest tail) :
      Shows (v :: rest) (.mk name type inner :: tail)

/-- The parameters, from a position on, stand for those of the document one by one. Those of a
tuple stand for its components; an array of tuples is one value. -/
inductive Mirrors : Nat → List Json → List Param → Prop where
  | nil {index : Nat} : Mirrors index [] []
  | tuple {index : Nat} {v : Json} {name : String} {components rest : List Json}
      {inner tail : List Param} (hparts : Parts v name "tuple" components)
      (hinner : Mirrors 0 components inner) (hrest : Mirrors (index + 1) rest tail) :
      Mirrors index (v :: rest) (.tuple (nameAt index name) inner :: tail)
  | value {index : Nat} {v : Json} {name type : String} {components rest : List Json}
      {inner : List Declared} {tail : List Param} (hparts : Parts v name type components)
      (htype : type ≠ "tuple") (hinner : Shows components inner)
      (hrest : Mirrors (index + 1) rest tail) :
      Mirrors index (v :: rest)
        (.value (nameAt index name) (Declared.mk name type inner).canonicalType :: tail)

/-- The item has the type `event`. -/
def IsEvent (v : Json) : Prop :=
  ∃ members, v = .object members ∧ Json.get? members "type" = some (.text "event")

/-- The item has the name and the parameters of the event. -/
inductive StandsFor : Json → Event → Prop where
  | mk {members : List (String × Json)} {name : String} {inputs : List Json} {params : List Param}
      (hname : Json.get? members "name" = some (.text name))
      (hinputs : (Json.get? members "inputs").getD (.array []) = .array inputs)
      (hparams : Mirrors 0 inputs params) : StandsFor (.object members) ⟨name, params⟩

/-- The item has a name, and its inputs are parameters at every depth. -/
inductive IsWellFormed : Json → Prop where
  | mk {members : List (String × Json)} {name : String} {inputs : List Json}
      (hname : Json.get? members "name" = some (.text name))
      (hinputs : (Json.get? members "inputs").getD (.array []) = .array inputs)
      (hparams : ∀ v, Reaches inputs v → IsParam v) : IsWellFormed (.object members)

variable {v w : Json} {items components : List Json} {members : List (String × Json)}
  {name type : String} {declared : List Declared} {index : Nat} {params : List Param}

/-! ## Parts of a parameter -/

theorem Parts.unique {otherName otherType : String} {others : List Json}
    (h : Parts v name type components) (ho : Parts v otherName otherType others) :
    otherName = name ∧ otherType = type ∧ others = components := by
  cases h with
  | object htype hname hcomponents =>
    cases ho with
    | object htype' hname' hcomponents' => simp_all
  | pair =>
    cases ho
    exact ⟨rfl, rfl, rfl⟩
  | triple =>
    cases ho
    exact ⟨rfl, rfl, rfl⟩

theorem sizeOf_components (h : Parts v name type components) : sizeOf components < sizeOf v := by
  cases h with
  | @object members _ _ _ htype hname hcomponents =>
    cases hc : Json.get? members "components" with
    | none =>
      rw [hc] at hcomponents
      obtain rfl := Json.array.inj hcomponents
      cases members with
      | nil => cases htype
      | cons m rest =>
        simp only [List.nil.sizeOf_spec, Json.object.sizeOf_spec, List.cons.sizeOf_spec]
        omega
    | some found =>
      rw [hc] at hcomponents
      obtain rfl : found = .array components := hcomponents
      have hlt := List.sizeOf_lt_of_mem (Json.mem_of_get? hc)
      simp only [Prod.mk.sizeOf_spec, Json.array.sizeOf_spec, Json.object.sizeOf_spec] at hlt ⊢
      omega
  | pair =>
    simp only [List.nil.sizeOf_spec, Json.array.sizeOf_spec, List.cons.sizeOf_spec]
    omega
  | triple =>
    simp only [List.nil.sizeOf_spec, Json.array.sizeOf_spec, List.cons.sizeOf_spec]
    omega

/-- Parameters are told by induction on themselves and on their components. -/
theorem params_induction {P : List Json → Prop} (nil : P [])
    (cons : ∀ v rest, (∀ name type components, Parts v name type components → P components) →
      P rest → P (v :: rest)) : ∀ items, P items
  | [] => nil
  | v :: rest => cons v rest
    (fun _ _ components hparts =>
      have := sizeOf_components hparts
      params_induction nil cons components)
    (params_induction nil cons rest)
termination_by items => sizeOf items
decreasing_by
  · rw [List.cons.sizeOf_spec]
    omega
  · rw [List.cons.sizeOf_spec]
    omega

/-! ## Reading parameters -/

theorem readParams_eq_ok : readParams v = .ok declared ↔
    ∃ components, v = .array components ∧ readParamItems components = .ok declared := by
  cases v <;> simp [readParams]

theorem readComponents?_eq (members : List (String × Json)) :
    readComponents? members = (Json.get? members "components").map readParams := by
  induction members with
  | nil => rfl
  | cons m rest ih =>
    obtain ⟨key, v⟩ := m
    rw [readComponents?, ih, Json.get?_cons]
    cases Json.get? rest "components" with
    | some found => rfl
    | none => by_cases h : key = "components" <;> simp [h, Ne.symm]

/-- A field that is missing is read as an empty list. -/
theorem readParams_getD (found : Option Json) :
    (found.map readParams).getD (.ok []) = readParams (found.getD (.array [])) := by
  cases found <;> rfl

theorem readParam_object (members : List (String × Json)) :
    readParam (.object members) = (do
      let components ← readParams ((Json.get? members "components").getD (.array []))
      let name ← readTextField? members "name"
      let type ← readTextField? members "type"
      let type ← required "type" type
      pure (.mk (name.getD "") type components)) := by
  rw [readParam, readComponents?_eq, readParams_getD]

theorem exists_readTextField? {key : String} :
    (∃ found, readTextField? members key = .ok found ∧ found.getD "" = name) ↔
      (Json.get? members key).getD (.text "") = .text name := by
  unfold readTextField?
  cases Json.get? members key with
  | none => simp [eq_comm]
  | some v => simp [map_eq_ok, readText_eq_ok]

theorem readParam_of_parts (h : Parts v name type components)
    (hread : readParamItems components = .ok declared) :
    readParam v = .ok (.mk name type declared) := by
  cases h with
  | object htype hname hcomponents =>
    obtain ⟨found, hfound, hname⟩ := exists_readTextField?.mpr hname
    rw [readParam_object, hcomponents, readParams, hread, hfound,
      readTextField?_eq_ok.mpr htype, ← hname]
    rfl
  | pair =>
    obtain rfl : [] = declared := Except.ok.inj hread
    rfl
  | triple =>
    rw [readParam, readParams, hread]
    rfl

theorem parts_of_readParam (h : readParam v = .ok (.mk name type declared)) :
    ∃ components, Parts v name type components ∧ readParamItems components = .ok declared := by
  cases v with
  | object members =>
    rw [readParam_object] at h
    obtain ⟨inner, hinner, h⟩ := bind_eq_ok.mp h
    obtain ⟨found, hfound, h⟩ := bind_eq_ok.mp h
    obtain ⟨given, hgiven, h⟩ := bind_eq_ok.mp h
    obtain ⟨word, hword, h⟩ := bind_eq_ok.mp h
    obtain ⟨rfl, rfl, rfl⟩ := Declared.mk.inj (Except.ok.inj h)
    obtain ⟨components, hcomponents, hread⟩ := readParams_eq_ok.mp hinner
    obtain rfl := required_eq_ok.mp hword
    have hname := exists_readTextField?.mp ⟨found, hfound, rfl⟩
    exact ⟨components, .object (readTextField?_eq_ok.mp hgiven) hname hcomponents, hread⟩
  -- A parameter in a list has two or three fields; what is missing or too much is an error.
  | array items =>
    match items with
    | [] => cases h
    | [first] =>
      obtain ⟨_, _, h⟩ := bind_eq_ok.mp h
      cases h
    | [first, second] =>
      obtain ⟨given, hgiven, h⟩ := bind_eq_ok.mp h
      obtain ⟨word, hword, h⟩ := bind_eq_ok.mp h
      obtain ⟨rfl, rfl, rfl⟩ := Declared.mk.inj (Except.ok.inj h)
      rw [readText_eq_ok.mp hgiven, readText_eq_ok.mp hword]
      exact ⟨[], .pair, rfl⟩
    | first :: second :: third :: rest =>
      obtain ⟨given, hgiven, h⟩ := bind_eq_ok.mp h
      obtain ⟨word, hword, h⟩ := bind_eq_ok.mp h
      obtain ⟨inner, hinner, h⟩ := bind_eq_ok.mp h
      split at h
      · rename_i hrest
        obtain ⟨rfl, rfl, rfl⟩ := Declared.mk.inj (Except.ok.inj h)
        obtain ⟨components, rfl, hread⟩ := readParams_eq_ok.mp hinner
        rw [readText_eq_ok.mp hgiven, readText_eq_ok.mp hword, List.isEmpty_iff.mp hrest]
        exact ⟨components, .triple, hread⟩
      · cases h
  | null => cases h
  | bool b => cases h
  | number n => cases h
  | text s => cases h
  | unreadable => cases h

theorem readParam_eq_ok : readParam v = .ok (.mk name type declared) ↔
    ∃ components, Parts v name type components ∧ readParamItems components = .ok declared :=
  ⟨parts_of_readParam, fun ⟨_, hparts, hread⟩ => readParam_of_parts hparts hread⟩

theorem readParamItems_nil_eq_ok : readParamItems [] = .ok declared ↔ declared = [] := by
  rw [readParamItems, Except.ok.injEq, eq_comm]

theorem readParamItems_cons_eq_ok : readParamItems (v :: items) = .ok declared ↔
    ∃ d rest, declared = d :: rest ∧ readParam v = .ok d ∧ readParamItems items = .ok rest := by
  rw [readParamItems, bind_eq_ok]
  simp only [bind_eq_ok]
  constructor
  · rintro ⟨d, hd, rest, hrest, h⟩
    exact ⟨d, rest, (Except.ok.inj h).symm, hd, hrest⟩
  · rintro ⟨d, rest, rfl, hd, hrest⟩
    exact ⟨d, hd, rest, hrest, rfl⟩

theorem readParamItems_eq_ok : readParamItems items = .ok declared ↔ Shows items declared := by
  induction items using params_induction generalizing declared with
  | nil =>
    rw [readParamItems_nil_eq_ok]
    constructor
    · rintro rfl
      exact .nil
    · rintro ⟨⟩
      rfl
  | cons v rest ihinner ih =>
    rw [readParamItems_cons_eq_ok]
    constructor
    · rintro ⟨⟨name, type, inner⟩, tail, rfl, hd, htail⟩
      obtain ⟨components, hparts, hinner⟩ := readParam_eq_ok.mp hd
      exact .cons hparts ((ihinner _ _ _ hparts).mp hinner) (ih.mp htail)
    · intro h
      cases h with
      | cons hparts hinner hrest =>
        exact ⟨_, _, rfl, readParam_of_parts hparts ((ihinner _ _ _ hparts).mpr hinner),
          ih.mpr hrest⟩

/-! ## Parameters at every depth -/

theorem forall_reaches_cons : (∀ w, Reaches (v :: items) w → IsParam w) ↔
    (∃ name type components, Parts v name type components ∧
      ∀ w, Reaches components w → IsParam w) ∧ ∀ w, Reaches items w → IsParam w := by
  constructor
  · intro h
    obtain ⟨name, type, components, hparts⟩ := h v (.here (List.mem_cons_self ..))
    refine ⟨⟨name, type, components, hparts, fun w hw => ?_⟩, fun w hw => ?_⟩
    · exact h w (.inside (List.mem_cons_self ..) hparts hw)
    · cases hw with
      | here hw => exact h w (.here (List.mem_cons_of_mem _ hw))
      | inside hu hparts hw => exact h w (.inside (List.mem_cons_of_mem _ hu) hparts hw)
  · rintro ⟨⟨name, type, components, hparts, hinner⟩, hrest⟩ w hw
    cases hw with
    | here hw =>
      rcases List.mem_cons.mp hw with rfl | hw
      · exact ⟨name, type, components, hparts⟩
      · exact hrest w (.here hw)
    | inside hu hother hw =>
      rcases List.mem_cons.mp hu with rfl | hu
      · obtain ⟨rfl, rfl, rfl⟩ := hparts.unique hother
        exact hinner w hw
      · exact hrest w (.inside hu hother hw)

/-- Parameters are read just if none is malformed, at any depth. -/
theorem exists_readParamItems_iff :
    (∃ declared, readParamItems items = .ok declared) ↔ ∀ w, Reaches items w → IsParam w := by
  induction items using params_induction with
  | nil =>
    refine ⟨fun _ w hw => ?_, fun _ => ⟨[], rfl⟩⟩
    cases hw with
    | here hw => cases hw
    | inside hu => cases hu
  | cons v rest ihinner ih =>
    rw [forall_reaches_cons, ← ih]
    simp only [readParamItems_cons_eq_ok]
    constructor
    · rintro ⟨_, ⟨name, type, inner⟩, tail, rfl, hd, htail⟩
      obtain ⟨components, hparts, hinner⟩ := readParam_eq_ok.mp hd
      exact ⟨⟨name, type, components, hparts, (ihinner _ _ _ hparts).mp ⟨inner, hinner⟩⟩,
        tail, htail⟩
    · rintro ⟨⟨name, type, components, hparts, hall⟩, tail, htail⟩
      obtain ⟨inner, hinner⟩ := (ihinner _ _ _ hparts).mpr hall
      exact ⟨_, .mk name type inner, tail, rfl, readParam_of_parts hparts hinner, htail⟩

/-! ## Parameters that are read -/

theorem mirrors_paramsFrom (h : Shows items declared) (index : Nat) :
    Mirrors index items (paramsFrom index declared) := by
  induction h generalizing index with
  | nil => exact .nil
  | @cons v name type components rest inner tail hparts hinner _ ihinner ih =>
    rw [paramsFrom, Param.ofDeclared]
    split
    · rename_i htuple
      subst htuple
      exact .tuple hparts (ihinner 0) (ih (index + 1))
    · rename_i htype
      exact .value hparts htype hinner (ih (index + 1))

theorem Mirrors.exists_shows (h : Mirrors index items params) :
    ∃ declared, Shows items declared ∧ paramsFrom index declared = params := by
  induction h with
  | nil => exact ⟨[], .nil, rfl⟩
  | @tuple index v name components rest inner tail hparts _ _ ihinner ih =>
    obtain ⟨innerDeclared, hinner, rfl⟩ := ihinner
    obtain ⟨tailDeclared, htail, rfl⟩ := ih
    refine ⟨.mk name "tuple" innerDeclared :: tailDeclared, .cons hparts hinner htail, ?_⟩
    rw [paramsFrom, Param.ofDeclared, if_pos rfl]
  | @value index v name type components rest inner tail hparts htype hinner _ ih =>
    obtain ⟨tailDeclared, htail, rfl⟩ := ih
    refine ⟨.mk name type inner :: tailDeclared, .cons hparts hinner htail, ?_⟩
    rw [paramsFrom, Param.ofDeclared, if_neg htype]

theorem mirrors_iff : Mirrors index items params ↔
    ∃ declared, readParamItems items = .ok declared ∧ paramsFrom index declared = params := by
  simp only [readParamItems_eq_ok]
  constructor
  · exact Mirrors.exists_shows
  · rintro ⟨declared, hshows, rfl⟩
    exact mirrors_paramsFrom hshows index

/-! ## Items -/

theorem exists_inputs_iff : DeclaresInputs members declared ↔
    ∃ inputs, (Json.get? members "inputs").getD (.array []) = .array inputs ∧
      readParamItems inputs = .ok declared :=
  declaresInputs_iff.trans readParams_eq_ok

theorem readEvent_eq_ok_iff {e : Event} :
    readEvent members = .ok e ↔ StandsFor (.object members) e := by
  rw [readEvent_eq_ok]
  constructor
  · rintro ⟨d, hd, rfl⟩
    obtain ⟨inputs, hinputs, hread⟩ := exists_inputs_iff.mp hd.inputs
    exact .mk hd.name hinputs (mirrors_iff.mpr ⟨d.inputs, hread, rfl⟩)
  · intro h
    cases h with
    | @mk _ name inputs params hname hinputs hparams =>
      obtain ⟨declared, hread, rfl⟩ := mirrors_iff.mp hparams
      exact ⟨⟨name, declared⟩, ⟨hname, exists_inputs_iff.mpr ⟨inputs, hinputs, hread⟩⟩, rfl⟩

theorem exists_readEvent_iff :
    (∃ e, readEvent members = .ok e) ↔ IsWellFormed (.object members) := by
  simp only [readEvent_eq_ok]
  constructor
  · rintro ⟨_, d, hd, -⟩
    obtain ⟨inputs, hinputs, hread⟩ := exists_inputs_iff.mp hd.inputs
    exact .mk hd.name hinputs (exists_readParamItems_iff.mp ⟨d.inputs, hread⟩)
  · intro h
    cases h with
    | @mk _ name inputs hname hinputs hparams =>
      obtain ⟨declared, hread⟩ := exists_readParamItems_iff.mpr hparams
      exact ⟨_, ⟨name, declared⟩, ⟨hname, exists_inputs_iff.mpr ⟨inputs, hinputs, hread⟩⟩, rfl⟩

theorem eventMembers?_eq_some : eventMembers? v = some members ↔
    v = .object members ∧ Json.get? members "type" = some (.text "event") := by
  cases v with
  | object found =>
    rw [eventMembers?, Json.object.injEq]
    split
    · rename_i word hword
      by_cases hevent : word = "event"
      · rw [if_pos hevent, Option.some.injEq]
        constructor
        · rintro rfl
          exact ⟨rfl, hevent ▸ hword⟩
        · exact And.left
      · rw [if_neg hevent]
        constructor
        · exact nofun
        · rintro ⟨rfl, htype⟩
          exact absurd (Json.text.inj (Option.some.inj (hword.symm.trans htype))) hevent
    · rename_i hnot
      constructor
      · exact nofun
      · rintro ⟨rfl, htype⟩
        exact absurd htype (hnot "event")
  | _ => simp [eventMembers?]

theorem isEvent_iff : (eventMembers? v).isSome = true ↔ IsEvent v := by
  simp only [Option.isSome_iff_exists, eventMembers?_eq_some, IsEvent]

instance : DecidablePred IsEvent := fun _ => decidable_of_iff _ isEvent_iff

/-- The items of type `event` are objects with members. -/
theorem filter_isEvent (items : List Json) :
    items.filter (IsEvent ·) = (items.filterMap eventMembers?).map Json.object := by
  induction items with
  | nil => rfl
  | cons v rest ih =>
    cases hv : eventMembers? v with
    | none =>
      have hnot : ¬ IsEvent v := by simp [← isEvent_iff, hv]
      simp [hv, hnot, ih]
    | some members =>
      have hevent : IsEvent v := by simp [← isEvent_iff, hv]
      obtain ⟨rfl, -⟩ := eventMembers?_eq_some.mp hv
      simp [hv, hevent, ih]

/-- What a list of items is read as. -/
structure Settles (items : List Json) (result : Except ReadError (List Event)) : Prop where
  /-- One event for each item of type `event`, in order. -/
  events : ∀ events, result = .ok events ↔
    List.Forall₂ StandsFor (items.filter (IsEvent ·)) events
  succeeds : (∃ events, result = .ok events) ↔ ∀ v ∈ items, IsEvent v → IsWellFormed v
  fails : ∀ e, result = .error e → ∃ mismatch, e = .badEvent mismatch

theorem eventsOf_array (items : List Json) :
    eventsOf (.array items) = (items.filterMap eventMembers?).mapM fun members =>
      (readEvent members).mapError .badEvent := rfl

theorem settles_eventsOf (items : List Json) : Settles items (eventsOf (.array items)) := by
  rw [eventsOf_array]
  constructor
  case events =>
    intro events
    rw [mapM_eq_ok, filter_isEvent, List.forall₂_map_left_iff]
    simp only [mapError_eq_ok, readEvent_eq_ok_iff]
  case succeeds =>
    rw [exists_mapM_eq_ok]
    simp only [mapError_eq_ok, exists_readEvent_iff, List.mem_filterMap]
    constructor
    · intro h v hv hevent
      obtain ⟨members, hmembers⟩ := Option.isSome_iff_exists.mp (isEvent_iff.mpr hevent)
      obtain ⟨rfl, -⟩ := eventMembers?_eq_some.mp hmembers
      exact h members ⟨_, hv, hmembers⟩
    · rintro h members ⟨v, hv, hmembers⟩
      obtain ⟨rfl, -⟩ := eventMembers?_eq_some.mp hmembers
      exact h _ hv (isEvent_iff.mp (by rw [hmembers]; rfl))
  case fails =>
    intro e h
    obtain ⟨members, -, hfail⟩ := mem_of_mapM_eq_error h
    obtain ⟨mismatch, -, rfl⟩ := mapError_eq_error.mp hfail
    exact ⟨mismatch, rfl⟩

/-- A component without a type is enough to lose the event in front of it. -/
example : (eventsOf (.array [
    .object [("type", .text "event"), ("name", .text "Paid")],
    .object [("type", .text "event"), ("name", .text "Sent"), ("inputs", .array [
      .array [.text "to", .text "tuple[]", .array [.object [("name", .text "who")]]]])]])).isOk =
    false := by decide +kernel

end IndexerTypes.Abi
