import IndexerTypes.Proofs.Abi.Declarations

/-! # The types in a signature

A parameter is read from its declaration with its tuples taken apart, and a signature is put
together from what is read. Its types are still the ones of the declarations (`signed_read`): each
leading word `tuple` stands for the types of the components, at every depth, and what follows the
word stays behind them. Names have no part in it. -/

namespace IndexerTypes.Abi

/-! ## Types of declarations -/

/-- The types of declarations, one by one as a signature shows them. -/
inductive Canonical : List Declared → List String → Prop where
  | nil : Canonical [] []
  | plain {type : String} {rest : List Declared} {types : List String} (name : String)
      (components : List Declared) (hplain : ¬ "tuple".toList <+: type.toList)
      (hrest : Canonical rest types) :
      Canonical (.mk name type components :: rest) (type :: types)
  | tuple {components rest : List Declared} {inner types : List String} (name suffix : String)
      (hinner : Canonical components inner) (hrest : Canonical rest types) :
      Canonical (.mk name ("tuple" ++ suffix) components :: rest)
        (("(" ++ ",".intercalate inner ++ ")" ++ suffix) :: types)

/-- The same declarations, perhaps with other names. -/
inductive Renamed : List Declared → List Declared → Prop where
  | nil : Renamed [] []
  | cons {components others rest tail : List Declared} (name other type : String)
      (hinner : Renamed components others) (hrest : Renamed rest tail) :
      Renamed (.mk name type components :: rest) (.mk other type others :: tail)

variable {type suffix : String} {declared others : List Declared} {types : List String}

theorem append_eq_toList {word text : String} {rest : List Char} :
    word.toList ++ rest = text.toList ↔ text = word ++ String.ofList rest := by
  rw [← String.toList_inj, String.toList_append, String.toList_ofList, eq_comm]

theorem afterTuple?_eq_some : afterTuple? type = some suffix ↔ type = "tuple" ++ suffix := by
  rw [afterTuple?, Option.map_eq_some_iff]
  simp only [List.isPrefixOf?_eq_some_iff_append_eq, append_eq_toList]
  constructor
  · rintro ⟨rest, htype, rfl⟩
    exact htype
  · rintro htype
    exact ⟨suffix.toList, by rw [String.ofList_toList, htype], String.ofList_toList⟩

theorem afterTuple?_eq_none : afterTuple? type = none ↔ ¬ "tuple".toList <+: type.toList := by
  rw [Option.eq_none_iff_forall_ne_some]
  simp only [ne_eq, afterTuple?_eq_some, ← not_exists, List.IsPrefix, append_eq_toList]
  refine not_congr ⟨?_, fun ⟨rest, htype⟩ => ⟨_, htype⟩⟩
  rintro ⟨suffix, htype⟩
  exact ⟨suffix.toList, by rw [String.ofList_toList, htype]⟩

theorem canonicalTypes_eq_map (declared : List Declared) :
    canonicalTypes declared = declared.map Declared.canonicalType := by
  induction declared with
  | nil => rfl
  | cons d declared ih => rw [canonicalTypes, ih, List.map_cons]

theorem Canonical.eq_canonicalTypes (h : Canonical declared types) :
    types = canonicalTypes declared := by
  induction h with
  | nil => rfl
  | plain name components hplain _ ih =>
    rw [canonicalTypes, Declared.canonicalType, afterTuple?_eq_none.mpr hplain, ih]
  | tuple name suffix _ _ ihinner ih =>
    rw [canonicalTypes, Declared.canonicalType, afterTuple?_eq_some.mpr rfl, ihinner, ih]
    rfl

theorem canonical_canonicalTypes : (declared : List Declared) →
    Canonical declared (canonicalTypes declared)
  | [] => .nil
  | .mk name type components :: rest => by
    have hrest := canonical_canonicalTypes rest
    rw [canonicalTypes, Declared.canonicalType]
    cases h : afterTuple? type with
    | none => exact .plain name components (afterTuple?_eq_none.mp h) hrest
    | some suffix =>
      obtain rfl := afterTuple?_eq_some.mp h
      exact .tuple name suffix (canonical_canonicalTypes components) hrest

/-- Each list of declarations has just one list of types. -/
theorem canonical_iff :
    Canonical declared types ↔ types = declared.map Declared.canonicalType := by
  rw [← canonicalTypes_eq_map]
  exact ⟨Canonical.eq_canonicalTypes, fun h => h ▸ canonical_canonicalTypes declared⟩

theorem Renamed.canonicalTypes_eq (h : Renamed declared others) :
    canonicalTypes declared = canonicalTypes others := by
  induction h with
  | nil => rfl
  | cons name other type _ _ ihinner ih =>
    rw [canonicalTypes, canonicalTypes, Declared.canonicalType, Declared.canonicalType, ihinner, ih]

/-! ## Types of parameters -/

theorem canonicalType_tuple (name : String) (components : List Declared) :
    (Declared.mk name "tuple" components).canonicalType =
      "(" ++ commaJoined (canonicalTypes components) ++ ")" := by
  have hafter : afterTuple? "tuple" = some "" := afterTuple?_eq_some.mpr rfl
  rw [Declared.canonicalType, hafter]
  exact String.append_empty

mutual

/-- A tuple is taken apart into parameters, its arrays are kept as text; the types agree. -/
theorem signatureType_ofDeclared : (d : Declared) → (index : Nat) →
    (Param.ofDeclared index d).signatureType = d.canonicalType
  | .mk name type components, index => by
    rw [Param.ofDeclared]
    split
    · rename_i htuple
      rw [Param.signatureType, signatureTypes_paramsFrom components 0, htuple,
        canonicalType_tuple]
    · rw [Param.signatureType]

theorem signatureTypes_paramsFrom : (declared : List Declared) → (index : Nat) →
    signatureTypes (paramsFrom index declared) = canonicalTypes declared
  | [], _ => by rw [paramsFrom, signatureTypes, canonicalTypes]
  | d :: rest, index => by
    rw [paramsFrom, signatureTypes, canonicalTypes, signatureType_ofDeclared d index,
      signatureTypes_paramsFrom rest (index + 1)]

end

/-! ## Signatures -/

theorem signature_event (d : DeclaredEvent) :
    d.event.signature = d.name ++ "(" ++ commaJoined (canonicalTypes d.inputs) ++ ")" := by
  rw [DeclaredEvent.event, Event.signature, signatureTypes_paramsFrom]

/-- The signature of an event, by its declaration. -/
structure SignedAs (d : DeclaredEvent) (e : Event) : Prop where
  signature : e.signature =
    d.name ++ "(" ++ ",".intercalate (d.inputs.map Declared.canonicalType) ++ ")"
  /-- Each tuple is expanded, at every depth. -/
  expanded : ∀ types, Canonical d.inputs types →
    e.signature = d.name ++ "(" ++ ",".intercalate types ++ ")"
  /-- Other names of its parameters give the same signature. -/
  nameless : ∀ other : DeclaredEvent, other.name = d.name → Renamed d.inputs other.inputs →
    other.event.signature = e.signature

theorem signedAs_event (d : DeclaredEvent) : SignedAs d d.event := by
  have hsignature : d.event.signature =
      d.name ++ "(" ++ ",".intercalate (d.inputs.map Declared.canonicalType) ++ ")" := by
    rw [signature_event, canonicalTypes_eq_map, commaJoined]
  refine ⟨hsignature, fun types htypes => ?_, fun other hname hrenamed => ?_⟩
  · rw [hsignature, canonical_iff.mp htypes]
  · rw [signature_event, signature_event, hname, hrenamed.canonicalTypes_eq]

/-- **A signature shows the types of the declarations.** The type of a parameter is the one of its
declaration, whatever the position, and each declaration has just one type. So the signature of an
event in a document is its name with the types of the inputs that the document declares, tuples
expanded at every depth, and it does not depend on the names of parameters. -/
theorem signed_read :
    (∀ index d, (Param.ofDeclared index d).signatureType = d.canonicalType) ∧
    (∀ declared types, Canonical declared types ↔
      types = declared.map Declared.canonicalType) ∧
    ∀ text events, Abi.read text = .ok events →
      ∃ declared, DeclaresAll text declared ∧ List.Forall₂ SignedAs declared events := by
  refine ⟨fun index d => signatureType_ofDeclared d index, fun _ _ => canonical_iff, ?_⟩
  intro text events h
  exact exists_declared_of_read h signedAs_event

/-- Tuples in arrays and arrays in tuples, some parameters without a name. -/
def nestedText : String :=
  "[\x7b\"type\":\"event\",\"name\":\"Fill\",\"inputs\":[" ++
  "[\"a\",\"tuple[][2]\",[[\"\",\"tuple\"," ++
  "[[\"b\",\"tuple[3]\",[[\"\",\"bool\"]]],[\"\",\"int8\"]]]]]," ++
  "[\"to\",\"tuple\",[[\"\",\"tuple[]\",[[\"c\",\"address\"]]],[\"\",\"uint8\"]]]]\x7d]"

/-- Its signature has no word `tuple` and no name left. -/
theorem signed_read_nested : ∃ declared events, Abi.read nestedText = .ok events ∧
    DeclaresAll nestedText declared ∧ List.Forall₂ SignedAs declared events ∧
    events.map Event.signature = ["Fill((((bool)[3],int8))[][2],((address)[],uint8))"] := by
  have hread : (Abi.read nestedText).toOption.map (List.map Event.signature) =
      some ["Fill((((bool)[3],int8))[][2],((address)[],uint8))"] := by decide +kernel
  cases h : Abi.read nestedText with
  | error e =>
    rw [h] at hread
    cases hread
  | ok events =>
    rw [h] at hread
    obtain ⟨declared, hdeclares, hsigned⟩ := signed_read.2.2 nestedText events h
    exact ⟨declared, events, rfl, hdeclares, hsigned, Option.some.inj hread⟩

end IndexerTypes.Abi
