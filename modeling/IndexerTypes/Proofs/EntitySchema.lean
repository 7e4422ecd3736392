import IndexerTypes.EntitySchema

/-! # What the types of a schema stand for

A type name means what the whole document says of it: an enum hides an entity of its name, and
what is neither is a scalar. So the kind of a field depends on the definitions of the document
and on the marks of its type, one level deep for a name and two for a list (`hasKind_fieldKind`).
-/

namespace IndexerTypes

theorem Sdl.TypeRef.nullable_cases (type : Sdl.TypeRef) :
    (∃ name, type.nullable = .named name) ∨ ∃ element, type.nullable = .list element := by
  induction type with
  | named name => exact .inl ⟨name, rfl⟩
  | list element => exact .inr ⟨element, rfl⟩
  | nonNull type ih => exact ih

namespace EntitySchema

variable {document : Sdl.Document} {name : String}

def DefinesEnum (document : Sdl.Document) (name : String) : Prop :=
  ∃ type, .enum type ∈ document ∧ type.name = name

def DefinesEntity (document : Sdl.Document) (name : String) : Prop :=
  ∃ type, .object type ∈ document ∧ "entity" ∈ type.directives ∧ type.name = name

/-- The enum that a name means: the last one that has it. -/
structure IsEnum (document : Sdl.Document) (name : String) (type : Sdl.EnumType) : Prop where
  named : type.name = name
  last : ∃ before after, document = before ++ .enum type :: after ∧ ¬ DefinesEnum after name

/-- What a field is, by its type. A name means an enum before it means an entity, and an entity
before it means a scalar; only as the type of a field itself can it mean the key. -/
inductive HasKind (document : Sdl.Document) (type : Sdl.TypeRef) : FieldKind → Prop
  | id : type.nullable = .named "ID" → HasKind document type .id
  | enum {name : String} {values : Sdl.EnumType} : type.nullable = .named name → name ≠ "ID" →
      IsEnum document name values → HasKind document type (.enum values)
  | relationship {name : String} : type.nullable = .named name → name ≠ "ID" →
      ¬ DefinesEnum document name → DefinesEntity document name →
      HasKind document type (.relationship name)
  | scalar {name : String} : type.nullable = .named name → name ≠ "ID" →
      ¬ DefinesEnum document name → ¬ DefinesEntity document name →
      HasKind document type (.scalar name)
  | enumList {element : Sdl.TypeRef} {name : String} {values : Sdl.EnumType} :
      type.nullable = .list element → element.nullable = .named name →
      IsEnum document name values → HasKind document type (.list (.enum values))
  | entityList {element : Sdl.TypeRef} {name : String} : type.nullable = .list element →
      element.nullable = .named name → ¬ DefinesEnum document name →
      DefinesEntity document name → HasKind document type (.list (.unsupported name))
  | scalarList {element : Sdl.TypeRef} {name : String} : type.nullable = .list element →
      element.nullable = .named name → ¬ DefinesEnum document name →
      ¬ DefinesEntity document name → HasKind document type (.list (.scalar name))
  | nestedList {element inner : Sdl.TypeRef} : type.nullable = .list element →
      element.nullable = .list inner →
      HasKind document type (.list (.unsupported (Sdl.TypeRef.list inner).render))

/-! ## Names -/

theorem mem_entityTypes {type : Sdl.ObjectType} :
    type ∈ entityTypes document ↔ .object type ∈ document ∧ "entity" ∈ type.directives := by
  unfold entityTypes
  rw [List.mem_filterMap]
  constructor
  · rintro ⟨definition, hd, he⟩
    unfold entityType? at he
    split at he
    · split at he
      · rename_i hentity
        obtain rfl := Option.some.inj he
        exact ⟨hd, by simpa [isEntity] using hentity⟩
      · cases he
    · cases he
  · rintro ⟨hd, hentity⟩
    refine ⟨_, hd, ?_⟩
    have hi : isEntity type = true := by simpa [isEntity] using hentity
    simp [entityType?, hi]

theorem isEntityName_iff : isEntityName document name = true ↔ DefinesEntity document name := by
  simp [isEntityName, DefinesEntity, mem_entityTypes, and_assoc]

theorem enumType?_eq_some {definition : Sdl.Definition} {type : Sdl.EnumType} :
    enumType? definition = some type ↔ definition = .enum type := by
  cases definition <;> simp [enumType?]

theorem mem_enumTypes {type : Sdl.EnumType} :
    type ∈ document.filterMap enumType? ↔ .enum type ∈ document := by
  simp only [List.mem_filterMap, enumType?_eq_some, exists_eq_right]

theorem enumNamed?_eq_none : enumNamed? document name = none ↔ ¬ DefinesEnum document name := by
  simp only [enumNamed?, DefinesEnum, List.find?_eq_none, List.mem_reverse, mem_enumTypes,
    decide_eq_true_eq, not_exists, not_and]

theorem enumNamed?_cons (definition : Sdl.Definition) :
    enumNamed? (definition :: document) name =
      (enumNamed? document name).or ((enumType? definition).filter fun type => type.name = name) := by
  unfold enumNamed?
  cases h : enumType? definition with
  | none => simp [h]
  | some type => simp [h, List.find?_append, List.find?_singleton, Option.filter]

theorem isEnum_of_enumNamed? {type : Sdl.EnumType} (h : enumNamed? document name = some type) :
    IsEnum document name type := by
  induction document with
  | nil => cases h
  | cons definition document ih =>
    rw [enumNamed?_cons, Option.or_eq_some_iff] at h
    rcases h with h | ⟨hnone, h⟩
    · obtain ⟨hname, before, after, rfl, hlast⟩ := ih h
      exact ⟨hname, definition :: before, after, rfl, hlast⟩
    · obtain ⟨hd, hname⟩ := Option.filter_eq_some_iff.mp h
      obtain rfl := enumType?_eq_some.mp hd
      exact ⟨of_decide_eq_true hname, [], document, rfl, enumNamed?_eq_none.mp hnone⟩

theorem IsEnum.mem {type : Sdl.EnumType} (h : IsEnum document name type) :
    .enum type ∈ document := by
  obtain ⟨before, after, rfl, -⟩ := h.last
  simp

theorem IsEnum.defines {type : Sdl.EnumType} (h : IsEnum document name type) :
    DefinesEnum document name := ⟨type, h.mem, h.named⟩

/-! ## Kinds -/

theorem hasKind_of_named {type : Sdl.TypeRef} (h : type.nullable = .named name) :
    HasKind document type (namedKind document name) := by
  unfold namedKind
  by_cases hid : name = "ID"
  · rw [if_pos hid]
    exact .id (hid ▸ h)
  · rw [if_neg hid]
    cases he : enumNamed? document name with
    | some values => exact .enum h hid (isEnum_of_enumNamed? he)
    | none =>
      have hno := enumNamed?_eq_none.mp he
      by_cases hentity : isEntityName document name = true
      · simp only [hentity, if_true]
        exact .relationship h hid hno (isEntityName_iff.mp hentity)
      · simp only [hentity, Bool.false_eq_true, if_false]
        exact .scalar h hid hno fun hd => hentity (isEntityName_iff.mpr hd)

theorem hasKind_of_list {type element : Sdl.TypeRef} (h : type.nullable = .list element) :
    HasKind document type (.list (listElement document element)) := by
  unfold listElement
  rcases element.nullable_cases with ⟨name, hn⟩ | ⟨inner, hn⟩
  · simp only [hn]
    cases he : enumNamed? document name with
    | some values => exact .enumList h hn (isEnum_of_enumNamed? he)
    | none =>
      have hno := enumNamed?_eq_none.mp he
      by_cases hentity : isEntityName document name = true
      · simp only [hentity, if_true]
        exact .entityList h hn hno (isEntityName_iff.mp hentity)
      · simp only [hentity, Bool.false_eq_true, if_false]
        exact .scalarList h hn hno fun hd => hentity (isEntityName_iff.mpr hd)
  · simp only [hn]
    exact .nestedList h hn

theorem hasKind_fieldKind (document : Sdl.Document) (type : Sdl.TypeRef) :
    HasKind document type (fieldKind document type) := by
  unfold fieldKind
  rcases type.nullable_cases with ⟨name, h⟩ | ⟨element, h⟩
  · simp only [h]
    exact hasKind_of_named h
  · simp only [h]
    exact hasKind_of_list h

/-! ## Schemas -/

/-- What is read from a text are the entities of the document in it. -/
theorem document_of_read {text : String} {schema : EntitySchema} (h : read text = .ok schema) :
    ∃ document, Sdl.read? text = some document ∧
      schema.entities = (entityTypes document).map (resolveEntity document) := by
  unfold read at h
  split at h
  · cases h
  · rename_i document hd
    unfold ofDocument at h
    split at h
    · cases h
    · obtain rfl := Except.ok.inj h
      exact ⟨document, hd, rfl⟩

end EntitySchema

end IndexerTypes
