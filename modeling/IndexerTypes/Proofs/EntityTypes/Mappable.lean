import IndexerTypes.Proofs.EntitySchema
import IndexerTypes.Proofs.EntityTypes

/-! # Which schemas have a module of entity types

Whether a field has a type can be told from the document alone: from its type, from the names
that the document defines, and from the table of scalars (`Mappable`). All fields of all entities
must have one. The first that has none, entity by entity, is what the module fails on
(`file_of_read`). -/

namespace IndexerTypes.EntityTypes

open EntitySchema

variable {document : Sdl.Document} {schema : EntitySchema} {u : Unmappable}

def IsScalar (name : String) : Prop := name ∈ TypeTable.scalars.map Prod.fst

instance (name : String) : Decidable (IsScalar name) :=
  inferInstanceAs (Decidable (name ∈ TypeTable.scalars.map Prod.fst))

/-- Values of the type can be told in TypeScript: those of enums and of scalars in the table,
alone or in a list, and keys and references to entities by themselves. -/
def Mappable (document : Sdl.Document) (type : Sdl.TypeRef) : Prop :=
  match type.nullable with
  | .named name =>
    name = "ID" ∨ DefinesEnum document name ∨ DefinesEntity document name ∨ IsScalar name
  | .list element =>
    match element.nullable with
    | .named name => DefinesEnum document name ∨ (¬ DefinesEntity document name ∧ IsScalar name)
    | _ => False
  | .nonNull _ => False

/-- What is said of a field that has no type. -/
def offence (entity : String) (field : Sdl.Field) : Unmappable :=
  match field.type.nullable with
  | .named name => .scalar entity field.name name
  | _ => .listElement entity field.name

/-- The fields of all entities, each with the name of its entity, in the order of the document. -/
def entityFields (document : Sdl.Document) : List (String × Sdl.Field) :=
  (entityTypes document).flatMap fun type => type.fields.map fun field => (type.name, field)

/-! ## Single fields -/

theorem scalarType?_eq_none {name : String} :
    TypeTable.scalarType? name = none ↔ ¬ IsScalar name := by
  simp only [TypeTable.scalarType?, IsScalar, List.lookup_eq_none_iff, List.mem_map, not_exists,
    not_and, bne_iff_ne, ne_eq]
  exact ⟨fun h p hp he => h p hp he.symm, fun h p hp he => h p hp he.symm⟩

theorem exists_scalarType? {name : String} (h : IsScalar name) :
    ∃ type, TypeTable.scalarType? name = some type := by
  rw [← Option.ne_none_iff_exists', ne_eq, scalarType?_eq_none, not_not]
  exact h

/-- A field of this kind has a type. -/
def IsTyped : FieldKind → Prop
  | .scalar name => IsScalar name
  | .list (.scalar name) => IsScalar name
  | .list (.unsupported _) => False
  | _ => True

instance : (kind : FieldKind) → Decidable (IsTyped kind)
  | .scalar name => inferInstanceAs (Decidable (IsScalar name))
  | .list (.scalar name) => inferInstanceAs (Decidable (IsScalar name))
  | .list (.unsupported _) => .isFalse id
  | .list (.enum _) => .isTrue trivial
  | .id => .isTrue trivial
  | .enum _ => .isTrue trivial
  | .relationship _ => .isTrue trivial

theorem mappable_iff {type : Sdl.TypeRef} {kind : FieldKind} (h : HasKind document type kind) :
    Mappable document type ↔ IsTyped kind := by
  cases h with
  | id h => simp [Mappable, IsTyped, h]
  | enum h _ he => simp [Mappable, IsTyped, h, he.defines]
  | relationship h _ _ hd => simp [Mappable, IsTyped, h, hd]
  | scalar h hid he hd => simp [Mappable, IsTyped, h, hid, he, hd]
  | enumList h hn he => simp [Mappable, IsTyped, h, hn, he.defines]
  | entityList h hn he hd => simp [Mappable, IsTyped, h, hn, he, hd]
  | scalarList h hn he hd => simp [Mappable, IsTyped, h, hn, he, hd]
  | nestedList h hn => simp [Mappable, IsTyped, h, hn]

instance (document : Sdl.Document) (type : Sdl.TypeRef) : Decidable (Mappable document type) :=
  decidable_of_iff _ (mappable_iff (hasKind_fieldKind document type)).symm

theorem fieldType_eq_error {entity : String} {field : Sdl.Field} :
    fieldType entity (resolveField document field) = .error u ↔
      ¬ Mappable document field.type ∧ u = offence entity field := by
  have hk := hasKind_fieldKind document field.type
  rw [mappable_iff hk]
  unfold fieldType
  simp only [resolveField]
  generalize fieldKind document field.type = kind at hk
  cases hk with
  | id h => simp [IsTyped]
  | enum h => simp [IsTyped]
  | relationship h => simp [IsTyped]
  | @scalar name h =>
    by_cases hs : IsScalar name
    · obtain ⟨type, ht⟩ := exists_scalarType? hs
      simp [IsTyped, hs, ht]
    · simp [IsTyped, offence, h, hs, scalarType?_eq_none.mpr hs, eq_comm]
  | enumList h => simp [IsTyped, elementType?]
  | entityList h => simp [IsTyped, elementType?, offence, h, eq_comm]
  | @scalarList element name h =>
    by_cases hs : IsScalar name
    · obtain ⟨type, ht⟩ := exists_scalarType? hs
      simp [IsTyped, elementType?, hs, ht]
    · simp [IsTyped, elementType?, offence, h, hs, scalarType?_eq_none.mpr hs, eq_comm]
  | nestedList h => simp [IsTyped, elementType?, offence, h, eq_comm]

/-! ## Whole modules -/

/-- A module fails on the first of all fields that fails. -/
theorem file_eq_error_iff_fields
    (h : schema.entities = (entityTypes document).map (resolveEntity document)) :
    file schema = .error u ↔ (entityFields document).mapM (fun (entity, field) =>
      fieldMember entity (resolveField document field)) = .error u := by
  rw [file_eq_error, h, List.mapM_map, entityFields, mapM_flatMap_eq_error]
  refine mapM_eq_error_congr fun type _ e => ?_
  rw [Function.comp_apply, entitySection_eq_error, List.mapM_map, resolveEntity, List.mapM_map]
  rfl

theorem forall_entityFields {P : Sdl.TypeRef → Prop} :
    (∀ f ∈ entityFields document, P f.2.type) ↔
      ∀ type ∈ entityTypes document, ∀ field ∈ type.fields, P field.type := by
  unfold entityFields
  constructor
  · intro h type ht field hf
    exact h (type.name, field) (List.mem_flatMap.mpr ⟨type, ht, List.mem_map_of_mem hf⟩)
  · intro h f hf
    obtain ⟨type, ht, hf⟩ := List.mem_flatMap.mp hf
    obtain ⟨field, hfield, rfl⟩ := List.mem_map.mp hf
    exact h type ht field hfield

theorem member_eq_error {entity : String} {field : Sdl.Field} :
    fieldMember entity (resolveField document field) = .error u ↔
      ¬ Mappable document field.type ∧ u = offence entity field := by
  rw [← fieldType_eq_error]
  exact fieldMember_eq_error

theorem exists_member {entity : String} {field : Sdl.Field} :
    (∃ m, fieldMember entity (resolveField document field) = .ok m) ↔
      Mappable document field.type := by
  rw [exists_ok_iff]
  constructor
  · intro h
    by_contra hno
    exact h _ (member_eq_error.mpr ⟨hno, rfl⟩)
  · exact fun hm e he => (member_eq_error.mp he).1 hm

/-- **A module of entity types fails on unmappable fields, and on the first of them.** What is
read from a text has a module just if every field of every entity has a type; else the error
names the first field that has none, in the order of the document. -/
theorem file_of_read {text : String} (h : EntitySchema.read text = .ok schema) :
    ∃ document, Sdl.read? text = some document ∧
      ((∃ f, file schema = .ok f) ↔
        ∀ type ∈ entityTypes document, ∀ field ∈ type.fields, Mappable document field.type) ∧
      ∀ u, file schema = .error u ↔
        ∃ before entity field after,
          entityFields document = before ++ (entity, field) :: after ∧
          (∀ f ∈ before, Mappable document f.2.type) ∧ ¬ Mappable document field.type ∧
          u = offence entity field := by
  obtain ⟨document, hd, he⟩ := document_of_read h
  refine ⟨document, hd, ?_, ?_⟩
  · have hok : (∃ f, file schema = .ok f) ↔ ∃ members, (entityFields document).mapM
        (fun (entity, field) => fieldMember entity (resolveField document field)) =
          .ok members := by
      simp only [exists_ok_iff, ne_eq, file_eq_error_iff_fields he]
    rw [hok, exists_mapM_eq_ok, ← forall_entityFields]
    exact forall₂_congr fun f _ => exists_member
  · intro u
    rw [file_eq_error_iff_fields he, mapM_eq_error]
    constructor
    · rintro ⟨before, ⟨entity, field⟩, after, hsplit, hbefore, herror⟩
      exact ⟨before, entity, field, after, hsplit,
        fun f hf => exists_member.mp (hbefore f hf), member_eq_error.mp herror⟩
    · rintro ⟨before, entity, field, after, hsplit, hbefore, herror⟩
      exact ⟨before, (entity, field), after, hsplit,
        fun f hf => exists_member.mpr (hbefore f hf), member_eq_error.mpr herror⟩

/-- A schema with two fields that have no type. -/
def unmappableText : String :=
  "enum Color { RED GREEN } type A @entity { id: ID! colors: [Color!]! } " ++
  "type B @entity { a: A! twins: [A!] at: Date }"

def unmappableDocument : Sdl.Document := [
  .enum ⟨"Color", ["RED", "GREEN"]⟩,
  .object ⟨"A", ["entity"], [⟨"id", .nonNull (.named "ID")⟩,
    ⟨"colors", .nonNull (.list (.nonNull (.named "Color")))⟩]⟩,
  .object ⟨"B", ["entity"], [⟨"a", .nonNull (.named "A")⟩,
    ⟨"twins", .list (.nonNull (.named "A"))⟩, ⟨"at", .named "Date"⟩]⟩]

/-- The first of the two fields is reported. -/
theorem file_of_read_unmappable : ∃ schema, EntitySchema.read unmappableText = .ok schema ∧
    file schema = .error (.listElement "B" "twins") := by
  have hd : Sdl.read? unmappableText = some unmappableDocument := by decide +kernel
  have hr : EntitySchema.read unmappableText = .ok
      ⟨(entityTypes unmappableDocument).map (resolveEntity unmappableDocument)⟩ := by
    unfold EntitySchema.read
    rw [hd]
    rfl
  obtain ⟨document, hdocument, -, herror⟩ := file_of_read hr
  obtain rfl := Option.some.inj (hd.symm.trans hdocument)
  let fields := entityFields unmappableDocument
  have hfirst : fields = fields.take 3 ++
      ("B", ⟨"twins", .list (.nonNull (.named "A"))⟩) :: fields.drop 4 := by decide
  exact ⟨_, hr, (herror _).mpr ⟨_, _, _, _, hfirst, by decide, by decide, rfl⟩⟩

end IndexerTypes.EntityTypes
