import IndexerTypes.EntityTypes
import IndexerTypes.Proofs.Except

/-! # Fields that have no type

The module of entity types needs a type for each field of each entity. One field without a
type is enough to stop it (`file_ne_ok`), and what stops it is such a field
(`field_of_file_eq_error`). -/

namespace IndexerTypes.EntityTypes

open TypeScript

variable {schema : EntitySchema} {entity : Entity} {field : EntityField} {u : Unmappable}

theorem fieldMember_eq_error {owner : String} :
    fieldMember owner field = .error u ↔ fieldType owner field = .error u := by
  unfold fieldMember
  rw [bind_eq_error]
  constructor
  · rintro (h | ⟨type, -, h⟩)
    · exact h
    · cases h
  · exact .inl

theorem entitySection_eq_error : entitySection entity = .error u ↔
    entity.fields.mapM (fieldMember entity.name) = .error u := by
  unfold entitySection instanceType
  rw [bind_eq_error, bind_eq_error]
  constructor
  · rintro ((h | ⟨members, -, h⟩) | ⟨shape, -, h⟩)
    · exact h
    · cases h
    · cases h
  · exact fun h => .inl (.inl h)

theorem entitySection_eq_ok {text : String} : entitySection entity = .ok text ↔
    ∃ members, entity.fields.mapM (fieldMember entity.name) = .ok members ∧
      "\n" ++ objectAlias (instanceName entity.name) members ++ "\n" ++
        modelType entity.name = text := by
  unfold entitySection instanceType
  simp only [bind_eq_ok]
  constructor
  · rintro ⟨shape, ⟨members, hm, hshape⟩, h⟩
    obtain rfl := Except.ok.inj hshape
    exact ⟨members, hm, Except.ok.inj h⟩
  · rintro ⟨members, hm, rfl⟩
    exact ⟨_, ⟨members, hm, rfl⟩, rfl⟩

/-- An entity without a section has a field without a type. -/
theorem field_of_entitySection_eq_error (h : entitySection entity = .error u) :
    ∃ field ∈ entity.fields, fieldType entity.name field = .error u := by
  obtain ⟨field, hf, he⟩ := mem_of_mapM_eq_error (entitySection_eq_error.mp h)
  exact ⟨field, hf, fieldMember_eq_error.mp he⟩

theorem entitySection_ne_ok (hf : field ∈ entity.fields)
    (h : fieldType entity.name field = .error u) (text : String) :
    entitySection entity ≠ .ok text := by
  intro hs
  obtain ⟨members, hm, -⟩ := entitySection_eq_ok.mp hs
  exact mapM_ne_ok hf (fieldMember_eq_error.mpr h) members hm

theorem file_eq_error : file schema = .error u ↔
    schema.entities.mapM entitySection = .error u := by
  unfold file
  rw [bind_eq_error]
  constructor
  · rintro (h | ⟨sections, -, h⟩)
    · exact h
    · cases h
  · exact .inl

theorem file_eq_ok {f : GeneratedFile} : file schema = .ok f ↔
    ∃ sections, schema.entities.mapM entitySection = .ok sections ∧
      f = ⟨filename, generatedNote ++ "\n" ++ String.join sections ++ "\n" ++
        objectAlias "entities" (schema.entities.map modelEntry)⟩ := by
  unfold file
  rw [bind_eq_ok]
  refine exists_congr fun sections => and_congr_right fun _ => ?_
  constructor
  · exact fun h => (Except.ok.inj h).symm
  · rintro rfl
    rfl

/-- A schema without a module has a field without a type. -/
theorem field_of_file_eq_error (h : file schema = .error u) :
    ∃ entity ∈ schema.entities, ∃ field ∈ entity.fields,
      fieldType entity.name field = .error u := by
  obtain ⟨entity, he, hs⟩ := mem_of_mapM_eq_error (file_eq_error.mp h)
  exact ⟨entity, he, field_of_entitySection_eq_error hs⟩

/-- One field without a type is enough, wherever it stands. -/
theorem file_ne_ok (he : entity ∈ schema.entities) (hf : field ∈ entity.fields)
    (h : fieldType entity.name field = .error u) (f : GeneratedFile) : file schema ≠ .ok f := by
  intro hfile
  obtain ⟨sections, hs, -⟩ := file_eq_ok.mp hfile
  cases hsection : entitySection entity with
  | error first => exact mapM_ne_ok he hsection sections hs
  | ok text => exact entitySection_ne_ok hf h text hsection

theorem filename_of_file {f : GeneratedFile} (h : file schema = .ok f) :
    f.filename = filename := by
  obtain ⟨sections, -, rfl⟩ := file_eq_ok.mp h
  rfl

end IndexerTypes.EntityTypes
