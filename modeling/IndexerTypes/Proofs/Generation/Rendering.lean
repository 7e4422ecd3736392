import IndexerTypes.Generation
import IndexerTypes.Proofs.EntityTypes

/-! # What a project renders to

A rendering reads the configuration, the schema and the ABI file of each source. It succeeds
just if nothing is in its way (`render_eq_ok`), and whatever it fails with is in its way
(`obstacle_of_render`): something that cannot be read, or a field without a type. One obstacle
is enough, of any source and any field. -/

namespace IndexerTypes.Generation

variable {t : FileTree} {root : Path} {s : Source} {fault : Fault} {failure : Failure}

/-! ## Obstacles -/

/-- Something that a rendering needs is missing or not in order. -/
inductive Obstacle (t : FileTree) (root : Path) : Fault → Prop
  | config {fault : Fault} : Config.load t root = .error fault → Obstacle t root fault
  | schema {fault : Fault} : EntitySchema.load t root = .error fault → Obstacle t root fault
  | field {schema : EntitySchema} {entity : Entity} {field : EntityField}
      {u : EntityTypes.Unmappable} : EntitySchema.load t root = .ok schema →
      entity ∈ schema.entities → field ∈ entity.fields →
      EntityTypes.fieldType entity.name field = .error u → Obstacle t root (.unmappable u)
  | abi {c : Config} {s : Source} {fault : Fault} : Config.load t root = .ok c →
      s ∈ c.sources → Abi.load t (s.abiPath root) = .error fault → Obstacle t root fault

/-! ## The parts of a rendering -/

theorem sourceTypes_eq_ok {r : HandlerTypes.Result} :
    sourceTypes t root s = .ok r ↔
      ∃ events, Abi.load t (s.abiPath root) = .ok events ∧
        r = HandlerTypes.generate s.name events := by
  rw [sourceTypes, map_eq_ok]
  exact exists_congr fun events => and_congr_right fun _ => eq_comm

theorem sourceTypes_eq_error :
    sourceTypes t root s = .error fault ↔ Abi.load t (s.abiPath root) = .error fault := map_eq_error

theorem entityTypes_eq_ok {f : GeneratedFile} :
    entityTypes t root = .ok f ↔
      ∃ schema, EntitySchema.load t root = .ok schema ∧ EntityTypes.file schema = .ok f := by
  unfold entityTypes
  cases EntitySchema.load t root with
  | error e => simp
  | ok schema => simp [mapError_eq_ok]

theorem obstacle_of_entityTypes (h : entityTypes t root = .error failure) :
    Obstacle t root failure.fault := by
  unfold entityTypes at h
  split at h
  · rename_i found hl
    obtain rfl := Except.error.inj h
    exact .schema hl
  · rename_i schema hl
    obtain ⟨u, hu, rfl⟩ := mapError_eq_error.mp h
    obtain ⟨entity, he, field, hf, ht⟩ := EntityTypes.field_of_file_eq_error hu
    exact .field hl he hf ht

theorem loadConfig_eq_ok {c : Config} : loadConfig t root = .ok c ↔ Config.load t root = .ok c :=
  mapError_eq_ok

/-! ## The rendering -/

/-- What the project renders to: the module of its entities, and a module for each source. -/
structure RendersTo (t : FileTree) (root : Path) (c : Config) (entities : GeneratedFile)
    (results : List HandlerTypes.Result) : Prop where
  config : Config.load t root = .ok c
  entities : ∃ schema, EntitySchema.load t root = .ok schema ∧
    EntityTypes.file schema = .ok entities
  results : List.Forall₂ (fun s r => ∃ events, Abi.load t (s.abiPath root) = .ok events ∧
    r = HandlerTypes.generate s.name events) c.sources results

theorem handlerTypes_eq_ok {sources : List Source} {results : List HandlerTypes.Result} :
    handlerTypes t root sources = .ok results ↔
      List.Forall₂ (fun s r => ∃ events, Abi.load t (s.abiPath root) = .ok events ∧
        r = HandlerTypes.generate s.name events) sources results := by
  simp only [handlerTypes, mapM_eq_ok, sourceTypes_eq_ok]

theorem render_eq_ok {r : Rendered} :
    (render t root).result = .ok r ↔
      ∃ c entities results, RendersTo t root c entities results ∧
        r = .ofResults entities results := by
  constructor
  · intro h
    unfold render at h
    split at h
    · cases h
    rename_i c hc
    split at h
    · cases h
    rename_i entities he
    dsimp only at h
    split at h
    · cases h
    rename_i results hr
    obtain rfl := Except.ok.inj h
    exact ⟨c, entities, results, ⟨loadConfig_eq_ok.mp hc, entityTypes_eq_ok.mp he,
      handlerTypes_eq_ok.mp hr⟩, rfl⟩
  · rintro ⟨c, entities, results, h, rfl⟩
    have hc := loadConfig_eq_ok.mpr h.config
    have he := entityTypes_eq_ok.mpr h.entities
    have hr := handlerTypes_eq_ok.mpr h.results
    unfold render
    rw [hc]
    dsimp only
    rw [he]
    dsimp only
    rw [hr]

theorem obstacle_of_render (h : (render t root).result = .error failure) :
    Obstacle t root failure.fault := by
  unfold render at h
  split at h
  · rename_i found hc
    obtain rfl := Except.error.inj h
    obtain ⟨fault, hf, rfl⟩ := mapError_eq_error.mp hc
    exact .config hf
  rename_i c hc
  split at h
  · rename_i found he
    obtain rfl := Except.error.inj h
    exact obstacle_of_entityTypes he
  dsimp only at h
  split at h
  · rename_i fault hr
    obtain rfl := Except.error.inj h
    obtain ⟨s, hs, ha⟩ := mem_of_mapM_eq_error hr
    exact .abi (loadConfig_eq_ok.mp hc) hs (sourceTypes_eq_error.mp ha)
  · cases h

/-- A project with an obstacle does not render. -/
theorem Obstacle.render_ne_ok (h : Obstacle t root fault) (r : Rendered) :
    (render t root).result ≠ .ok r := by
  intro hr
  obtain ⟨c, entities, results, hto, -⟩ := render_eq_ok.mp hr
  obtain ⟨schema, hschema, hfile⟩ := hto.entities
  cases h with
  | config hc =>
    rw [hto.config] at hc
    cases hc
  | schema hs =>
    rw [hschema] at hs
    cases hs
  | field hs he hf ht =>
    rw [hschema] at hs
    obtain rfl := Except.ok.inj hs
    exact EntityTypes.file_ne_ok he hf ht entities hfile
  | abi hc hs ha =>
    rw [hto.config] at hc
    obtain rfl := Except.ok.inj hc
    exact mapM_ne_ok hs (sourceTypes_eq_error.mpr ha) results (handlerTypes_eq_ok.mpr hto.results)

end IndexerTypes.Generation
