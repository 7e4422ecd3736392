import IndexerTypes.Proofs.Import.Layout

/-! # The handler modules of an import

The index is written behind all stubs and has a fixed name. A data source may have that name
too: then its stub is lost, and the index imports itself. No other name does any harm
(`keeps_iff`). -/

namespace IndexerTypes

/-! ## Texts of handler modules -/

namespace Stub

theorem prefix_render (i : TypeScript.ModuleImport) :
    "import type".toList <+: i.render.toList := by
  show _ <+: ("import type \x7b " ++ ", ".intercalate i.names ++ " \x7d from \"" ++ i.source ++
    "\";").toList
  simp

/-- A stub exports a constant right away, or it imports types first. -/
theorem prefix_file (source : String) (events : List String) :
    "export".toList <+: (file source events).content.toList ∨
      "import type".toList <+: (file source events).content.toList := by
  cases events with
  | nil =>
    left
    simp [file, importSection, exportSection]
  | cons event events =>
    right
    have hr := prefix_render ⟨(event :: events).map handlerType, typesModule source⟩
    exact hr.trans (by simp [file, importSection])

theorem prefix_index {sources : List String} (h : sources ≠ []) :
    "import \x7b".toList <+: (index sources).content.toList := by
  obtain ⟨source, others, rfl⟩ := List.exists_cons_of_ne_nil h
  simp [index, importLine, String.join_cons]

/-- An index that imports something is not a stub. -/
theorem content_ne_index {source : String} {events sources : List String} (h : sources ≠ []) :
    (file source events).content ≠ (index sources).content := by
  intro he
  have hi := prefix_index h
  rw [← he] at hi
  rcases prefix_file source events with hf | hf
  · have hp := List.prefix_of_prefix_length_le hf hi (by decide)
    exact absurd hp (by decide)
  · have hp := List.prefix_of_prefix_length_le hi hf (by decide)
    exact absurd hp (by decide)

end Stub

namespace Import

variable {i : Import} {t₀ t u : FileTree} {p : Plan} {dataSources : List DataSource}

/-! ## Names of handler modules -/

theorem IsPlanOf.nodup_filenames (h : IsPlanOf i t dataSources p) :
    (p.stubs.map GeneratedFile.filename).Nodup := by
  have hf : p.stubs.map GeneratedFile.filename =
      (dataSources.map DataSource.name).map fun name => name ++ ".ts" := by
    rw [h.stubs, List.map_map, List.map_map]
    rfl
  rw [hf]
  exact List.Nodup.map (fun a b hab => (String.append_left_inj ".ts").mp hab) h.accepted.distinct

theorem IsPlanOf.index_filename (h : IsPlanOf i t dataSources p) :
    p.index.filename = Stub.indexFilename := by
  rw [h.index]
  rfl

/-- Each source has its stub, and there are no others. -/
theorem IsPlanOf.mem_stubs (h : IsPlanOf i t dataSources p) {f : GeneratedFile} :
    f ∈ p.stubs ↔ ∃ d ∈ dataSources, f = Stub.file d.name d.eventNames := by
  simp [h.stubs, eq_comm]

theorem IsPlanOf.mem_names (h : IsPlanOf i t dataSources p) {name : String} :
    (∃ s ∈ p.config.sources, s.name = name) ↔ ∃ d ∈ dataSources, d.name = name := by
  rw [← List.mem_map, ← List.mem_map, names_of_bound h.sources]

/-- The index takes the place of a stub only from a source of one name. -/
theorem IsPlanOf.filename_ne_iff (h : IsPlanOf i t dataSources p) :
    (∀ f ∈ p.stubs, f.filename ≠ Stub.indexFilename) ↔
      ∀ s ∈ p.config.sources, s.name ≠ "index" := by
  have hi : Stub.indexFilename = "index" ++ ".ts" := by decide
  constructor
  · intro hf s hs he
    obtain ⟨d, hd, hn⟩ := h.mem_names.mp ⟨s, hs, he⟩
    refine hf _ (h.mem_stubs.mpr ⟨d, hd, rfl⟩) ?_
    rw [hi, ← hn]
    rfl
  · intro hs f hf he
    obtain ⟨d, hd, rfl⟩ := h.mem_stubs.mp hf
    rw [hi] at he
    obtain ⟨s, hmem, hn⟩ := h.mem_names.mpr ⟨d, hd, (String.append_left_inj ".ts").mp he⟩
    exact hs s hmem hn

/-! ## What is kept -/

namespace Plan

/-- All that a plan decided is there, each file in a place of its own. -/
structure Keeps (p : Plan) (o : Outcome) (u : FileTree) : Prop where
  stubs : ∀ f ∈ p.stubs, u.readBytes (f.path p.handlersPath) = .ok f.content.toUTF8
  index : u.readBytes (p.handlersPath.join ⟨Stub.indexFilename⟩) = .ok p.index.content.toUTF8
  config : u.readBytes p.configPath = .ok p.config.text.toUTF8
  environment :
    u.readBytes p.environmentPath = .ok (Network.environment p.config.networks).toUTF8
  imports : p.index = Stub.index (p.config.sources.map Source.name) ∧
    ∀ s ∈ p.config.sources, ∃ events, Stub.file s.name events ∈ p.stubs ∧
      u.readBytes (p.handlersPath.join ⟨s.name ++ ".ts"⟩) =
        .ok (Stub.file s.name events).content.toUTF8
  distinct : o.stubs.Pairwise fun a b => ¬ Path.Same a b

theorem index_holds (hi : IsPlanOf i t₀ dataSources p) (h : Effect.Done t p.effects u) :
    u.readBytes (p.handlersPath.join ⟨Stub.indexFilename⟩) = .ok p.index.content.toUTF8 := by
  have hm : p.modules = p.stubs ++ p.index :: [] := rfl
  have hold := module_holds (isLaidOut_of_isPlanOf hi) h hm (by simp)
  rwa [GeneratedFile.path, hi.index_filename] at hold

/-- A stub is overwritten by no other stub. -/
theorem stub_holds (hi : IsPlanOf i t₀ dataSources p) (h : Effect.Done t p.effects u)
    {f : GeneratedFile} (hf : f ∈ p.stubs) (hne : f.filename ≠ Stub.indexFilename) :
    u.readBytes (f.path p.handlersPath) = .ok f.content.toUTF8 := by
  obtain ⟨before, after, hs⟩ := List.append_of_mem hf
  have hm : p.modules = before ++ f :: (after ++ [p.index]) := by simp [modules, hs]
  refine module_holds (isLaidOut_of_isPlanOf hi) h hm fun g hg => ?_
  rcases List.mem_append.mp hg with hg | hg
  · exact Distinct.key_ne_of_nodup (hs ▸ hi.nodup_filenames) g (List.mem_append_right _ hg)
  · rw [List.mem_singleton.mp hg, hi.index_filename]
    exact hne.symm

/-- A stub is kept unless the index is written over it. -/
theorem stub_holds_iff (hi : IsPlanOf i t₀ dataSources p) (h : Effect.Done t p.effects u)
    {f : GeneratedFile} (hf : f ∈ p.stubs) :
    u.readBytes (f.path p.handlersPath) = .ok f.content.toUTF8 ↔
      f.filename ≠ Stub.indexFilename := by
  refine ⟨?_, stub_holds hi h hf⟩
  intro hold hname
  rw [GeneratedFile.path, hname, index_holds hi h, Except.ok.injEq] at hold
  have hc : p.index.content = f.content := String.toByteArray_inj.mp hold
  obtain ⟨d, hd, rfl⟩ := hi.mem_stubs.mp hf
  have hne : p.config.sources.map Source.name ≠ [] := by
    obtain ⟨s, hs, -⟩ := hi.mem_names.mpr ⟨d, hd, rfl⟩
    exact List.ne_nil_of_mem (List.mem_map_of_mem hs)
  rw [hi.index] at hc
  exact Stub.content_ne_index hne hc.symm

theorem pairwise_stubs (hi : IsPlanOf i t₀ dataSources p)
    (hn : ∀ f ∈ p.stubs, f.filename ≠ Stub.indexFilename) :
    p.outcome.stubs.Pairwise fun a b => ¬ Path.Same a b := by
  have hs : GeneratedFile.Separate p.modules := by
    refine ⟨(isLaidOut_of_isPlanOf hi).modules, ?_⟩
    refine Distinct.nodup_concat hi.nodup_filenames fun f hf => ?_
    exact hi.index_filename ▸ hn f hf
  exact hs.pairwise p.handlersPath

theorem keeps_of_names (hi : IsPlanOf i t₀ dataSources p) (h : Effect.Done t p.effects u)
    (hn : ∀ f ∈ p.stubs, f.filename ≠ Stub.indexFilename) : Keeps p p.outcome u := by
  constructor
  case stubs => exact fun f hf => stub_holds hi h hf (hn f hf)
  case index => exact index_holds hi h
  case config => exact config_holds h
  case environment => exact environment_holds h
  case distinct => exact pairwise_stubs hi hn
  case imports =>
    refine ⟨hi.index, fun s hs => ?_⟩
    obtain ⟨d, hd, hname⟩ := hi.mem_names.mp ⟨s, hs, rfl⟩
    have hf := hi.mem_stubs.mpr ⟨d, hd, rfl⟩
    have hold := stub_holds hi h hf (hn _ hf)
    exact ⟨d.eventNames, hname ▸ hf, hname ▸ hold⟩

/-- **All that a plan decided is kept unless a data source is called `index`.** Whatever the
names are, the index, the configuration and the environment file are there, and of the stubs
just one can be lost: the one in the place of the index. -/
theorem keeps_iff {o : Outcome} (hp : (i.plan t₀).result = .ok p)
    (ha : (p.apply t).result = .ok o) :
    (Keeps p o (p.apply t).tree ↔ ∀ s ∈ p.config.sources, s.name ≠ "index") ∧
    (∀ f ∈ p.stubs, (p.apply t).tree.readBytes (f.path p.handlersPath) = .ok f.content.toUTF8 ↔
      f.filename ≠ Stub.indexFilename) ∧
    (p.apply t).tree.readBytes (p.handlersPath.join ⟨Stub.indexFilename⟩) =
      .ok p.index.content.toUTF8 ∧
    (p.apply t).tree.readBytes p.configPath = .ok p.config.text.toUTF8 ∧
    (p.apply t).tree.readBytes p.environmentPath =
      .ok (Network.environment p.config.networks).toUTF8 := by
  obtain ⟨dataSources, hi⟩ := isPlanOf_plan hp
  obtain ⟨h, rfl⟩ := apply_eq_ok.mp ha
  have hstub := fun f hf => stub_holds_iff hi h (f := f) hf
  refine ⟨?_, hstub, index_holds hi h, config_holds h, environment_holds h⟩
  rw [← hi.filename_ne_iff]
  constructor
  · intro hk f hf
    exact (hstub f hf).mp (hk.stubs f hf)
  · exact keeps_of_names hi h

/-- The stub of the sample's source is lost. -/
theorem not_keeps_sample : ∃ p o, (sample.plan sampleTree).result = .ok p ∧
    (p.apply sampleTree).result = .ok o ∧ ¬ p.Keeps o (p.apply sampleTree).tree := by
  obtain ⟨p, o, hp, ha, hn, -⟩ := exists_sample
  refine ⟨p, o, hp, ha, fun hk => ?_⟩
  have hmem : "index" ∈ p.config.sources.map Source.name := by simp [hn]
  obtain ⟨s, hs, hname⟩ := List.mem_map.mp hmem
  exact (keeps_iff hp ha).1.mp hk s hs hname

end Plan

end Import

end IndexerTypes
