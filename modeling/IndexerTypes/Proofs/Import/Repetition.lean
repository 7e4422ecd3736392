import IndexerTypes.Proofs.GeneratedFile.Directory
import IndexerTypes.Proofs.Import.Copies
import IndexerTypes.Proofs.InputFile

/-! # Importing once more

A second import plans against the tree that the first one has left. It comes to the same plan if
it finds the same manifest and can read from it what the first one has read (`plan_again`), since
the files that a plan asks for are never lost. Each effect of the plan is then settled: every copy
holds what its source holds, and every other file holds what is written into it. A handler module
that the index has replaced is written once more and replaced once more (`done_again`).

Inputs may be where the import puts its copies, in any spelling: a file that is copied onto
itself is not written. One thing can still go wrong. A candidate for the manifest may lead
through a directory that the import makes, so it is passed over by the first run and found by the
second (`not_reimported_detour`). -/

namespace IndexerTypes.Import

open FileTree (Grows Retains under Apart)
open Effect (Done Spares)
open IndexerTypes.Path (IsName)

variable {i : Import} {t u : FileTree} {p : Plan} {q path : Path} {dataSources : List DataSource}

/-! ## The same manifest -/

/-- The candidates that are no files, up to the manifest. -/
def passedOver (i : Import) (t : FileTree) : List String :=
  i.candidates.takeWhile fun name => !t.isFile (i.directory.join ⟨name⟩)

/-- What has been found is found again if it is there and nothing before it is. -/
theorem locate_again {directory : Path} {candidates : List String}
    (h : Manifest.locate t directory candidates = .ok path) (hf : u.isFile path = true)
    (hn : ∀ name ∈ candidates.takeWhile fun name => !t.isFile (directory.join ⟨name⟩),
      u.isFile (directory.join ⟨name⟩) = false) :
    Manifest.locate u directory candidates = .ok path := by
  rw [Manifest.locate_eq_ok] at h ⊢
  induction candidates with
  | nil => cases h
  | cons name rest ih =>
    rw [List.map_cons, List.find?_cons] at h ⊢
    rw [List.takeWhile_cons] at hn
    by_cases ht : t.isFile (directory.join ⟨name⟩) = true
    · rw [ht] at h
      obtain rfl := Option.some.inj h
      rw [hf]
    · simp only [ht, Bool.not_false, if_true, List.forall_mem_cons] at h hn
      rw [hn.1]
      exact ih h hn.2

theorem mem_candidates_of_locate (h : Manifest.locate t i.directory i.candidates = .ok path) :
    t.isFile path = true ∧ ∃ name ∈ i.candidates, path = i.directory.join ⟨name⟩ := by
  rw [Manifest.locate_eq_ok] at h
  obtain ⟨name, hname, he⟩ := List.mem_map.mp (List.mem_of_find?_eq_some h)
  exact ⟨List.find?_some h, name, hname, he.symm⟩

/-! ## The same plan -/

section

variable {d : DataSource} {g g' : Progress} {content : Content}

theorem findSchema_of_grows (hg : Grows t u) {m : Manifest} (h : i.findSchema t m = .ok path) :
    i.findSchema u m = .ok path := by
  obtain ⟨file, hfile, rfl, hf⟩ := findSchema_eq_ok h
  unfold findSchema
  rw [hfile]
  dsimp only
  rw [if_pos (hg.isFile hf)]

theorem findAbi_of_grows (hg : Grows t u) {r : Path × String} (h : i.findAbi t d = .ok r) :
    i.findAbi u d = .ok r := by
  obtain ⟨path, name⟩ := r
  obtain ⟨file, hfile, rfl, hf, hn⟩ := findAbi_eq_ok h
  unfold findAbi
  rw [hfile]
  dsimp only at hn ⊢
  rw [if_pos (hg.isFile hf), hn]

theorem planSource_of_grows (hg : Grows t u) (h : i.planSource t d g = (g', none)) :
    i.planSource u d g = (g', none) := by
  unfold planSource at h ⊢
  split at h
  · simp at h
  · rename_i chainId hc
    dsimp only at h ⊢
    split at h
    · simp at h
    · rename_i made hmade
      obtain ⟨found, hf, hrest⟩ := bind_eq_ok.mp hmade
      have hagain : i.planContract u d (g.addNetwork (i.networkOf d) chainId) = .ok made :=
        bind_eq_ok.mpr ⟨found, findAbi_of_grows hg hf, hrest⟩
      rw [hagain]
      exact h

theorem planSources_of_grows (hg : Grows t u) (h : i.planSources t g dataSources = (g', none)) :
    i.planSources u g dataSources = (g', none) := by
  induction dataSources generalizing g with
  | nil => exact h
  | cons d rest ih =>
    unfold planSources at h ⊢
    split at h
    · rename_i made hd
      rw [planSource_of_grows hg hd]
      exact ih h
    · simp at h

theorem readContent_of_retains (hg : Grows t u) (hk : Retains t u path)
    (h : i.readContent t path = .ok content) : i.readContent u path = .ok content := by
  obtain ⟨m, hm, hs, hd⟩ := readContent_eq_ok h
  obtain ⟨text, htext, hread⟩ := Manifest.load_eq_ok.mp hm
  unfold readContent
  refine bind_eq_ok.mpr ⟨m, Manifest.load_eq_ok.mpr ⟨text, hk _ htext, hread⟩, ?_⟩
  refine bind_eq_ok.mpr ⟨content.schema, findSchema_of_grows hg hs, ?_⟩
  exact bind_eq_ok.mpr ⟨content.dataSources, mapError_eq_ok.mpr hd, rfl⟩

/-- **A tree that has grown gives the same plan, if it has the same manifest.** -/
theorem plan_again (hp : (i.plan t).result = .ok p) (hg : Grows t u)
    (hn : ∀ name ∈ i.passedOver t, u.isFile (i.directory.join ⟨name⟩) = false)
    (hk : ∀ name ∈ i.candidates, Retains t u (i.directory.join ⟨name⟩)) :
    (i.plan u).result = .ok p := by
  obtain ⟨path, content, g, hpath, hcontent, hplanned, rfl⟩ := progress_of_plan hp
  obtain ⟨hf, name, hname, rfl⟩ := mem_candidates_of_locate hpath
  unfold plan
  rw [locate_again hpath (hg.isFile hf) hn]
  dsimp only
  rw [readContent_of_retains hg (hk name hname) hcontent]
  dsimp only
  rw [planSources_of_grows hg hplanned]

end

/-! ## What an import writes -/

namespace Plan

/-- The files that the plan writes, seen from the tree that it leaves. A file that is copied onto
itself is none of them. -/
def written (p : Plan) (u : FileTree) : List Path :=
  (p.effects.filter fun e => ¬ e.Idle u).filterMap Effect.target?

theorem mem_written : q ∈ p.written u ↔ ∃ e ∈ p.effects, ¬ e.Idle u ∧ e.target? = some q := by
  simp [written, and_assoc]

/-- What the plan is made from is not written over: no candidate for the manifest is, and the
schema and the ABI files are not, each but for the place of its own copy. -/
structure SparesInputs (p : Plan) (i : Import) (u : FileTree) : Prop where
  manifests : ∀ q ∈ p.written u, ∀ name ∈ i.candidates,
    u.sameEntry (i.directory.join ⟨name⟩) q = false
  schema : ∀ q ∈ p.written u, q ≠ p.schemaPath → u.sameEntry p.schema q = false
  abis : ∀ q ∈ p.written u, ∀ a ∈ p.abis, q ≠ p.abiPath a → u.sameEntry a.source q = false

instance (p : Plan) (i : Import) (u : FileTree) : Decidable (p.SparesInputs i u) :=
  decidable_of_iff
    ((∀ q ∈ p.written u, ∀ name ∈ i.candidates,
        u.sameEntry (i.directory.join ⟨name⟩) q = false) ∧
      (∀ q ∈ p.written u, q ≠ p.schemaPath → u.sameEntry p.schema q = false) ∧
      ∀ q ∈ p.written u, ∀ a ∈ p.abis, q ≠ p.abiPath a → u.sameEntry a.source q = false)
    ⟨fun ⟨hm, hs, ha⟩ => ⟨hm, hs, ha⟩, fun h => ⟨h.manifests, h.schema, h.abis⟩⟩

/-- A file that is none of those that are written keeps its content. -/
theorem retains_of_written (h : Done t p.effects u)
    (hq : ∀ r ∈ p.written u, u.sameEntry q r = false) : Retains t u q := by
  intro c hc
  obtain ⟨l, hl⟩ := FileTree.readBytes_eq_ok.mp hc
  refine FileTree.readBytes_eq_ok.mpr ⟨l, h.find_file_of_apart hl fun e he r hr hsame => ?_⟩
  by_contra hidle
  rw [hq r (mem_written.mpr ⟨e, he, hidle, hr⟩)] at hsame
  cases hsame

/-! ## Copies in place -/

/-- Paths that never meet are not one path, if it leads to a file. -/
theorem ne_of_apart {r : Path} (h : Apart q r) (hf : u.isFile q = true) : r ≠ q := by
  rintro rfl
  obtain ⟨l, c, hl⟩ := FileTree.isFile_iff.mp hf
  exact h u l (FileTree.walk_of_find hl) (FileTree.walk_of_find hl)

/-- What spares a path does not have it for a target. -/
theorem target_ne_of_spares {es : List Effect} {e : Effect} (hs : Spares es q)
    (hf : u.isFile q = true) (he : e ∈ es) : e.target? ≠ some q :=
  fun ht => ne_of_apart (hs e he q ht) hf rfl

theorem apart_schemaPath (hl : p.IsLaidOut) {a : AbiCopy} (ha : a ∈ p.abis) :
    Apart p.schemaPath (p.abiPath a) := by
  rw [schemaPath_eq, abiPath_eq]
  exact (apart_inner p.root isName_abisDirectory (hl.abis a ha) isName_schemaFilename).symm

/-- Nothing but the schema is put in the place of its copy. -/
theorem eq_schema_of_target (hi : IsPlanOf i t dataSources p) (h : Done t p.effects u)
    {e : Effect} (he : e ∈ p.effects) (ht : e.target? = some p.schemaPath) :
    e = .copy "schema" p.schema p.schemaPath := by
  have hl := isLaidOut_of_isPlanOf hi
  have hf := isFile_schemaPath hi h
  rw [effects_eq_schema, List.mem_append, List.mem_cons] at he
  rcases he with he | rfl | he
  · exact absurd ht (target_ne_of_spares spares_directories hf he)
  · rfl
  · refine absurd ht (target_ne_of_spares (Effect.spares_append.mpr ⟨?_, ?_⟩) hf he)
    · exact spares_abis fun a ha => apart_schemaPath hl ha
    · exact spares_later_schema hl

/-- Nothing but an ABI file is put in the place of its copy. -/
theorem eq_abi_of_target (hi : IsPlanOf i t dataSources p) (h : Done t p.effects u)
    {a : AbiCopy} (ha : a ∈ p.abis) {e : Effect} (he : e ∈ p.effects)
    (ht : e.target? = some (p.abiPath a)) : e = p.abiEffect a := by
  have hl := isLaidOut_of_isPlanOf hi
  have hf := isFile_abiPath hi h ha
  rw [effects_eq_schema, List.mem_append, List.mem_cons, List.mem_append] at he
  rcases he with he | rfl | he | he
  · exact absurd ht (target_ne_of_spares spares_directories hf he)
  · exact absurd (Option.some.inj ht) (ne_of_apart (apart_schemaPath hl ha).symm hf)
  · obtain ⟨b, hb, rfl⟩ := List.mem_map.mp he
    by_cases hname : b.name = a.name
    · rw [List.inj_on_of_nodup_map hi.names hb ha hname]
    · refine absurd (Option.some.inj ht) (ne_of_apart ?_ hf)
      rw [abiPath_eq, abiPath_eq]
      exact apart_nested p.root isName_abisDirectory (hl.abis a ha) isName_abisDirectory
        (hl.abis b hb) (.inr (Ne.symm hname))
  · exact absurd ht (target_ne_of_spares (spares_later_abi hl ha) hf he)

namespace SparesInputs

/-- The schema keeps its content, also if it is the file that it is copied to. -/
theorem retains_schema (hs : p.SparesInputs i u) (hi : IsPlanOf i t dataSources p)
    (h : Done t p.effects u) : Retains t u p.schema := by
  refine retains_of_written h fun r hr => ?_
  by_cases hrs : r = p.schemaPath
  · obtain ⟨e, he, hidle, ht⟩ := mem_written.mp hr
    rw [eq_schema_of_target hi h he (hrs ▸ ht)] at hidle
    exact hrs ▸ Bool.eq_false_iff.mpr hidle
  · exact hs.schema r hr hrs

theorem retains_abi (hs : p.SparesInputs i u) (hi : IsPlanOf i t dataSources p)
    (h : Done t p.effects u) {a : AbiCopy} (ha : a ∈ p.abis) : Retains t u a.source := by
  refine retains_of_written h fun r hr => ?_
  by_cases hra : r = p.abiPath a
  · obtain ⟨e, he, hidle, ht⟩ := mem_written.mp hr
    rw [eq_abi_of_target hi h ha he (hra ▸ ht)] at hidle
    exact hra ▸ Bool.eq_false_iff.mpr hidle
  · exact hs.abis r hr a ha hra

/-- An ABI file in the place of the schema's copy is the schema. -/
theorem sameEntry_schema (hs : p.SparesInputs i u) (hi : IsPlanOf i t dataSources p)
    (h : Done t p.effects u) {a : AbiCopy} (ha : a ∈ p.abis)
    (hsame : u.sameEntry a.source p.schemaPath = true) :
    u.sameEntry a.source p.schema = true := by
  have hne : p.schemaPath ≠ p.abiPath a :=
    ne_of_apart (apart_schemaPath (isLaidOut_of_isPlanOf hi) ha).symm (isFile_abiPath hi h ha)
  have hidle : (Effect.copy "schema" p.schema p.schemaPath).Idle u := by
    by_contra hn
    have hwritten := mem_written.mpr ⟨_, schemaEffect_mem_effects, hn, rfl⟩
    rw [hs.abis _ hwritten a ha hne] at hsame
    cases hsame
  exact FileTree.sameEntry_of_common hsame hidle

end SparesInputs

/-! ## The plan carried out again -/

/-- A plan that has been carried out has nothing left to do, if its inputs are as they were. -/
theorem done_again (hi : IsPlanOf i t dataSources p) (h : Done t p.effects u)
    (hs : p.SparesInputs i u) : Done u p.effects u := by
  have hl := isLaidOut_of_isPlanOf hi
  have hdirectory {path : Path} (hm : .directory path ∈ p.effects) : u.HasDirectory path :=
    h.hasDirectory hm
  have hhandlers : .directory p.handlersPath ∈ p.effects := by simp [effects, directoryEffects]
  refine Effect.done_append.mpr ⟨u, Effect.done_append.mpr ⟨u, Effect.done_append.mpr
    ⟨u, ?directories, ?copies⟩, ?modules⟩, ?config⟩
  case directories =>
    refine Effect.done_of_settled fun e he => ?_
    simp only [directoryEffects, List.mem_cons, List.not_mem_nil, or_false] at he
    rcases he with rfl | rfl
    · exact Effect.settled_directory (hdirectory (by simp [effects, directoryEffects]))
    · exact Effect.settled_directory (hdirectory hhandlers)
  case copies =>
    refine Effect.done_of_settled fun e he => ?_
    rcases List.mem_cons.mp he with rfl | he
    · obtain ⟨c, hc⟩ := FileTree.readBytes_of_isFile hi.schema
      exact Effect.settled_copy (hs.retains_schema hi h c hc) (schema_holds hl h hc)
    · obtain ⟨a, ha, rfl⟩ := List.mem_map.mp he
      obtain ⟨c, hc⟩ := FileTree.readBytes_of_isFile (hi.abis a ha).1
      exact Effect.settled_copy (hs.retains_abi hi h ha c hc)
        (abi_holds hi h (fun b hb => hs.sameEntry_schema hi h hb) ha hc)
  case modules =>
    refine GeneratedFile.done_files_again hl.modules (hdirectory hhandlers) (fun f hf => ?_)
      fun before f after he hn => module_holds hl h he hn
    exact h.isFile_write
      (List.mem_append_left _ (List.mem_append_right _ (write_mem_moduleEffects hf)))
  case config =>
    refine Effect.done_of_settled fun e he => ?_
    simp only [configEffects, List.mem_cons, List.not_mem_nil, or_false] at he
    rcases he with rfl | rfl
    · exact Effect.settled_write (config_holds h)
    · exact Effect.settled_write (environment_holds h)

end Plan

/-- **An import that is repeated changes nothing**, also if it is one in place. Its inputs must
not be written over, other than by copies of themselves, and no candidate for the manifest that
was passed over may be a file now. Then the second run has the outcome of the first, and the tree
stays just as it is. -/
theorem reimported_run {o : Outcome} (hp : (i.plan t).result = .ok p)
    (hr : (i.run t).result = .ok o) (hs : p.SparesInputs i (i.run t).tree)
    (hn : ∀ name ∈ i.passedOver t, (i.run t).tree.isFile (i.directory.join ⟨name⟩) = false) :
    (i.run (i.run t).tree).result = .ok o ∧ (i.run (i.run t).tree).tree = (i.run t).tree := by
  obtain ⟨found, hfound, h, rfl⟩ := done_of_run hr
  obtain rfl : p = found := Except.ok.inj (hp.symm.trans hfound)
  obtain ⟨dataSources, hi⟩ := isPlanOf_plan hp
  have hplan : (i.plan (i.run t).tree).result = .ok p := by
    refine plan_again hp h.grows hn fun name hname => ?_
    exact Plan.retains_of_written h fun q hq => hs.manifests q hq name hname
  obtain ⟨hfault, htree⟩ := Plan.done_again hi h hs
  obtain ⟨hrun, hresult⟩ := run_of_plan (o := p.outcome) hplan
  have hsame : (p.apply (i.run t).tree).tree = (i.run t).tree := htree
  exact ⟨hresult.mpr (Plan.apply_eq_ok.mpr ⟨⟨hfault, rfl⟩, rfl⟩), hrun.trans hsame⟩

/-- Whether the plan of an import spares the inputs. -/
def sparesInputs (i : Import) (t : FileTree) : Bool :=
  match (i.plan t).result with
  | .ok p => p.SparesInputs i (i.run t).tree
  | .error _ => false

theorem exists_of_sparesInputs (h : i.sparesInputs t = true) :
    ∃ p, (i.plan t).result = .ok p ∧ p.SparesInputs i (i.run t).tree := by
  unfold sparesInputs at h
  split at h
  · rename_i p hp
    exact ⟨p, hp, of_decide_eq_true h⟩
  · cases h

/-- The sample is imported in place, and the index replaces the stub of its data source. -/
theorem reimported_run_sample : ∃ o, (sample.run sampleTree).result = .ok o ∧
    (sample.run (sample.run sampleTree).tree).result = .ok o ∧
    (sample.run (sample.run sampleTree).tree).tree = (sample.run sampleTree).tree := by
  have hs : sample.sparesInputs sampleTree = true := by decide +kernel
  have hr : (sample.run sampleTree).result.isOk = true := by decide +kernel
  obtain ⟨p, hp, hspares⟩ := exists_of_sparesInputs hs
  obtain ⟨o, ho⟩ := exists_of_isOk hr
  exact ⟨o, ho, reimported_run hp ho hspares (by decide +kernel)⟩

/-- A manifest behind another candidate, which leads through a directory that is missing. -/
def detourTree : FileTree where
  workingDirectory := []
  entries := [
    (["a.yaml"], .file "schema:\n  file: s\ndataSources: []\n".toUTF8),
    (["b.yaml"], .file "x".toUTF8),
    (["s"], .file "type A".toUTF8)]

def detour : Import := ⟨⟨"."⟩, ⟨"."⟩, ["abis/../b.yaml", "a.yaml"], "mainnet"⟩

/-- The inputs of the detour are spared, but the second run finds another manifest, and fails. -/
theorem not_reimported_detour : ∃ p o failure, (detour.plan detourTree).result = .ok p ∧
    (detour.run detourTree).result = .ok o ∧
    p.SparesInputs detour (detour.run detourTree).tree ∧
    (detour.run (detour.run detourTree).tree).result = .error failure := by
  have hs : detour.sparesInputs detourTree = true := by decide +kernel
  have hr : (detour.run detourTree).result.isOk = true := by decide +kernel
  have hagain : (detour.run (detour.run detourTree).tree).result.isOk = false := by decide +kernel
  obtain ⟨p, hp, hspares⟩ := exists_of_sparesInputs hs
  obtain ⟨o, ho⟩ := exists_of_isOk hr
  cases hf : (detour.run (detour.run detourTree).tree).result with
  | ok again =>
    rw [hf] at hagain
    cases hagain
  | error failure => exact ⟨p, o, failure, hp, ho, hspares, rfl⟩

end IndexerTypes.Import
