import IndexerTypes.Proofs.Config.RoundTrip
import IndexerTypes.Proofs.Generation
import IndexerTypes.Proofs.Import.Copies

/-! # What an import has written can be read

An import and a generation meet in the configuration. It loads as the plan has it, since the
names of the data sources were checked before, and each source says where its ABI file has
been copied to. So a generation misses nothing behind an import. -/

namespace IndexerTypes.Import

open IndexerTypes.Path (IsName)

variable {i : Import} {t u : FileTree} {p : Plan}

/-- The source leads to the copy of the ABI file that the data source names. -/
structure Plan.Places (p : Plan) (directory : Path) (u : FileTree) (d : DataSource) (s : Source) :
    Prop where
  name : s.name = d.name
  abi : ∃ a ∈ p.abis, ∃ file, d.abiFile? = some file ∧
    Path.Same a.source (directory.join ⟨file⟩) ∧ s.abiPath p.root = p.abiPath a
  isFile : u.isFile (s.abiPath p.root) = true

theorem abiPath_of_name {s : Source} {name : String} (root : Path) (hn : IsName name)
    (h : s.abi = "./" ++ abisDirectory ++ "/" ++ name) :
    s.abiPath root = (root.join ⟨abisDirectory⟩).join ⟨name⟩ := by
  have hl : Path.withoutDotSlash s.abi.toList = (abisDirectory ++ "/" ++ name).toList := by
    have hd : s.abi.toList = '.' :: '/' :: (abisDirectory ++ "/" ++ name).toList := by
      rw [h]
      simp
    rw [hd, Path.withoutDotSlash]
    simp only [abisDirectory, String.toList_append]
    exact Path.withoutDotSlash_of_ne _ (by decide)
  rw [Path.join_join_name root Plan.isName_abisDirectory hn, Source.abiPath, hl,
    String.ofList_toList]

theorem places_of_bound {dataSources : List DataSource} {d : DataSource} {s : Source}
    (hi : IsPlanOf i t dataSources p) (h : Effect.Done t p.effects u) (hb : Bound i p.abis d s) :
    p.Places i.directory u d s := by
  obtain ⟨a, ha, file, hfile, hsame, hs⟩ := hb
  have habi : s.abi = "./" ++ abisDirectory ++ "/" ++ a.name := by rw [hs]
  have hpath : s.abiPath p.root = p.abiPath a :=
    abiPath_of_name p.root ((Plan.isLaidOut_of_isPlanOf hi).abis a ha) habi
  exact ⟨by rw [hs], ⟨a, ha, file, hfile, hsame, hpath⟩, hpath ▸ Plan.isFile_abiPath hi h ha⟩

/-- **What an import has written, a generation can read.** The configuration loads just as
the import tells it, the schema is there, and so is the ABI file of each source. A generation
that follows may still fail, but not for want of any of these. -/
theorem reload_run {o : Outcome} (h : (i.run t).result = .ok o) :
    Config.load (i.run t).tree i.root = .ok ⟨o.networks, o.sources⟩ ∧
    (i.run t).tree.isFile (i.root.join ⟨Config.schemaFilename⟩) = true ∧
    (∃ p path m dataSources, (i.plan t).result = .ok p ∧ p.root = i.root ∧
      Manifest.locate t i.directory i.candidates = .ok path ∧ Manifest.load t path = .ok m ∧
      m.sources = .ok dataSources ∧
      List.Forall₂ (p.Places i.directory (i.run t).tree) dataSources o.sources) ∧
    ∀ (g : Generation) (failure : Failure), g.root = i.root →
      (g.run (i.run t).tree).result = .error failure →
      (∀ path flaw, failure.fault ≠ .config path flaw) ∧
      (∀ path, failure.fault ≠ .missingFile path) ∧
      ∀ s ∈ o.sources, ∀ e, failure.fault = .file (s.abiPath i.root) e →
        e = .notUtf8 ∨ e = .alreadyExists := by
  obtain ⟨p, hp, hd, rfl⟩ := done_of_run h
  obtain ⟨path, m, dataSources, hpath, hm, -, hsources, hi⟩ := manifest_of_plan hp
  have hload : Config.load (i.run t).tree i.root = .ok p.config :=
    Config.load_of_holds (hi.root ▸ Plan.config_holds hd) hi.admissible
  have hschema : (i.run t).tree.isFile (i.root.join ⟨Config.schemaFilename⟩) = true :=
    hi.root ▸ Plan.isFile_schemaPath hi hd
  have hplaces : List.Forall₂ (p.Places i.directory (i.run t).tree) dataSources
      p.config.sources := hi.sources.imp fun d s hb => places_of_bound hi hd hb
  have habis : ∀ s ∈ p.config.sources, (i.run t).tree.isFile (s.abiPath i.root) = true := by
    intro s hs
    obtain ⟨d, -, hb⟩ := exists_bound hi.sources hs
    exact hi.root ▸ (places_of_bound hi hd hb).isFile
  refine ⟨hload, hschema, ?_, ?_⟩
  · exact ⟨p, path, m, dataSources, hp, hi.root, hpath, hm, hsources, hplaces⟩
  · intro g failure hroot hrun
    have hf : failure.fault.Fits (i.run t).tree :=
      Generation.fits_run (hroot ▸ hload) (hroot ▸ hschema) (hroot ▸ habis) hrun
    refine ⟨?_, ?_, ?_⟩
    · intro path flaw he
      rw [he] at hf
      exact hf
    · intro path he
      rw [he] at hf
      exact hf
    · intro s hs e he
      rw [he] at hf
      exact hf (habis s hs)

/-- The sample is imported, and what is written for it loads. -/
theorem reload_run_sample : ∃ o, (sample.run sampleTree).result = .ok o ∧
    Config.load (sample.run sampleTree).tree sample.root = .ok ⟨o.networks, o.sources⟩ := by
  obtain ⟨p, o, hp, ha, -, -⟩ := exists_sample
  have hr : (sample.run sampleTree).result = .ok o := (run_of_plan hp).2.mpr ha
  exact ⟨o, hr, (reload_run hr).1⟩

end IndexerTypes.Import
