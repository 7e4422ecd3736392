import IndexerTypes.Proofs.Config.Order
import IndexerTypes.Proofs.Generation.Output
import IndexerTypes.Proofs.GeneratedFile.Directory
import IndexerTypes.Proofs.InputFile

/-! # Sources in another order

Two projects may differ in nothing but the order in which their configurations list the
sources. Every other input is the same in both, and the configuration itself reads the same
where it is taken for an ABI file. So each source is rendered to the same module, and since all
modules have names of their own it does not matter which of them is written first
(`reordered_run`). -/

namespace IndexerTypes.Generation

open FileTree (DiffersAt)

variable {g : Generation} {t u : FileTree} {l : Location} {root p : Path} {c : Config}
  {entities : GeneratedFile} {results : List HandlerTypes.Result} {s s' : Summary}

/-! ## Projects that differ in the order of their sources -/

/-- All that the projects differ in is the order of the sources in their configurations, which
are at this location. -/
structure Reorders (root : Path) (l : Location) (t u : FileTree) : Prop where
  same : DiffersAt l t u
  config : ∃ (text other : String) (d e : Json),
    t.find (root.join ⟨Config.filename⟩) = .ok (l, .file text.toUTF8) ∧
    u.find (root.join ⟨Config.filename⟩) = .ok (l, .file other.toUTF8) ∧
    Json.read? text = some d ∧ Json.read? other = some e ∧ Config.Reorders d e

namespace Reorders

theorem symm (h : Reorders root l t u) : Reorders root l u t := by
  obtain ⟨text, other, d, e, ht, hu, hd, he, hde⟩ := h.config
  exact ⟨h.same.symm, other, text, e, d, hu, ht, he, hd, hde.symm⟩

theorem getLast? (h : Reorders root l t u) : l.getLast? = some Config.filename := by
  obtain ⟨_, _, _, _, ht, -⟩ := h.config
  exact FileTree.getLast?_of_walk (Path.fileName?_join_name root (by decide))
    (FileTree.walk_of_find ht)

/-! ## What is loaded -/

theorem loadConfig (h : Reorders root l t u) (hc : Config.load t root = .ok c) :
    ∃ c', Config.load u root = .ok c' ∧ c'.networks = c.networks ∧
      c.sources.Perm c'.sources := by
  obtain ⟨text, other, d, e, ht, hu, hd, he, hde⟩ := h.config
  obtain ⟨found, hfound, hread⟩ := Config.load_eq_ok.mp hc
  rw [FileTree.readBytes_eq_ok.mpr ⟨l, ht⟩, Except.ok.injEq] at hfound
  obtain rfl : text = found := String.toByteArray_inj.mp hfound
  obtain ⟨c', hread', hn, hp⟩ := Config.read_of_reorders hd he hde hread
  exact ⟨c', Config.load_eq_ok.mpr ⟨other, FileTree.readBytes_eq_ok.mpr ⟨l, hu⟩, hread'⟩, hn, hp⟩

theorem loadSchema (h : Reorders root l t u) {schema : EntitySchema}
    (hs : EntitySchema.load t root = .ok schema) : EntitySchema.load u root = .ok schema := by
  have hne : t.walk (root.join ⟨Config.schemaFilename⟩) ≠ .ok l := by
    intro hw
    have hlast := FileTree.getLast?_of_walk (Path.fileName?_join_name root (by decide)) hw
    rw [h.getLast?] at hlast
    exact absurd hlast (by decide)
  rw [EntitySchema.load_eq_ok] at hs ⊢
  rwa [h.same.readBytes_eq hne]

/-- An ABI file has the same events in both, even if it is the configuration. -/
theorem loadAbi (h : Reorders root l t u) {events : List Abi.Event}
    (ha : Abi.load t p = .ok events) : Abi.load u p = .ok events := by
  obtain ⟨found, hfound, hread⟩ := Abi.load_eq_ok.mp ha
  rw [Abi.load_eq_ok]
  by_cases hp : t.walk p = .ok l
  · obtain ⟨text, other, d, e, ht, hu, hd, he, hde⟩ := h.config
    obtain ⟨k, hk⟩ := FileTree.readBytes_eq_ok.mp hfound
    obtain ⟨hr, hentry, hslash⟩ := FileTree.find_eq_file.mp hk
    have hkl := FileTree.walk_of_find hk
    rw [hp, Except.ok.injEq] at hkl
    subst hkl
    rw [(FileTree.find_eq_file.mp ht).2.1, Option.some.injEq, Entry.file.injEq] at hentry
    obtain rfl : text = found := String.toByteArray_inj.mp hentry
    have hfind : u.find p = .ok (l, .file other.toUTF8) :=
      FileTree.find_eq_file.mpr
        ⟨h.same.resolve_eq.trans hr, (FileTree.find_eq_file.mp hu).2.1, hslash⟩
    exact ⟨other, FileTree.readBytes_eq_ok.mpr ⟨l, hfind⟩,
      Abi.read_of_reorders hd he hde ▸ hread⟩
  · exact ⟨found, (h.same.readBytes_eq hp).trans hfound, hread⟩

end Reorders

/-- The same modules are rendered, in the other order. -/
theorem RendersTo.reorder (h : Reorders root l t u) (hto : RendersTo t root c entities results) :
    ∃ c' results', RendersTo u root c' entities results' ∧ c'.networks = c.networks ∧
      c.sources.Perm c'.sources ∧ results.Perm results' := by
  obtain ⟨c', hc, hn, hp⟩ := h.loadConfig hto.config
  obtain ⟨schema, hschema, hfile⟩ := hto.entities
  obtain ⟨results', hresults, hperm⟩ := Pointwise.exists_perm hto.results hp
  refine ⟨c', results', ⟨hc, ⟨schema, h.loadSchema hschema, hfile⟩, ?_⟩, hn, hp, hperm⟩
  exact hresults.imp fun d r ⟨events, ha, hr⟩ => ⟨events, h.loadAbi ha, hr⟩

/-! ## Runs -/

/-- The parameters of a source that are typed as `unknown`. -/
def unmappedOf (t : FileTree) (root : Path) (d : Source) : List HandlerTypes.Unmapped :=
  match sourceTypes t root d with
  | .ok r => r.unmapped
  | .error _ => []

theorem unmappedOf_eq {d : Source} {events : List Abi.Event}
    (ha : Abi.load t (d.abiPath root) = .ok events) :
    unmappedOf t root d = (HandlerTypes.generate d.name events).unmapped := by
  have hsource : sourceTypes t root d = .ok (HandlerTypes.generate d.name events) :=
    sourceTypes_eq_ok.mpr ⟨events, ha, rfl⟩
  unfold unmappedOf
  rw [hsource]

theorem RendersTo.unmapped (h : RendersTo t root c entities results) :
    results.flatMap HandlerTypes.Result.unmapped = c.sources.flatMap (unmappedOf t root) := by
  have hmap : c.sources.map (unmappedOf t root) = results.map HandlerTypes.Result.unmapped := by
    refine Pointwise.map_eq h.results fun d r hr => ?_
    obtain ⟨events, ha, rfl⟩ := hr
    exact unmappedOf_eq ha
  rw [List.flatMap_def, List.flatMap_def, hmap]

/-- Two runs that tell and leave the same, except for the order of the sources. -/
structure Permutes (g : Generation) (l : Location) (t u : FileTree) (s s' : Summary)
    (c c' : Config) : Prop where
  left : Config.load t g.root = .ok c
  right : Config.load u g.root = .ok c'
  networks : c'.networks = c.networks
  sources : c.sources.Perm c'.sources
  files : s.files = g.output.join ⟨"entities.ts"⟩ ::
    c.sources.map fun d => g.output.join ⟨d.name ++ ".d.ts"⟩
  files' : s'.files = g.output.join ⟨"entities.ts"⟩ ::
    c'.sources.map fun d => g.output.join ⟨d.name ++ ".d.ts"⟩
  unmapped : s.unmapped = c.sources.flatMap (unmappedOf t g.root)
  unmapped' : s'.unmapped = c'.sources.flatMap (unmappedOf t g.root)
  contents : ∀ q ∈ s.files, ∃ b,
    (g.run t).tree.readBytes q = .ok b ∧ (g.run u).tree.readBytes q = .ok b
  trees : DiffersAt l (g.run t).tree (g.run u).tree

theorem permutes_run (h : Reorders g.root l t u) (hs : (g.run t).result = .ok s) :
    ∃ s', (g.run u).result = .ok s' ∧ ∃ c c', Permutes g l t u s s' c c' := by
  obtain ⟨c, entities, results, hto, hw, hwritten, rfl⟩ := exists_renders hs
  obtain ⟨c', results', hto', hn, hp, hperm⟩ := hto.reorder h
  have hfiles : (Rendered.ofResults entities results).files.Perm
      (Rendered.ofResults entities results').files := (hperm.map _).cons entities
  have hd := done_writeFiles hw
  rw [← hwritten] at hd
  have hconfig : ∀ f ∈ (Rendered.ofResults entities results).files,
      l.getLast? ≠ some f.filename := by
    intro f hf he
    rw [h.getLast?, Option.some.injEq] at he
    exact absurd (he ▸ hto.suffix_filename hf) (by decide)
  obtain ⟨v, hv, hdiff⟩ :=
    hto.separate.done_perm (List.cons_ne_nil _ _) hfiles h.same hconfig hd
  obtain ⟨hresult, htree⟩ := run_of_done
    (render_eq_ok.mpr ⟨c', entities, results', hto', rfl⟩) hv
  refine ⟨_, hresult, c, c', ?_⟩
  constructor
  case left => exact hto.config
  case right => exact hto'.config
  case networks => exact hn
  case sources => exact hp
  case files => exact hto.paths g.output
  case files' => exact hto'.paths g.output
  case unmapped => exact hto.unmapped
  case unmapped' =>
    refine hto'.unmapped.trans (List.flatMap_congr fun d hmem => ?_)
    obtain ⟨r, -, events, ha, -⟩ := Pointwise.exists_of_mem_left hto.results (hp.mem_iff.mpr hmem)
    rw [unmappedOf_eq ha, unmappedOf_eq (h.loadAbi ha)]
  case contents =>
    intro q hq
    obtain ⟨f, hf, rfl⟩ := List.mem_map.mp hq
    exact ⟨_, hto.separate.holds hd f hf,
      htree ▸ hto'.separate.holds hv f (hfiles.mem_iff.mp hf)⟩
  case trees => exact htree ▸ hdiff

/-- **The order of the sources does not matter.** Of two projects that differ only in it, both
can be generated or none. If they can, the files are the same with the same bytes in them, each
run lists them in the order of its own sources, and so it does with the parameters that it has
not typed, source by source. -/
theorem reordered_run (h : Reorders g.root l t u) :
    ((∃ s, (g.run t).result = .ok s) ↔ ∃ s', (g.run u).result = .ok s') ∧
    ∀ s s', (g.run t).result = .ok s → (g.run u).result = .ok s' →
      ∃ c c', Permutes g l t u s s' c c' := by
  refine ⟨⟨?_, ?_⟩, ?_⟩
  · rintro ⟨s, hs⟩
    obtain ⟨s', hs', -⟩ := permutes_run h hs
    exact ⟨s', hs'⟩
  · rintro ⟨s', hs'⟩
    obtain ⟨s, hs, -⟩ := permutes_run h.symm hs'
    exact ⟨s, hs⟩
  · intro s s' hs hs'
    obtain ⟨found, hfound, hp⟩ := permutes_run h hs
    obtain rfl : s' = found := Except.ok.inj (hs'.symm.trans hfound)
    exact hp

/-- A configuration of sources with these names and ABI files. -/
def sampleText (sources : List (String × String)) : String :=
  "\x7b\"sources\":[" ++ ",".intercalate (sources.map fun (name, abi) =>
    "\x7b\"name\":\"" ++ name ++ "\",\"network\":\"\",\"abi\":\"" ++ abi ++
      "\",\"address\":\"\"\x7d") ++ "]\x7d"

def sampleDocument (sources : List (String × String)) : Json :=
  .object [("sources", .array (sources.map fun (name, abi) => .object [("name", .text name),
    ("network", .text ""), ("abi", .text abi), ("address", .text "")]))]

/-- The sample with its sources in some order. -/
def sampleWith (sources : List (String × String)) : FileTree :=
  sampleTree.set ["ponder.config.json"] (.file (sampleText sources).toUTF8)

theorem find_sampleWith (sources : List (String × String)) :
    (sampleWith sources).find (sample.root.join ⟨Config.filename⟩) =
      .ok (["ponder.config.json"], .file (sampleText sources).toUTF8) := by
  refine FileTree.find_eq_file.mpr ⟨rfl, ?_, by decide⟩
  rw [sampleWith, FileTree.entryAt?_set _ (by simp), if_pos rfl]

theorem reorders_sampleWith : Reorders sample.root ["ponder.config.json"]
    (sampleWith [("A", "a"), ("B", "b")]) (sampleWith [("B", "b"), ("A", "a")]) := by
  constructor
  case same =>
    refine ⟨rfl, fun k hk => ?_, ?_, ?_⟩
    · rw [sampleWith, sampleWith, FileTree.entryAt?_set _ (by simp),
        FileTree.entryAt?_set _ (by simp), if_neg hk, if_neg hk]
    · exact ⟨_, (FileTree.find_eq_file.mp (find_sampleWith _)).2.1⟩
    · exact ⟨_, (FileTree.find_eq_file.mp (find_sampleWith _)).2.1⟩
  case config =>
    refine ⟨_, _, sampleDocument [("A", "a"), ("B", "b")],
      sampleDocument [("B", "b"), ("A", "a")], find_sampleWith _, find_sampleWith _,
      by cbv, by cbv, ?_⟩
    show Config.Reorders (.object ([] ++ ("sources", .array _) :: []))
      (.object ([] ++ ("sources", .array _) :: []))
    exact .object ((List.Perm.swap _ _ []).map _)

theorem reordered_run_sample : ∃ s s' c c',
    (sample.run (sampleWith [("A", "a"), ("B", "b")])).result = .ok s ∧
    (sample.run (sampleWith [("B", "b"), ("A", "a")])).result = .ok s' ∧
    Permutes sample ["ponder.config.json"] (sampleWith [("A", "a"), ("B", "b")])
      (sampleWith [("B", "b"), ("A", "a")]) s s' c c' := by
  have hs : isSampleSummary (sample.run (sampleWith [("A", "a"), ("B", "b")])).result = true := by
    decide +kernel
  obtain ⟨s, hr, -⟩ := exists_of_isSampleSummary hs
  obtain ⟨hiff, hall⟩ := reordered_run (g := sample) reorders_sampleWith
  obtain ⟨s', hr'⟩ := hiff.mp ⟨s, hr⟩
  obtain ⟨c, c', hp⟩ := hall s s' hr hr'
  exact ⟨s, s', c, c', hr, hr', hp⟩

end IndexerTypes.Generation
