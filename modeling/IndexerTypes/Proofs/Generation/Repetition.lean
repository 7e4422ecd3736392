import IndexerTypes.Proofs.Effect.Settled
import IndexerTypes.Proofs.Generation.Output
import IndexerTypes.Proofs.InputFile

/-! # Generating once more

The names of all modules end in `.ts`, so no module is written over the configuration or the
schema, whatever the output directory is. If none is written over an ABI file either, then the
second run reads what the first one has read (`RendersTo.of_retains`), renders it to the same
modules, and finds each of them in its place: nothing is left to be done (`regenerated_run`). -/

namespace IndexerTypes.Generation

open FileTree (Retains)
open IndexerTypes.Path (IsName)

variable {g : Generation} {t u : FileTree} {root output : Path} {c : Config}
  {entities : GeneratedFile} {results : List HandlerTypes.Result} {s : Summary}

/-! ## What is read again -/

/-- A project renders to the same in a tree that keeps its inputs. -/
theorem RendersTo.of_retains (h : RendersTo t root c entities results)
    (hc : Retains t u (root.join ⟨Config.filename⟩))
    (hs : Retains t u (root.join ⟨Config.schemaFilename⟩))
    (ha : ∀ d ∈ c.sources, Retains t u (d.abiPath root)) :
    RendersTo u root c entities results := by
  constructor
  case config =>
    obtain ⟨text, htext, hr⟩ := Config.load_eq_ok.mp h.config
    exact Config.load_eq_ok.mpr ⟨text, hc _ htext, hr⟩
  case entities =>
    obtain ⟨schema, hload, hfile⟩ := h.entities
    obtain ⟨text, htext, hr⟩ := EntitySchema.load_eq_ok.mp hload
    exact ⟨schema, EntitySchema.load_eq_ok.mpr ⟨text, hs _ htext, hr⟩, hfile⟩
  case results =>
    refine Pointwise.imp_of_mem h.results fun d r hd hr => ?_
    obtain ⟨events, hload, hresult⟩ := hr
    obtain ⟨text, htext, hr⟩ := Abi.load_eq_ok.mp hload
    exact ⟨events, Abi.load_eq_ok.mpr ⟨text, ha d hd _ htext, hr⟩, hresult⟩

/-! ## What is not written over -/

/-- Writing the modules keeps a file whose name does not end as theirs. -/
theorem RendersTo.retains_name (h : RendersTo t root c entities results) {name : String}
    (hd : Effect.Done t ((Rendered.ofResults entities results).files.flatMap fun f =>
      f.effects "types" output) u)
    (hn : IsName name) (hs : ¬ ".ts".toList <:+ name.toList) : Retains t u (root.join ⟨name⟩) := by
  intro b hb
  obtain ⟨l, hl⟩ := FileTree.readBytes_eq_ok.mp hb
  refine FileTree.readBytes_eq_ok.mpr ⟨l, hd.find_file hl (GeneratedFile.spares_files ?_)⟩
  intro f hf
  refine FileTree.apart_of_fileName? (Path.fileName?_join_name root hn)
    (Path.fileName?_join_name output (h.separate.names f hf)) ?_
  rintro rfl
  exact hs (h.suffix_filename hf)

/-- Writing the modules keeps a file that is none of them in the end. -/
theorem retains_of_apart {files : List GeneratedFile} {p : Path}
    (hd : Effect.Done t (files.flatMap fun f => f.effects "types" output) u)
    (hs : ∀ f ∈ files, u.sameEntry p (f.path output) = false) : Retains t u p := by
  intro b hb
  obtain ⟨l, hl⟩ := FileTree.readBytes_eq_ok.mp hb
  refine FileTree.readBytes_eq_ok.mpr ⟨l, hd.find_file_of_apart hl ?_⟩
  intro e he q hq hsame
  obtain ⟨f, hf, he⟩ := List.mem_flatMap.mp he
  simp only [GeneratedFile.effects, List.mem_cons, List.not_mem_nil, or_false] at he
  rcases he with rfl | rfl
  · cases hq
  · rw [← Option.some.inj hq, hs f hf] at hsame
    cases hsame

/-! ## The second run -/

/-- Files that are there need not be written again. -/
theorem done_again {files : List GeneratedFile} (hs : GeneratedFile.Separate files)
    (hd : Effect.Done t (files.flatMap fun f => f.effects "types" output) u) :
    Effect.Done u (files.flatMap fun f => f.effects "types" output) u := by
  refine Effect.done_of_settled fun e he => ?_
  obtain ⟨f, hf, hmem⟩ := List.mem_flatMap.mp he
  simp only [GeneratedFile.effects, List.mem_cons, List.not_mem_nil, or_false] at hmem
  rcases hmem with rfl | rfl
  · exact Effect.settled_directory (hd.hasDirectory he)
  · exact Effect.settled_write (hs.holds hd f hf)

/-- **A generation that is repeated changes nothing.** If the first run succeeds and no ABI file
is one of the files that it has written, in whatever spelling, then the second run makes the
same files with the same parameters untyped, and the tree stays just as it is. -/
theorem regenerated_run (h : (g.run t).result = .ok s) (hc : Config.load t g.root = .ok c)
    (ha : ∀ d ∈ c.sources, ∀ q ∈ s.files,
      (g.run t).tree.sameEntry (d.abiPath g.root) q = false) :
    (g.run (g.run t).tree).result = .ok s ∧ (g.run (g.run t).tree).tree = (g.run t).tree := by
  obtain ⟨d, entities, results, hto, hw, htree, rfl⟩ := exists_renders h
  obtain rfl : c = d := Except.ok.inj (hc.symm.trans hto.config)
  have hd := done_writeFiles hw
  rw [← htree] at hd
  have hagain : RendersTo (g.run t).tree g.root c entities results := by
    refine hto.of_retains ?_ ?_ fun e he => ?_
    · exact hto.retains_name hd (by decide) (by decide)
    · exact hto.retains_name hd (by decide) (by decide)
    · exact retains_of_apart hd fun f hf => ha e he _ (List.mem_map_of_mem hf)
  exact run_of_done (render_eq_ok.mpr ⟨c, entities, results, hagain, rfl⟩)
    (done_again hto.separate hd)

/-- Whether the sample's ABI files are none of its modules. -/
def sampleSpares : Except Fault Config → Bool
  | .ok c => c.sources.all fun d =>
    [⟨"out/types/entities.ts"⟩, ⟨"out/types/A.d.ts"⟩, ⟨"out/types/B.d.ts"⟩].all fun q =>
      !(sample.run sampleTree).tree.sameEntry (d.abiPath sample.root) q
  | .error _ => false

theorem regenerated_run_sample : ∃ s, (sample.run sampleTree).result = .ok s ∧
    (sample.run (sample.run sampleTree).tree).result = .ok s ∧
    (sample.run (sample.run sampleTree).tree).tree = (sample.run sampleTree).tree := by
  have hs : isSampleSummary (sample.run sampleTree).result = true := by decide +kernel
  obtain ⟨s, hr, hfiles, -⟩ := exists_of_isSampleSummary hs
  have hspares : sampleSpares (Config.load sampleTree sample.root) = true := by decide +kernel
  cases hc : Config.load sampleTree sample.root with
  | error fault =>
    rw [hc] at hspares
    cases hspares
  | ok c =>
    rw [hc, sampleSpares, ← hfiles] at hspares
    simp only [List.all_eq_true, Bool.not_eq_true'] at hspares
    exact ⟨s, hr, regenerated_run hr hc hspares⟩

end IndexerTypes.Generation
