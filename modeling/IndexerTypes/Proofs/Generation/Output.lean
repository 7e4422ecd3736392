import IndexerTypes.Proofs.Ancestors
import IndexerTypes.Proofs.Config.RoundTrip
import IndexerTypes.Proofs.Generation.Writing

/-! # What a generation makes

The entities of a project get one module and each source gets one. The names of the modules
differ, because the sources of a configuration that loads have names of their own and no
handler module is called as the module of the entities. So no module takes the place of
another one, and nothing but these modules and the directories around them is changed
(`exact_run`). -/

namespace IndexerTypes

open FileTree (GrowsWithin)
open IndexerTypes.Path (IsName)

/-! ## Names of modules -/

/-- The module of the entities is no handler module. -/
theorem HandlerTypes.filename_ne (source : String) :
    HandlerTypes.filename source ≠ EntityTypes.filename := by
  intro h
  have hs : ".d.ts".toList <:+ EntityTypes.filename.toList := by
    rw [← h, HandlerTypes.filename, String.toList_append]
    exact List.suffix_append _ _
  revert hs
  decide

theorem HandlerTypes.isName_filename {source : String} (h : Text.isIdentifier source = true) :
    IsName (HandlerTypes.filename source) := Text.isName_append h (by decide) (by decide)

namespace Generation

variable {g : Generation} {t u : FileTree} {root : Path} {c : Config} {entities : GeneratedFile}
  {results : List HandlerTypes.Result} {s : Summary}

namespace RendersTo

/-- The modules in the order of the sources, the one of the entities first. -/
theorem filenames (h : RendersTo t root c entities results) :
    (Rendered.ofResults entities results).files.map GeneratedFile.filename =
      EntityTypes.filename :: c.sources.map fun d => HandlerTypes.filename d.name := by
  obtain ⟨schema, -, hfile⟩ := h.entities
  have hnames : c.sources.map (fun d => HandlerTypes.filename d.name) =
      results.map fun r => r.file.filename := by
    refine Pointwise.map_eq h.results fun d r hr => ?_
    obtain ⟨events, -, rfl⟩ := hr
    rfl
  simp [Rendered.ofResults, EntityTypes.filename_of_file hfile, hnames, Function.comp_def]

/-- Every module is one of TypeScript. -/
theorem suffix_filename (h : RendersTo t root c entities results) {f : GeneratedFile}
    (hf : f ∈ (Rendered.ofResults entities results).files) :
    ".ts".toList <:+ f.filename.toList := by
  have hname : f.filename ∈ (Rendered.ofResults entities results).files.map _ :=
    List.mem_map_of_mem hf
  rw [h.filenames] at hname
  rcases List.mem_cons.mp hname with he | hname
  · rw [he]
    decide
  · obtain ⟨d, -, he⟩ := List.mem_map.mp hname
    rw [← he, HandlerTypes.filename, String.toList_append]
    exact List.IsSuffix.trans (by decide) (List.suffix_append _ _)

theorem paths (h : RendersTo t root c entities results) (output : Path) :
    (Rendered.ofResults entities results).files.map (fun f => f.path output) =
      output.join ⟨EntityTypes.filename⟩ ::
        c.sources.map fun d => output.join ⟨HandlerTypes.filename d.name⟩ := by
  have hmap := congrArg (List.map fun name => output.join ⟨name⟩) h.filenames
  simpa [Function.comp_def, GeneratedFile.path] using hmap

theorem separate (h : RendersTo t root c entities results) :
    GeneratedFile.Separate (Rendered.ofResults entities results).files := by
  have ha := Config.admissible_of_load h.config
  constructor
  case names =>
    intro f hf
    have hname : f.filename ∈ (Rendered.ofResults entities results).files.map _ :=
      List.mem_map_of_mem hf
    rw [h.filenames] at hname
    rcases List.mem_cons.mp hname with he | hname
    · rw [he]
      decide
    · obtain ⟨d, hd, he⟩ := List.mem_map.mp hname
      exact he ▸ HandlerTypes.isName_filename (ha.identifiers d hd)
  case nodup =>
    rw [h.filenames, List.nodup_cons]
    constructor
    · intro hm
      obtain ⟨d, -, he⟩ := List.mem_map.mp hm
      exact HandlerTypes.filename_ne d.name he
    · -- the ending is the same for all, so names that differ give modules that differ
      have hmap := ha.distinct.map fun a b he => (String.append_left_inj ".d.ts").mp he
      rwa [List.map_map] at hmap

end RendersTo

/-! ## Runs that succeed -/

/-- What a run makes of a tree: the module of the entities and one of each source, rendered
from the tree before the run, and nothing else. -/
structure Makes (g : Generation) (t u : FileTree) (s : Summary) (c : Config)
    (entities : GeneratedFile) (results : List HandlerTypes.Result) : Prop where
  renders : RendersTo t g.root c entities results
  files : s.files = g.output.join ⟨"entities.ts"⟩ ::
    c.sources.map fun d => g.output.join ⟨d.name ++ ".d.ts"⟩
  distinct : s.files.Pairwise fun p q => ¬ Path.Same p q
  entities : u.readBytes (g.output.join ⟨"entities.ts"⟩) = .ok entities.content.toUTF8
  handlers : ∀ d ∈ c.sources, ∃ events, Abi.load t (d.abiPath g.root) = .ok events ∧
    u.readBytes (g.output.join ⟨d.name ++ ".d.ts"⟩) =
      .ok (HandlerTypes.generate d.name events).file.content.toUTF8
  unmapped : s.unmapped = results.flatMap HandlerTypes.Result.unmapped
  within : GrowsWithin (· ∈ s.files) (fun q => q.components <+: g.output.components) t u

theorem Makes.admissible (h : Makes g t u s c entities results) : c.Admissible :=
  Config.admissible_of_load h.renders.config

/-- What a tree renders to, once it is written without a failure. -/
theorem RendersTo.makes (h : RendersTo t g.root c entities results)
    (hw : (writeFiles g.output t (Rendered.ofResults entities results).files).failure = none) :
    Makes g t (writeFiles g.output t (Rendered.ofResults entities results).files).tree
      ⟨(Rendered.ofResults entities results).files.map fun f => f.path g.output,
        (Rendered.ofResults entities results).unmapped⟩ c entities results := by
  have hsep := h.separate
  have hholds := hsep.holds (done_writeFiles hw)
  constructor
  case renders => exact h
  case files => exact h.paths g.output
  case distinct => exact hsep.pairwise g.output
  case entities =>
    obtain ⟨schema, -, hfile⟩ := h.entities
    have hold := hholds entities (by simp [Rendered.ofResults])
    rwa [GeneratedFile.path, EntityTypes.filename_of_file hfile] at hold
  case handlers =>
    intro d hd
    obtain ⟨r, hmem, events, hevents, rfl⟩ := Pointwise.exists_of_mem_left h.results hd
    have hfile := hholds (HandlerTypes.generate d.name events).file
      (List.mem_cons_of_mem _ (List.mem_map_of_mem hmem))
    exact ⟨events, hevents, hfile⟩
  case unmapped => rfl
  case within =>
    refine growsWithin_writeFiles t ?_ fun q hq => Path.prefix_of_mem_ancestors hq
    exact fun f hf => List.mem_map_of_mem hf

/-- **The exact effect of a generation.** If it succeeds, then it has written what the schema
and the ABI files were rendered to, each module to a place of its own; all else is as it was,
except for directories on the way to the output. -/
theorem exact_run (h : (g.run t).result = .ok s) :
    ∃ c entities results, Makes g t (g.run t).tree s c entities results := by
  obtain ⟨c, entities, results, hto, hw, htree, rfl⟩ := exists_renders h
  refine ⟨c, entities, results, ?_⟩
  rw [htree]
  exact hto.makes hw

/-- Three modules, and one parameter that is typed as `unknown`. -/
def isSampleSummary : Except Failure Summary → Bool
  | .ok s => s.files = [⟨"out/types/entities.ts"⟩, ⟨"out/types/A.d.ts"⟩, ⟨"out/types/B.d.ts"⟩] ∧
    s.unmapped = [⟨"A", "E", "v", "fixed"⟩]
  | .error _ => false

theorem exists_of_isSampleSummary {r : Except Failure Summary} (h : isSampleSummary r = true) :
    ∃ s, r = .ok s ∧
      s.files = [⟨"out/types/entities.ts"⟩, ⟨"out/types/A.d.ts"⟩, ⟨"out/types/B.d.ts"⟩] ∧
      s.unmapped = [⟨"A", "E", "v", "fixed"⟩] := by
  cases r with
  | ok s => exact ⟨s, rfl, of_decide_eq_true h⟩
  | error failure => cases h

theorem exact_run_sample : ∃ s c entities results, (sample.run sampleTree).result = .ok s ∧
    s.files = [⟨"out/types/entities.ts"⟩, ⟨"out/types/A.d.ts"⟩, ⟨"out/types/B.d.ts"⟩] ∧
    s.unmapped = [⟨"A", "E", "v", "fixed"⟩] ∧
    Makes sample sampleTree (sample.run sampleTree).tree s c entities results := by
  have hs : isSampleSummary (sample.run sampleTree).result = true := by decide +kernel
  obtain ⟨s, hr, hfiles, hunmapped⟩ := exists_of_isSampleSummary hs
  obtain ⟨c, entities, results, hmakes⟩ := exact_run hr
  exact ⟨s, c, entities, results, hr, hfiles, hunmapped, hmakes⟩

end Generation

end IndexerTypes
