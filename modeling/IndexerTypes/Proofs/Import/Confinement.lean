import IndexerTypes.Proofs.Ancestors
import IndexerTypes.Proofs.Import.Layout

/-! # Imports stay inside of their project

A manifest comes from elsewhere, and some of its texts become parts of paths. A data source
gives its name to a module, but only an identifier is accepted; an ABI file keeps the last
component of its path, which is one name. So whatever the manifest says, all that is written
is one of the files of `Output`, and the directories that are made are on the way to these
(`confined_run`). -/

namespace IndexerTypes.Import

open FileTree (GrowsWithin under)
open IndexerTypes.Path (IsName)

variable {i : Import} {t u : FileTree} {p : Plan} {root q : Path}
  {dataSources : List DataSource}

/-- The files that an import may write. -/
inductive Output (root : Path) : Path → Prop
  | schema : Output root (root.join ⟨"schema.graphql"⟩)
  | abi {name : String} : IsName name → Output root ((root.join ⟨"abis"⟩).join ⟨name⟩)
  | stub {source : String} : Text.isIdentifier source = true →
      Output root ((root.join ⟨"handlers"⟩).join ⟨source ++ ".ts"⟩)
  | index : Output root ((root.join ⟨"handlers"⟩).join ⟨"index.ts"⟩)
  | config : Output root (root.join ⟨"ponder.config.json"⟩)
  | environment : Output root (root.join ⟨".env.local"⟩)

/-- The directories that an import may make. -/
inductive OutputDirectory (root : Path) : Path → Prop
  | abis : OutputDirectory root (root.join ⟨"abis"⟩)
  | handlers : OutputDirectory root (root.join ⟨"handlers"⟩)
  /-- The root itself, or a directory above it. -/
  | above {q : Path} : q.components <+: root.components → OutputDirectory root q

/-! ## Where outputs are -/

/-- An output is a path of names behind the root. -/
theorem Output.eq_under (h : Output root q) :
    ∃ names, names ≠ [] ∧ (∀ name ∈ names, IsName name) ∧ q = under root names := by
  cases h with
  | schema => exact ⟨["schema.graphql"], by simp, by decide, rfl⟩
  | @abi name hn =>
    refine ⟨["abis", name], by simp, ?_, rfl⟩
    have ha : IsName "abis" := by decide
    simp [ha, hn]
  | @stub source hs =>
    refine ⟨["handlers", source ++ ".ts"], by simp, ?_, rfl⟩
    have ha : IsName "handlers" := by decide
    simp [ha, Plan.isName_module hs]
  | index => exact ⟨["handlers", "index.ts"], by simp, by decide, rfl⟩
  | config => exact ⟨["ponder.config.json"], by simp, by decide, rfl⟩
  | environment => exact ⟨[".env.local"], by simp, by decide, rfl⟩

/-- An output lies below the place of the root, in each tree where it can be found. -/
theorem Output.below {l : Location} (h : Output root q) (hw : u.walk q = .ok l) :
    ∃ b names, u.walk root = .ok b ∧ names ≠ [] ∧ l = b ++ names := by
  obtain ⟨names, hne, hn, rfl⟩ := h.eq_under
  obtain ⟨b, hb, hl⟩ := FileTree.walk_under hn hw
  exact ⟨b, names, hb, hne, hl⟩

/-- To make a directory in the root is to make it and directories above it. -/
theorem OutputDirectory.of_mem_ancestors {name : String} (hn : IsName name)
    (hd : OutputDirectory root (root.join ⟨name⟩)) (h : q ∈ (root.join ⟨name⟩).ancestors) :
    OutputDirectory root q := by
  rcases Path.mem_ancestors_join_name hn h with rfl | hp
  · exact hd
  · exact .above hp

/-! ## What a plan does -/

namespace Plan

theorem output_of_stub (hi : IsPlanOf i t dataSources p) {f : GeneratedFile}
    (hf : f ∈ p.modules) : Output p.root (f.path p.handlersPath) := by
  rcases List.mem_append.mp hf with hf | hf
  · rw [hi.stubs] at hf
    obtain ⟨d, hd, rfl⟩ := List.mem_map.mp hf
    exact .stub (DataSource.isIdentifier_of_check (hi.accepted.checked d hd))
  · rw [List.mem_singleton.mp hf, hi.index]
    exact .index

/-- Each effect of a plan stays within the outputs. -/
theorem within_effects (hi : IsPlanOf i t dataSources p) :
    ∀ e ∈ p.effects, e.Within (Output p.root) (OutputDirectory p.root) := by
  have habis : ∀ q ∈ p.abisPath.ancestors, OutputDirectory p.root q := by
    intro q hq
    exact .of_mem_ancestors isName_abisDirectory .abis hq
  have hhandlers : ∀ q ∈ p.handlersPath.ancestors, OutputDirectory p.root q := by
    intro q hq
    exact .of_mem_ancestors isName_handlersDirectory .handlers hq
  intro e he
  simp only [effects, List.mem_append] at he
  rcases he with ((hd | hc) | hm) | hw
  · -- directories
    simp only [directoryEffects, List.mem_cons, List.not_mem_nil, or_false] at hd
    rcases hd with rfl | rfl
    · exact habis
    · exact hhandlers
  · -- copies
    rcases List.mem_cons.mp hc with rfl | hc
    · exact .schema
    · obtain ⟨a, ha, rfl⟩ := List.mem_map.mp hc
      exact .abi (isName_of_fileName? (hi.abis a ha).2)
  · -- handler modules
    obtain ⟨f, hf, he⟩ := List.mem_flatMap.mp hm
    exact GeneratedFile.within_effects (output_of_stub hi hf) hhandlers e he
  · -- configuration
    simp only [configEffects, List.mem_cons, List.not_mem_nil, or_false] at hw
    rcases hw with rfl | rfl
    · exact .config
    · exact .environment

theorem growsWithin_apply (hi : IsPlanOf i t dataSources p) :
    GrowsWithin (Output p.root) (OutputDirectory p.root) u (p.apply u).tree :=
  Effect.growsWithin_performAll u (within_effects hi)

end Plan

theorem growsWithin_run (i : Import) (t : FileTree) :
    GrowsWithin (Output i.root) (OutputDirectory i.root) t (i.run t).tree := by
  cases hp : (i.plan t).result with
  | error fault =>
    rw [(run_of_plan_error hp).2]
    exact .refl t
  | ok p =>
    obtain ⟨dataSources, hi⟩ := isPlanOf_plan hp
    have htree := (run_of_plan (o := p.outcome) hp).1
    rw [htree, ← hi.root]
    exact Plan.growsWithin_apply hi

/-- **An import changes nothing outside of its project.** Whether it succeeds or fails, and
whatever the manifest says, each file that is new or changed is an output, and it lies below
the root; no file is lost; each new directory leads to an output. -/
theorem confined_run (i : Import) (t : FileTree) :
    GrowsWithin (Output i.root) (OutputDirectory i.root) t (i.run t).tree ∧
    ∀ l c, (i.run t).tree.entryAt? l = some (.file c) → t.entryAt? l ≠ some (.file c) →
      ∃ b names, (i.run t).tree.walk i.root = .ok b ∧ names ≠ [] ∧ l = b ++ names := by
  have hg := growsWithin_run i t
  refine ⟨hg, fun l c hl hne => ?_⟩
  rcases hg.entry l with he | ⟨q, d, hq, hf⟩ | ⟨-, q, -, hd⟩
  · exact absurd (he ▸ hl) hne
  · exact hq.below (FileTree.walk_of_find hf)
  · rw [(FileTree.find_eq_directory.mp hd).2] at hl
    cases hl

end IndexerTypes.Import
