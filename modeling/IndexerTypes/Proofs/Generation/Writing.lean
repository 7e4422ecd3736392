import IndexerTypes.Proofs.Generation.Rendering
import IndexerTypes.Proofs.GeneratedFile

/-! # Writing what has been rendered

A run writes when all is rendered, one file after the other, each as an effect of its own. So
it fails on an obstacle before the first file is written, or it fails on writing one of the
files (`failed_run`). -/

namespace IndexerTypes.Generation

open FileTree (Grows GrowsWithin)

variable {g : Generation} {t u : FileTree} {output : Path} {files : List GeneratedFile}
  {failure : Failure}

/-! ## Writing -/

/-- Files that are written without a failure are written by the run of all their effects. -/
theorem done_writeFiles (h : (writeFiles output t files).failure = none) :
    Effect.Done t (files.flatMap fun f => f.effects "types" output)
      (writeFiles output t files).tree := by
  induction files generalizing t with
  | nil => exact Effect.done_nil.mpr rfl
  | cons f rest ih =>
    rw [List.flatMap_cons, Effect.done_append]
    unfold writeFiles at h ⊢
    dsimp only at h ⊢
    split at h
    · cases h
    · rename_i hn
      have hfirst : Effect.Done t (f.effects "types" output) _ := ⟨hn, rfl⟩
      exact ⟨_, hfirst, ih h⟩

/-- Files are written without a failure if the run of all their effects is done. -/
theorem writeFiles_of_done
    (h : Effect.Done t (files.flatMap fun f => f.effects "types" output) u) :
    (writeFiles output t files).failure = none ∧ (writeFiles output t files).tree = u := by
  induction files generalizing t with
  | nil => exact ⟨rfl, (Effect.done_nil.mp h).symm⟩
  | cons f rest ih =>
    rw [List.flatMap_cons, Effect.done_append] at h
    obtain ⟨m, ⟨hfault, htree⟩, hrest⟩ := h
    unfold writeFiles
    dsimp only
    rw [hfault, htree]
    exact ih hrest

/-- The failure is that of one of the effects, in a tree that has grown so far. -/
theorem effect_of_writeFiles (h : (writeFiles output t files).failure = some failure) :
    ∃ f ∈ files, ∃ e ∈ f.effects "types" output, ∃ m fault, Grows t m ∧
      (e.perform m).2 = .error fault ∧ failure = ⟨[writeContext f], fault⟩ := by
  induction files generalizing t with
  | nil => cases h
  | cons f rest ih =>
    unfold writeFiles at h
    dsimp only at h
    split at h
    · rename_i fault hf
      obtain rfl := Option.some.inj h
      obtain ⟨e, he, m, hg, hp⟩ := Effect.perform_of_fault hf
      exact ⟨f, by simp, e, he, m, fault, hg, hp, rfl⟩
    · rename_i hn
      have hfirst : Effect.Done t (f.effects "types" output) _ := ⟨hn, rfl⟩
      obtain ⟨d, hd, e, he, m, fault, hg, hp, hfail⟩ := ih h
      exact ⟨d, by simp [hd], e, he, m, fault, hfirst.grows.trans hg, hp, hfail⟩

theorem growsWithin_writeFiles {paths directories : Path → Prop} (t : FileTree)
    (hf : ∀ f ∈ files, paths (f.path output)) (hd : ∀ q ∈ output.ancestors, directories q) :
    GrowsWithin paths directories t (writeFiles output t files).tree := by
  induction files generalizing t with
  | nil => exact .refl t
  | cons f rest ih =>
    have hfirst : GrowsWithin paths directories t
        (Effect.performAll t (f.effects "types" output)).tree :=
      Effect.growsWithin_performAll t (GeneratedFile.within_effects (hf f (by simp)) hd)
    unfold writeFiles
    dsimp only
    split
    · exact hfirst
    · exact hfirst.trans (ih _ fun d hmem => hf d (by simp [hmem]))

/-! ## Runs -/

/-- A run that does not render leaves the tree as it is. -/
theorem run_of_render_error (h : (render t g.root).result = .error failure) :
    (g.run t).result = .error failure ∧ (g.run t).tree = t := by
  unfold run
  simp [h]

theorem tree_of_render {r : Rendered} (h : (render t g.root).result = .ok r) :
    (g.run t).tree = (writeFiles g.output t r.files).tree := by
  unfold run
  simp [h]

theorem result_of_render {r : Rendered} (h : (render t g.root).result = .ok r) :
    (g.run t).result =
      match (writeFiles g.output t r.files).failure with
      | some failure => .error failure
      | none => .ok ⟨r.files.map fun f => f.path g.output, r.unmapped⟩ := by
  unfold run
  cases hw : (writeFiles g.output t r.files).failure with
  | none => simp [h, hw]
  | some failure => simp [h, hw]

theorem run_eq_ok {s : Summary} (h : (g.run t).result = .ok s) :
    ∃ r, (render t g.root).result = .ok r ∧ (writeFiles g.output t r.files).failure = none ∧
      s = ⟨r.files.map fun f => f.path g.output, r.unmapped⟩ := by
  cases hr : (render t g.root).result with
  | error failure =>
    rw [(run_of_render_error hr).1] at h
    cases h
  | ok r =>
    rw [result_of_render hr] at h
    split at h
    · cases h
    · rename_i hw
      exact ⟨r, rfl, hw, (Except.ok.inj h).symm⟩

/-- Behind a run that succeeds is a tree that renders, and all of it is written. -/
theorem exists_renders {s : Summary} (h : (g.run t).result = .ok s) :
    ∃ c entities results, RendersTo t g.root c entities results ∧
      (writeFiles g.output t (Rendered.ofResults entities results).files).failure = none ∧
      (g.run t).tree =
        (writeFiles g.output t (Rendered.ofResults entities results).files).tree ∧
      s = ⟨(Rendered.ofResults entities results).files.map fun f => f.path g.output,
        (Rendered.ofResults entities results).unmapped⟩ := by
  obtain ⟨r, hr, hw, hs⟩ := run_eq_ok h
  obtain ⟨c, entities, results, hto, rfl⟩ := render_eq_ok.mp hr
  exact ⟨c, entities, results, hto, hw, tree_of_render hr, hs⟩

theorem run_of_done {r : Rendered} (h : (render t g.root).result = .ok r)
    (hd : Effect.Done t (r.files.flatMap fun f => f.effects "types" g.output) u) :
    (g.run t).result = .ok ⟨r.files.map fun f => f.path g.output, r.unmapped⟩ ∧
      (g.run t).tree = u := by
  obtain ⟨hfailure, htree⟩ := writeFiles_of_done hd
  rw [result_of_render h, hfailure, tree_of_render h]
  exact ⟨rfl, htree⟩

theorem run_eq_error (h : (g.run t).result = .error failure) :
    (render t g.root).result = .error failure ∨
      ∃ r, (render t g.root).result = .ok r ∧
        (writeFiles g.output t r.files).failure = some failure := by
  cases hr : (render t g.root).result with
  | error found =>
    rw [(run_of_render_error hr).1] at h
    obtain rfl := Except.error.inj h
    exact .inl rfl
  | ok r =>
    rw [result_of_render hr] at h
    split at h
    · rename_i found hw
      exact .inr ⟨r, rfl, Except.error.inj h ▸ hw⟩
    · cases h

/-! ## Runs that fail -/

/-- One of the files could not be written, or its directory could not be made. -/
def FailsToWrite (output : Path) (files : List GeneratedFile) (failure : Failure) : Prop :=
  ∃ f ∈ files, ∃ path error, failure = ⟨["Failed to write " ++ f.filename], .file path error⟩ ∧
    (path = output ∨ path = f.path output)

theorem failsToWrite_of_writeFiles (h : (writeFiles output t files).failure = some failure) :
    FailsToWrite output files failure := by
  obtain ⟨f, hf, e, he, m, fault, -, hp, rfl⟩ := effect_of_writeFiles h
  obtain ⟨error, rfl⟩ := Effect.perform_error hp
  refine ⟨f, hf, e.subject, error, rfl, ?_⟩
  simp only [GeneratedFile.effects, List.mem_cons, List.not_mem_nil, or_false] at he
  rcases he with rfl | rfl
  · exact .inl rfl
  · exact .inr rfl

/-- A run fails on an obstacle, with nothing written, or on writing what is rendered. -/
theorem obstacle_or_failsToWrite (h : (g.run t).result = .error failure) :
    (Obstacle t g.root failure.fault ∧ (g.run t).tree = t) ∨
      ∃ r, (render t g.root).result = .ok r ∧ FailsToWrite g.output r.files failure := by
  rcases run_eq_error h with hr | ⟨r, hr, hw⟩
  · exact .inl ⟨obstacle_of_render hr, (run_of_render_error hr).2⟩
  · exact .inr ⟨r, hr, failsToWrite_of_writeFiles hw⟩

/-- **A failing generation leaves no partial output.** Whatever is in the way of the
rendering, at any source and any field, makes the run fail with the tree as it was. Only a
file that cannot be written, with all of them rendered, can make it fail otherwise, and then
the fault is one of a file. -/
theorem failed_run (g : Generation) (t : FileTree) :
    (∀ fault, Obstacle t g.root fault →
      ∃ failure, (g.run t).result = .error failure ∧ Obstacle t g.root failure.fault ∧
        (g.run t).tree = t) ∧
    (∀ failure, (g.run t).result = .error failure →
      (Obstacle t g.root failure.fault ∧ (g.run t).tree = t) ∨
        ∃ r, (render t g.root).result = .ok r ∧ FailsToWrite g.output r.files failure) ∧
    ∀ failure, (g.run t).result = .error failure →
      (∀ path error, failure.fault ≠ .file path error) → (g.run t).tree = t := by
  refine ⟨?_, fun failure h => obstacle_or_failsToWrite h, ?_⟩
  · intro fault hobstacle
    cases hr : (render t g.root).result with
    | error failure =>
      obtain ⟨hresult, htree⟩ := run_of_render_error hr
      exact ⟨failure, hresult, obstacle_of_render hr, htree⟩
    | ok r => exact absurd hr (hobstacle.render_ne_ok r)
  · intro failure h hfile
    rcases obstacle_or_failsToWrite h with ⟨-, htree⟩ | ⟨r, -, f, -, path, error, rfl, -⟩
    · exact htree
    · exact absurd rfl (hfile path error)

/-- Two sources, the second of them without events. -/
def sampleTree : FileTree where
  workingDirectory := []
  entries := [
    (["ponder.config.json"], .file (
      "\x7b\"sources\":[\x7b\"name\":\"A\",\"network\":\"\",\"abi\":\"a\",\"address\":\"\"\x7d," ++
        "\x7b\"name\":\"B\",\"network\":\"\",\"abi\":\"b\",\"address\":\"\"\x7d]\x7d").toUTF8),
    (["schema.graphql"], .file "type T @entity \x7b id: ID! \x7d".toUTF8),
    (["a"], .file (
      "[\x7b\"type\":\"event\",\"name\":\"E\",\"inputs\":" ++
        "[\x7b\"name\":\"v\",\"type\":\"fixed\"\x7d]\x7d]").toUTF8),
    (["b"], .file "[]".toUTF8)]

def sample : Generation := ⟨⟨"."⟩, ⟨"out/types"⟩⟩

/-- The ABI file of the last source is cut off. -/
def brokenTree : FileTree := sampleTree.set ["b"] (.file "[".toUTF8)

def isBroken : Except Failure Rendered → Bool
  | .error ⟨_, .abi path _⟩ => path = ⟨"./b"⟩
  | _ => false

theorem exists_of_isBroken {r : Except Failure Rendered} (h : isBroken r = true) :
    ∃ contexts error, r = .error ⟨contexts, .abi ⟨"./b"⟩ error⟩ := by
  unfold isBroken at h
  split at h
  · rename_i contexts path error
    obtain rfl := of_decide_eq_true h
    exact ⟨contexts, error, rfl⟩
  · cases h

theorem failed_run_broken : ∃ contexts error,
    (sample.run brokenTree).result = .error ⟨contexts, .abi ⟨"./b"⟩ error⟩ ∧
      Obstacle brokenTree sample.root (.abi ⟨"./b"⟩ error) ∧
      (sample.run brokenTree).tree = brokenTree := by
  have hb : isBroken (render brokenTree sample.root).result = true := by decide +kernel
  obtain ⟨contexts, error, hr⟩ := exists_of_isBroken hb
  have h := (run_of_render_error hr).1
  obtain ⟨-, -, hother⟩ := failed_run sample brokenTree
  exact ⟨contexts, error, h, obstacle_of_render hr, hother _ h nofun⟩

end IndexerTypes.Generation
