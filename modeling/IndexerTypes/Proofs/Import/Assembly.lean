import IndexerTypes.Proofs.Effect.Settled
import IndexerTypes.Proofs.Import.Confinement
import IndexerTypes.Proofs.Import.Modules
import IndexerTypes.Proofs.Import.Rejection
import IndexerTypes.Proofs.Import.Reload

/-! # The configuration comes last

The configuration and the environment file are written behind everything that they refer to. All
other effects lie elsewhere (`within_early`), so as long as one of these is still to come, both
are as they were. And when all of these are done, the schema, the ABI file of each source and
every handler module are files (`assembled_of_early`) and stay files, whatever happens later.

There is one way in which something can come to be in their place before: the root may be spelled
with a detour through a directory of that name, which is then made (`not_assembled_detour`). -/

namespace IndexerTypes.Import.Plan

open FileTree (Grows GrowsWithin Apart under)
open Effect (Done)
open IndexerTypes.Path (IsName)

variable {i : Import} {t u v : FileTree} {p : Plan} {l : Location} {name : String}
  {dataSources : List DataSource} {fault : Fault}

/-! ## What the configuration refers to -/

/-- All that the configuration of the plan refers to is there. -/
structure Assembled (p : Plan) (u : FileTree) : Prop where
  schema : u.isFile p.schemaPath = true
  abis : ∀ s ∈ p.config.sources, u.isFile (s.abiPath p.root) = true
  stubs : ∀ s ∈ p.config.sources, u.isFile (p.handlersPath.join ⟨s.name ++ ".ts"⟩) = true
  index : u.isFile (p.handlersPath.join ⟨"index.ts"⟩) = true

theorem Assembled.grows (h : p.Assembled u) (hg : Grows u v) : p.Assembled v :=
  ⟨hg.isFile h.schema, fun s hs => hg.isFile (h.abis s hs), fun s hs => hg.isFile (h.stubs s hs),
    hg.isFile h.index⟩

/-- The effects before the configuration. -/
def earlyEffects (p : Plan) : List Effect := p.directoryEffects ++ p.copyEffects ++ p.moduleEffects

theorem effects_eq_early (p : Plan) : p.effects = p.earlyEffects ++ p.configEffects := rfl

/-- A handler module that has been written is a file. -/
theorem isFile_of_early (h : Done t p.earlyEffects u) {f : GeneratedFile} (hf : f ∈ p.modules) :
    u.isFile (f.path p.handlersPath) = true :=
  h.isFile_write (List.mem_append_right _ (write_mem_moduleEffects hf))

theorem assembled_of_early (hi : IsPlanOf i t dataSources p) (h : Done t p.earlyEffects u) :
    p.Assembled u := by
  constructor
  case schema =>
    have hcopy : .copy "schema" p.schema p.schemaPath ∈ p.earlyEffects :=
      List.mem_append_left _ (List.mem_append_right _ List.mem_cons_self)
    exact Effect.isFile_of_done_copy h hcopy hi.schema
  case abis =>
    intro s hs
    obtain ⟨d, -, a, ha, file, -, -, rfl⟩ := exists_bound hi.sources hs
    have hcopy : p.abiEffect a ∈ p.earlyEffects := by
      refine List.mem_append_left _ (List.mem_append_right _ (List.mem_cons_of_mem _ ?_))
      exact List.mem_map.mpr ⟨a, ha, rfl⟩
    rw [abiPath_of_name p.root ((isLaidOut_of_isPlanOf hi).abis a ha) rfl]
    exact Effect.isFile_of_done_copy h hcopy (hi.abis a ha).1
  case stubs =>
    intro s hs
    obtain ⟨d, hd, hname⟩ := hi.mem_names.mp ⟨s, hs, rfl⟩
    have hstub : Stub.file d.name d.eventNames ∈ p.modules :=
      List.mem_append_left _ (hi.mem_stubs.mpr ⟨d, hd, rfl⟩)
    have hfile := isFile_of_early h hstub
    rw [GeneratedFile.path, Stub.file] at hfile
    rwa [← hname]
  case index =>
    have hindex : p.index ∈ p.modules := List.mem_append_right _ List.mem_cons_self
    have hfile := isFile_of_early h hindex
    rwa [GeneratedFile.path, hi.index_filename] at hfile

/-! ## What the effects before the configuration leave alone -/

/-- Where nothing was, there is a directory now, on the way to the root. -/
structure MadeAbove (p : Plan) (t u : FileTree) (l : Location) : Prop where
  missing : t.entryAt? l = none
  directory : ∃ q : Path, q.components <+: p.root.components ∧ u.find q = .ok (l, .directory)

/-- Another name in the root is not a target, and not a directory that is made, unless it is on
the way to the root. -/
theorem within_early (hl : p.IsLaidOut) (hn : IsName name) (hs : name ≠ Config.schemaFilename)
    (ha : name ≠ abisDirectory) (hh : name ≠ handlersDirectory) :
    ∀ e ∈ p.earlyEffects, e.Within (Apart (p.root.join ⟨name⟩)) fun q =>
      Apart (p.root.join ⟨name⟩) q ∨ q.components <+: p.root.components := by
  have hdirectory {other : String} (ho : IsName other) (hne : name ≠ other) :
      ∀ q ∈ (p.root.join ⟨other⟩).ancestors,
        Apart (p.root.join ⟨name⟩) q ∨ q.components <+: p.root.components := by
    intro q hq
    rcases Path.mem_ancestors_join_name ho hq with rfl | habove
    · exact .inl (FileTree.apart_join_name p.root hn ho hne)
    · exact .inr habove
  have hinner {directory other : String} (hd : IsName directory) (ho : IsName other) :
      Apart (p.root.join ⟨name⟩) ((p.root.join ⟨directory⟩).join ⟨other⟩) :=
    (apart_inner p.root hd ho hn).symm
  intro e he
  rw [earlyEffects, List.mem_append, List.mem_append] at he
  rcases he with (hd | hc) | hm
  · -- directories
    simp only [directoryEffects, List.mem_cons, List.not_mem_nil, or_false] at hd
    rcases hd with rfl | rfl
    · exact hdirectory isName_abisDirectory ha
    · exact hdirectory isName_handlersDirectory hh
  · -- copies
    rcases List.mem_cons.mp hc with rfl | hc
    · exact FileTree.apart_join_name p.root hn isName_schemaFilename hs
    · obtain ⟨a, hmem, rfl⟩ := List.mem_map.mp hc
      exact hinner isName_abisDirectory (hl.abis a hmem)
  · -- handler modules
    obtain ⟨f, hf, he⟩ := List.mem_flatMap.mp hm
    exact GeneratedFile.within_effects (hinner isName_handlersDirectory (hl.modules f hf))
      (hdirectory isName_handlersDirectory hh) e he

/-- What lies apart from all that is written is as it was, or it is a new directory. -/
theorem kept_or_madeAbove {q : Path} (hw : u.walk q = .ok l)
    (h : GrowsWithin (Apart q) (fun r => Apart q r ∨ r.components <+: p.root.components) t u) :
    u.entryAt? l = t.entryAt? l ∨ p.MadeAbove t u l := by
  rcases h.entry l with hsame | ⟨r, c, hr, hf⟩ | ⟨hmissing, r, hr | habove, hd⟩
  · exact .inl hsame
  · exact absurd (FileTree.walk_of_find hf) (hr u l hw)
  · exact absurd (FileTree.walk_of_find hd) (hr u l hw)
  · exact .inr ⟨hmissing, r, habove, hd⟩

/-- The files that are written last, by their names in the root. -/
def lastFiles : List String := ["ponder.config.json", ".env.local"]

theorem kept_of_early (hl : p.IsLaidOut) (hname : name ∈ lastFiles)
    (hw : (Effect.performAll t p.earlyEffects).tree.walk (p.root.join ⟨name⟩) = .ok l) :
    (Effect.performAll t p.earlyEffects).tree.entryAt? l = t.entryAt? l ∨
      p.MadeAbove t (Effect.performAll t p.earlyEffects).tree l := by
  refine kept_or_madeAbove hw (Effect.growsWithin_performAll t ?_)
  simp only [lastFiles, List.mem_cons, List.not_mem_nil, or_false] at hname
  rcases hname with rfl | rfl
  · exact within_early hl (by decide) (by decide) (by decide) (by decide)
  · exact within_early hl (by decide) (by decide) (by decide) (by decide)

/-! ## Plans that are carried out -/

/-- A fault before the configuration is the fault of the plan, and the last that is done. -/
theorem apply_of_early_fault (h : (Effect.performAll t p.earlyEffects).fault = some fault) :
    (p.apply t).result = .error fault ∧
      (p.apply t).tree = (Effect.performAll t p.earlyEffects).tree := by
  have hall : Effect.performAll t p.effects = Effect.performAll t p.earlyEffects := by
    rw [effects_eq_early, Effect.performAll_append, h]
  exact ⟨apply_eq_error.mpr (hall ▸ h), congrArg Effect.Performed.tree hall⟩

theorem grows_apply_of_early (h : (Effect.performAll t p.earlyEffects).fault = none) :
    Grows (Effect.performAll t p.earlyEffects).tree (p.apply t).tree := by
  have htree : (p.apply t).tree =
      (Effect.performAll (Effect.performAll t p.earlyEffects).tree p.configEffects).tree := by
    show (Effect.performAll t p.effects).tree = _
    rw [effects_eq_early, Effect.performAll_append, h]
  exact htree ▸ Effect.grows_performAll _ _

/-- **The configuration appears only after everything that it refers to.** Wherever a plan fails,
if the configuration or the environment file is not as it was, then the schema, the ABI file of
each source and all handler modules are files; or it is a directory, which was missing on the way
to the root. A plan that fails before it comes to the configuration leaves both as they were, but
for such a directory. -/
theorem assembled_apply (hp : (i.plan t).result = .ok p) :
    (∀ name ∈ lastFiles, ∀ l, (p.apply t).tree.walk (p.root.join ⟨name⟩) = .ok l →
      (p.apply t).tree.entryAt? l ≠ t.entryAt? l →
      p.Assembled (p.apply t).tree ∨ p.MadeAbove t (p.apply t).tree l) ∧
    ∀ fault, (Effect.performAll t p.earlyEffects).fault = some fault →
      (p.apply t).result = .error fault ∧
      ∀ name ∈ lastFiles, ∀ l, (p.apply t).tree.walk (p.root.join ⟨name⟩) = .ok l →
        (p.apply t).tree.entryAt? l = t.entryAt? l ∨ p.MadeAbove t (p.apply t).tree l := by
  obtain ⟨dataSources, hi⟩ := isPlanOf_plan hp
  have hl := isLaidOut_of_isPlanOf hi
  have hfailed : ∀ fault, (Effect.performAll t p.earlyEffects).fault = some fault →
      (p.apply t).result = .error fault ∧
      ∀ name ∈ lastFiles, ∀ l, (p.apply t).tree.walk (p.root.join ⟨name⟩) = .ok l →
        (p.apply t).tree.entryAt? l = t.entryAt? l ∨ p.MadeAbove t (p.apply t).tree l := by
    intro fault hf
    obtain ⟨hresult, htree⟩ := apply_of_early_fault hf
    rw [htree]
    exact ⟨hresult, fun name hname l hw => kept_of_early hl hname hw⟩
  refine ⟨fun name hname l hw hne => ?_, hfailed⟩
  cases hf : (Effect.performAll t p.earlyEffects).fault with
  | some fault => exact .inr (((hfailed fault hf).2 name hname l hw).resolve_left hne)
  | none => exact .inl ((assembled_of_early hi ⟨hf, rfl⟩).grows (grows_apply_of_early hf))

/-- Whether the configuration of the sample is new, and lies where it is expected. -/
def sampleAssembles : Except Fault Plan → Bool
  | .ok p =>
    (p.apply sampleTree).tree.walk (p.root.join ⟨"ponder.config.json"⟩) = .ok ["ponder.config.json"] ∧
      (p.apply sampleTree).tree.entryAt? ["ponder.config.json"] ≠
        sampleTree.entryAt? ["ponder.config.json"] ∧
      (p.apply sampleTree).tree.entryAt? ["ponder.config.json"] ≠ some .directory
  | .error _ => false

theorem assembled_apply_sample : ∃ p, (sample.plan sampleTree).result = .ok p ∧
    p.Assembled (p.apply sampleTree).tree := by
  have hs : sampleAssembles (sample.plan sampleTree).result = true := by decide +kernel
  cases hp : (sample.plan sampleTree).result with
  | error fault =>
    rw [hp] at hs
    cases hs
  | ok p =>
    rw [hp] at hs
    obtain ⟨hw, hne, hfile⟩ := of_decide_eq_true hs
    rcases (assembled_apply hp).1 _ (by simp [lastFiles]) _ hw hne with ha | ⟨-, q, -, hd⟩
    · exact ⟨p, rfl, ha⟩
    · exact absurd (FileTree.find_eq_directory.mp hd).2 hfile

/-- A project whose root is spelled with a detour, and a directory in the place of its schema. -/
def detourTree : FileTree where
  workingDirectory := []
  entries := [
    (["m"], .file "schema:\n  file: s\ndataSources: []\n".toUTF8),
    (["s"], .file "type A".toUTF8),
    (["schema.graphql"], .directory)]

def detour : Import := ⟨⟨"."⟩, ⟨"ponder.config.json/.."⟩, ["m"], "mainnet"⟩

def detourFails : Except Fault Plan → Bool
  | .ok p =>
    (p.apply detourTree).tree.walk (p.root.join ⟨"ponder.config.json"⟩) = .ok ["ponder.config.json"] ∧
      (p.apply detourTree).tree.entryAt? ["ponder.config.json"] ≠
        detourTree.entryAt? ["ponder.config.json"] ∧
      (p.apply detourTree).tree.isFile p.schemaPath = false ∧
      (Effect.performAll detourTree p.earlyEffects).fault.isSome
  | .error _ => false

/-- The schema cannot be copied, but there is something in the place of the configuration. -/
theorem not_assembled_detour : ∃ p fault, (detour.plan detourTree).result = .ok p ∧
    (Effect.performAll detourTree p.earlyEffects).fault = some fault ∧
    (p.apply detourTree).result = .error fault ∧
    (p.apply detourTree).tree.walk (p.root.join ⟨"ponder.config.json"⟩) =
      .ok ["ponder.config.json"] ∧
    (p.apply detourTree).tree.entryAt? ["ponder.config.json"] ≠
      detourTree.entryAt? ["ponder.config.json"] ∧
    ¬ p.Assembled (p.apply detourTree).tree := by
  have hs : detourFails (detour.plan detourTree).result = true := by decide +kernel
  cases hp : (detour.plan detourTree).result with
  | error fault =>
    rw [hp] at hs
    cases hs
  | ok p =>
    rw [hp] at hs
    obtain ⟨hw, hne, hschema, hfault⟩ := of_decide_eq_true hs
    obtain ⟨fault, hfault⟩ := Option.isSome_iff_exists.mp hfault
    refine ⟨p, fault, rfl, hfault, (apply_of_early_fault hfault).1, hw, hne, fun ha => ?_⟩
    rw [ha.schema] at hschema
    cases hschema

end IndexerTypes.Import.Plan
