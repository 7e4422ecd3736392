import IndexerTypes.Proofs.GeneratedFile
import IndexerTypes.Proofs.Import.Plan

/-! # Where an import puts its files

Every file that an import copies or writes stands under the root at one or two names, and
different names are different places. So each file keeps what was put into it unless a later
one has the very same names: this is left to the handler modules (`module_holds`), since the
other names are fixed ones or kept distinct by the plan. -/

namespace IndexerTypes.Import.Plan

open FileTree (under Apart)
open IndexerTypes.Path (IsName)
open Effect (Done Spares)

variable {p : Plan} {t u : FileTree}

/-- The names of a plan's files are names. -/
structure IsLaidOut (p : Plan) : Prop where
  abis : ∀ a ∈ p.abis, IsName a.name
  modules : ∀ f ∈ p.modules, IsName f.filename

/-! ## Names -/

theorem isName_of_fileName? {path : Path} {name : String} (h : path.fileName? = some name) :
    IsName name := (Path.segments_of_fileName? h).1

/-- An identifier is the name of a module file. -/
theorem isName_module {name : String} (h : Text.isIdentifier name = true) :
    IsName (name ++ ".ts") := Text.isName_append h (by decide) (by decide)

theorem isLaidOut_of_isPlanOf {i : Import} {dataSources : List DataSource}
    (h : IsPlanOf i t dataSources p) : p.IsLaidOut := by
  refine ⟨fun a ha => isName_of_fileName? (h.abis a ha).2, ?_⟩
  intro f hf
  rcases List.mem_append.mp hf with hf | hf
  · rw [h.stubs] at hf
    obtain ⟨d, hd, rfl⟩ := List.mem_map.mp hf
    exact isName_module (DataSource.isIdentifier_of_check (h.accepted.checked d hd))
  · rw [List.mem_singleton.mp hf, h.index]
    exact (by decide : IsName Stub.indexFilename)

/-! ## Places that differ

Each path of a plan is its root with one or two names behind it. -/

theorem schemaPath_eq (p : Plan) : p.schemaPath = under p.root [Config.schemaFilename] := rfl

theorem configPath_eq (p : Plan) : p.configPath = under p.root [Config.filename] := rfl

theorem environmentPath_eq (p : Plan) :
    p.environmentPath = under p.root [Config.environmentFilename] := rfl

theorem abiPath_eq (p : Plan) (a : AbiCopy) :
    p.abiPath a = under p.root [abisDirectory, a.name] := rfl

theorem modulePath_eq (p : Plan) (f : GeneratedFile) :
    f.path p.handlersPath = under p.root [handlersDirectory, f.filename] := rfl

theorem isName_schemaFilename : IsName Config.schemaFilename := by decide

theorem isName_filename : IsName Config.filename := by decide

theorem isName_environmentFilename : IsName Config.environmentFilename := by decide

theorem isName_abisDirectory : IsName abisDirectory := by decide

theorem isName_handlersDirectory : IsName handlersDirectory := by decide

/-- A file in a directory of the root and a file in the root itself. -/
theorem apart_inner (root : Path) {directory name other : String} (hd : IsName directory)
    (hn : IsName name) (ho : IsName other) :
    Apart (under root [directory, name]) (under root [other]) := by
  refine FileTree.apart_under root ?_ ?_ (by simp)
  · simp [hd, hn]
  · simp [ho]

/-- Two files in directories of the root. -/
theorem apart_nested (root : Path) {directory name directory' name' : String}
    (hd : IsName directory) (hn : IsName name) (hd' : IsName directory') (hn' : IsName name')
    (hne : directory ≠ directory' ∨ name ≠ name') :
    Apart (under root [directory, name]) (under root [directory', name']) := by
  refine FileTree.apart_under root ?_ ?_ ?_
  · simp [hd, hn]
  · simp [hd', hn']
  · intro he
    simp only [List.cons.injEq, and_true] at he
    exact hne.elim (fun h => h he.1) (fun h => h he.2)

/-! ## What the effects of a plan spare -/

theorem spares_config {q : Path} (hc : Apart q p.configPath) (he : Apart q p.environmentPath) :
    Spares p.configEffects q := by
  refine Effect.spares_cons.mpr ⟨?_, Effect.spares_cons.mpr ⟨?_, Effect.spares_nil⟩⟩
  · exact fun r hr => Option.some.inj hr ▸ hc
  · exact fun r hr => Option.some.inj hr ▸ he

/-- A file in a directory of the root is not touched by the configuration. -/
theorem spares_config_inner {directory name : String} (hd : IsName directory)
    (hn : IsName name) : Spares p.configEffects (under p.root [directory, name]) := by
  refine spares_config ?_ ?_
  · rw [configPath_eq]
    exact apart_inner p.root hd hn isName_filename
  · rw [environmentPath_eq]
    exact apart_inner p.root hd hn isName_environmentFilename

/-! ## A plan that is carried out -/

theorem apply_eq_ok {o : Outcome} :
    (p.apply t).result = .ok o ↔ Done t p.effects (p.apply t).tree ∧ o = p.outcome := by
  unfold apply Done
  dsimp only
  split
  · rename_i fault hf
    simp [hf]
  · rename_i hf
    simp [hf, eq_comm]

theorem write_mem_moduleEffects {f : GeneratedFile} (hf : f ∈ p.modules) :
    .write "handler module" (f.path p.handlersPath) f.content ∈ p.moduleEffects :=
  List.mem_flatMap.mpr ⟨f, hf, by simp [GeneratedFile.effects]⟩

/-- A handler module is there at the end unless a later one has its name. -/
theorem module_holds {before after : List GeneratedFile} {f : GeneratedFile}
    (hl : p.IsLaidOut) (h : Done t p.effects u) (hm : p.modules = before ++ f :: after)
    (hn : ∀ g ∈ after, g.filename ≠ f.filename) :
    u.readBytes (f.path p.handlersPath) = .ok f.content.toUTF8 := by
  have hf : IsName f.filename := hl.modules f (by simp [hm])
  rw [effects, moduleEffects, hm] at h
  refine GeneratedFile.holds_of_done_files h hf (fun g hg => ⟨?_, hn g hg⟩) ?_
  · exact hl.modules g (by simp [hm, hg])
  · rw [modulePath_eq]
    exact spares_config_inner isName_handlersDirectory hf

theorem config_holds (h : Done t p.effects u) :
    u.readBytes p.configPath = .ok p.config.text.toUTF8 := by
  have he : p.effects = (p.directoryEffects ++ p.copyEffects ++ p.moduleEffects) ++
      .write "project config" p.configPath p.config.text ::
      [.write "environment file" p.environmentPath (Network.environment p.config.networks)] := by
    simp [effects, configEffects]
  rw [he] at h
  refine Effect.holds_of_done h (Effect.spares_cons.mpr ⟨fun q hq => ?_, Effect.spares_nil⟩)
  rw [← Option.some.inj hq]
  exact FileTree.apart_join_name p.root isName_filename isName_environmentFilename (by decide)

theorem environment_holds (h : Done t p.effects u) :
    u.readBytes p.environmentPath = .ok (Network.environment p.config.networks).toUTF8 := by
  have he : p.effects = (p.directoryEffects ++ p.copyEffects ++ p.moduleEffects ++
      [.write "project config" p.configPath p.config.text]) ++
      [.write "environment file" p.environmentPath (Network.environment p.config.networks)] := by
    simp [effects, configEffects]
  rw [he] at h
  exact Effect.holds_of_done h Effect.spares_nil

end IndexerTypes.Import.Plan

namespace IndexerTypes.Import

variable {i : Import} {t : FileTree} {p : Plan}

/-- An import without a plan does nothing. -/
theorem run_of_plan_error {fault : Fault} (h : (i.plan t).result = .error fault) :
    (i.run t).result = .error ((Failure.ofFault fault).within i.context) ∧
      (i.run t).tree = t := by
  unfold run apply
  simp [h]

/-- An import that has a plan is the run of this plan. -/
theorem run_of_plan {o : Outcome} (hp : (i.plan t).result = .ok p) :
    (i.run t).tree = (p.apply t).tree ∧
      ((i.run t).result = .ok o ↔ (p.apply t).result = .ok o) := by
  unfold run apply
  cases ha : (p.apply t).result with
  | error fault => simp [hp, ha]
  | ok made => simp [hp, ha]

/-- Behind an import that is done there is a plan, carried out to its end. -/
theorem done_of_run {o : Outcome} (h : (i.run t).result = .ok o) :
    ∃ p, (i.plan t).result = .ok p ∧ Effect.Done t p.effects (i.run t).tree ∧ o = p.outcome := by
  cases hp : (i.plan t).result with
  | error fault =>
    rw [(run_of_plan_error hp).1] at h
    cases h
  | ok p =>
    obtain ⟨htree, hresult⟩ := run_of_plan hp
    obtain ⟨hd, he⟩ := Plan.apply_eq_ok.mp (hresult.mp h)
    exact ⟨p, rfl, htree ▸ hd, he⟩

/-! ## An import in place -/

/-- A project whose data source has the name of the index. -/
def sampleTree : FileTree where
  workingDirectory := []
  entries := [
    (["m"], .file (
      "schema:\n  file: s\ndataSources:\n- name: index\n  source:\n    address: x\n    abi: A\n" ++
      "  mapping:\n    abis:\n    - name: A\n      file: abis/A\n").toUTF8),
    (["s"], .file "type A".toUTF8),
    (["abis"], .directory),
    (["abis", "A"], .file "[]".toUTF8)]

def sample : Import := ⟨⟨"."⟩, ⟨"."⟩, ["m"], "mainnet"⟩

/-- Whether the sample is imported, with its ABI file left alone by the copy of the schema. -/
def sampleRuns : Except Fault Plan → Bool
  | .error _ => false
  | .ok p =>
    (p.apply sampleTree).result.isOk && p.config.sources.map Source.name == ["index"] &&
      p.abis.all fun a => !(p.apply sampleTree).tree.sameEntry a.source p.schemaPath

theorem exists_sample : ∃ p o, (sample.plan sampleTree).result = .ok p ∧
    (p.apply sampleTree).result = .ok o ∧ p.config.sources.map Source.name = ["index"] ∧
    ∀ a ∈ p.abis, (p.apply sampleTree).tree.sameEntry a.source p.schemaPath = false := by
  have h : sampleRuns (sample.plan sampleTree).result = true := by decide +kernel
  cases hp : (sample.plan sampleTree).result with
  | error fault =>
    rw [hp] at h
    cases h
  | ok p =>
    rw [hp] at h
    simp only [sampleRuns, Bool.and_eq_true, beq_iff_eq, List.all_eq_true,
      Bool.not_eq_true'] at h
    obtain ⟨⟨ho, hn⟩, ha⟩ := h
    cases hr : (p.apply sampleTree).result with
    | error fault =>
      rw [hr] at ho
      cases ho
    | ok o => exact ⟨p, o, rfl, hr, hn, ha⟩

end IndexerTypes.Import
