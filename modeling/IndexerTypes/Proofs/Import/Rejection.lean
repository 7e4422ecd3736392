import IndexerTypes.Proofs.Import.Layout

/-! # Imports that are rejected

All that can be wrong with an import, files and directories apart that cannot be written, is
found while it is planned: the manifest is missing or malformed, or it names no schema, or
some data source is at fault, wherever it stands (`rejects_of_plan`). Nothing has been changed
by then. What has been planned can only fail on a file or a directory of its own
(`fault_of_apply`), so a run that fails in any other way leaves no trace
(`rejected_run`). -/

namespace IndexerTypes.Import

variable {i : Import} {t u : FileTree} {p : Plan} {fault : Fault}

/-! ## What is wrong with one data source -/

/-- The data source cannot be taken up behind what has been gathered so far. -/
inductive RejectsSource (i : Import) (t : FileTree) (g : Progress) (d : DataSource) :
    Fault → Prop
  | network : Network.chainId? (i.networkOf d) = none →
      RejectsSource i t g d (.unknownNetwork d.name (i.networkOf d))
  | abi {fault : Fault} : i.findAbi t d = .error fault → RejectsSource i t g d fault
  | name {path : Path} {name : String} {other : AbiCopy} :
      i.findAbi t d = .ok (path, name) → other ∈ g.abis → other.name = name →
      ¬ Path.Same other.source path →
      RejectsSource i t g d (.abiNameTaken other.source path name)

theorem addAbi_eq_error {g : Progress} {path : Path} {name : String}
    (h : g.addAbi path name = .error fault) :
    ∃ other ∈ g.abis, other.name = name ∧ ¬ Path.Same other.source path ∧
      fault = .abiNameTaken other.source path name := by
  unfold Progress.addAbi at h
  split at h
  · cases h
  · rename_i other hsome
    split at h
    · cases h
    · rename_i hdiffer
      have hname : other.name = name := by simpa using List.find?_some hsome
      exact ⟨other, List.mem_of_find?_eq_some hsome, hname, hdiffer, (Except.error.inj h).symm⟩

theorem rejects_of_planSource {d : DataSource} {g g' : Progress}
    (h : i.planSource t d g = (g', some fault)) : RejectsSource i t g d fault := by
  unfold planSource at h
  split at h
  · rename_i hnone
    obtain rfl := Option.some.inj (Prod.mk.inj h).2
    exact .network hnone
  · dsimp only at h
    split at h
    · rename_i found hc
      obtain rfl := Option.some.inj (Prod.mk.inj h).2
      unfold planContract at hc
      rcases bind_eq_error.mp hc with hf | ⟨⟨path, name⟩, hf, hrest⟩
      · exact .abi hf
      · rcases bind_eq_error.mp hrest with ha | ⟨added, -, hp⟩
        · obtain ⟨other, hmem, hname, hdiffer, rfl⟩ := addAbi_eq_error ha
          exact .name hf hmem hname hdiffer
        · cases hp
    · simp at h

/-! ## What is wrong with the import -/

/-- The manifest that the import finds. -/
def Reads (i : Import) (t : FileTree) (m : Manifest) : Prop :=
  ∃ path, Manifest.locate t i.directory i.candidates = .ok path ∧ Manifest.load t path = .ok m

/-- The import cannot be planned. -/
inductive Rejects (i : Import) (t : FileTree) : Fault → Prop
  | missing {fault : Fault} : Manifest.locate t i.directory i.candidates = .error fault →
      Rejects i t fault
  | manifest {path : Path} {fault : Fault} :
      Manifest.locate t i.directory i.candidates = .ok path →
      Manifest.load t path = .error fault → Rejects i t fault
  | schema {m : Manifest} {fault : Fault} : i.Reads t m → i.findSchema t m = .error fault →
      Rejects i t fault
  | dataSources {m : Manifest} {rejection : Manifest.Rejection} : i.Reads t m →
      m.sources = .error rejection → Rejects i t (.dataSource rejection)
  /-- A data source is at fault, and those before it are not. -/
  | source {m : Manifest} {before after : List DataSource} {d : DataSource} {g : Progress}
      {fault : Fault} : i.Reads t m → m.sources = .ok (before ++ d :: after) →
      i.planSources t .start before = (g, none) → RejectsSource i t g d fault →
      Rejects i t fault

/-- The data source at fault is the first one that is. -/
theorem rejects_of_planSources {dataSources : List DataSource} {g g' : Progress}
    (h : i.planSources t g dataSources = (g', some fault)) :
    ∃ before d after made, dataSources = before ++ d :: after ∧
      i.planSources t g before = (made, none) ∧ RejectsSource i t made d fault := by
  induction dataSources generalizing g with
  | nil => simp [planSources] at h
  | cons d rest ih =>
    unfold planSources at h
    split at h
    · rename_i made hd
      obtain ⟨before, e, after, last, rfl, hbefore, hr⟩ := ih h
      refine ⟨d :: before, e, after, last, rfl, ?_, hr⟩
      rw [planSources, hd]
      exact hbefore
    · rename_i made found hd
      obtain rfl := Option.some.inj (Prod.mk.inj h).2
      exact ⟨[], d, rest, g, rfl, rfl, rejects_of_planSource hd⟩

theorem rejects_of_readContent {path : Path}
    (hp : Manifest.locate t i.directory i.candidates = .ok path)
    (h : i.readContent t path = .error fault) : Rejects i t fault := by
  unfold readContent at h
  rcases bind_eq_error.mp h with hm | ⟨m, hm, h⟩
  · exact .manifest hp hm
  rcases bind_eq_error.mp h with hs | ⟨schema, -, h⟩
  · exact .schema ⟨path, hp, hm⟩ hs
  rcases bind_eq_error.mp h with hd | ⟨dataSources, -, h⟩
  · obtain ⟨rejection, hr, rfl⟩ := mapError_eq_error.mp hd
    exact .dataSources ⟨path, hp, hm⟩ hr
  · cases h

theorem rejects_of_plan (h : (i.plan t).result = .error fault) : Rejects i t fault := by
  unfold plan at h
  split at h
  · rename_i found hl
    obtain rfl := Except.error.inj h
    exact .missing hl
  rename_i path hl
  dsimp only at h
  split at h
  · rename_i found hc
    obtain rfl := Except.error.inj h
    exact rejects_of_readContent hl hc
  rename_i content hc
  dsimp only at h
  split at h
  · rename_i found hf
    obtain rfl := Except.error.inj h
    obtain ⟨m, hm, -, hd⟩ := readContent_eq_ok hc
    obtain ⟨before, d, after, made, he, hb, hr⟩ := rejects_of_planSources (Prod.ext rfl hf)
    exact .source ⟨path, hl, hm⟩ (he ▸ hd) hb hr
  · cases h

/-! ## What can go wrong behind the plan -/

theorem Plan.apply_eq_error :
    (p.apply t).result = .error fault ↔ (Effect.performAll t p.effects).fault = some fault := by
  unfold apply
  dsimp only
  split
  · rename_i found hf
    simp [hf]
  · rename_i hf
    simp [hf]

/-- A plan fails on the file or the directory of one of its effects. -/
theorem Plan.fault_of_apply (h : (p.apply t).result = .error fault) :
    ∃ e ∈ p.effects, ∃ error, fault = .file e.subject error := by
  obtain ⟨e, he, m, -, hp⟩ := Effect.perform_of_fault (apply_eq_error.mp h)
  obtain ⟨error, hf⟩ := Effect.perform_error hp
  exact ⟨e, he, error, hf⟩

/-! ## Runs -/

/-- A run fails with its planning or with its plan. -/
theorem run_eq_error {failure : Failure} (h : (i.run t).result = .error failure) :
    (i.plan t).result = .error failure.fault ∨
      ∃ p, (i.plan t).result = .ok p ∧ (p.apply t).result = .error failure.fault := by
  cases hp : (i.plan t).result with
  | error fault =>
    rw [(run_of_plan_error hp).1] at h
    obtain rfl := Except.error.inj h
    exact .inl rfl
  | ok p =>
    refine .inr ⟨p, rfl, ?_⟩
    cases ha : (p.apply t).result with
    | error fault =>
      unfold run apply at h
      simp only [hp, ha] at h
      obtain rfl := Except.error.inj h
      rfl
    | ok o =>
      have hr := (run_of_plan hp).2.mpr ha
      rw [hr] at h
      cases h

/-- **A rejected import leaves no trace.** If it cannot be planned, for whatever reason, then
it fails with that reason, and the tree is the one before. If it fails otherwise than on a file
or a directory, then it could not be planned. What is planned fails on nothing but its own
files and directories. -/
theorem rejected_run (i : Import) (t : FileTree) :
    (∀ fault, (i.plan t).result = .error fault →
      (i.run t).result = .error ((Failure.ofFault fault).within i.context) ∧
        (i.run t).tree = t) ∧
    (∀ failure, (i.run t).result = .error failure →
      (∀ path error, failure.fault ≠ .file path error) →
      (i.plan t).result = .error failure.fault ∧ Rejects i t failure.fault ∧
        (i.run t).tree = t) ∧
    ∀ (p : Plan) (u : FileTree) fault, (p.apply u).result = .error fault →
      ∃ e ∈ p.effects, ∃ error, fault = .file e.subject error := by
  refine ⟨fun fault hp => run_of_plan_error hp, ?_, fun p u fault ha => Plan.fault_of_apply ha⟩
  intro failure h hfile
  rcases run_eq_error h with hp | ⟨p, -, ha⟩
  · exact ⟨hp, rejects_of_plan hp, (run_of_plan_error hp).2⟩
  · obtain ⟨e, -, error, hf⟩ := Plan.fault_of_apply ha
    exact absurd hf (hfile _ _)

/-- The sample, with a network that nobody knows. -/
def straySample : Import := { sample with defaultNetwork := "moonnet" }

def isStray : Except Fault Plan → Bool
  | .error (.unknownNetwork source network) => source == "index" && network == "moonnet"
  | _ => false

theorem rejected_run_stray :
    (straySample.run sampleTree).result =
        .error ⟨[straySample.context], .unknownNetwork "index" "moonnet"⟩ ∧
      Rejects straySample sampleTree (.unknownNetwork "index" "moonnet") ∧
      (straySample.run sampleTree).tree = sampleTree := by
  have hs : isStray (straySample.plan sampleTree).result = true := by decide +kernel
  have hp : (straySample.plan sampleTree).result = .error (.unknownNetwork "index" "moonnet") := by
    revert hs
    cases (straySample.plan sampleTree).result with
    | ok p => exact nofun
    | error fault =>
      cases fault with
      | unknownNetwork source network =>
        intro hs
        simp only [isStray, Bool.and_eq_true, beq_iff_eq] at hs
        rw [hs.1, hs.2]
      | _ => exact nofun
  obtain ⟨hrejected, hother, -⟩ := rejected_run straySample sampleTree
  obtain ⟨hr, ht⟩ := hrejected _ hp
  exact ⟨hr, (hother _ hr fun path error he => by cases he).2.1, ht⟩

end IndexerTypes.Import
