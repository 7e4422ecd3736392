import IndexerTypes.Config.Basic
import IndexerTypes.Proofs.Ancestors

/-! # Where a source has its ABI file

The text of a source says where its ABI file is, seen from the root of the project. The `./` that
open the text lead nowhere, so they may be dropped (`steps_withoutDotSlash`), unless a slash is left
in front: what follows them is then looked up from the root directory of the file system, and the
root of the project has no part in it (`alike_abiPath_iff`). -/

namespace IndexerTypes

namespace Path

variable {p base rel directory : Path} {s : List Char}

/-- The components of a path, without the `.` that may open it. -/
def steps (p : Path) : List Component := p.components.filter (· ≠ .here)

/-- The paths differ at most by dots and repeated slashes. -/
def Alike (p q : Path) : Prop := p.steps = q.steps

/-- The path leads to the directory, and perhaps on to names below it. -/
def IsWithin (p directory : Path) : Prop :=
  ∃ names : List String, (∀ name ∈ names, IsName name) ∧
    p.steps = directory.steps ++ names.map Component.name

/-- Behind the `./` that open the text is a slash. -/
def SlashBehindDots (s : List Char) : Prop :=
  ∃ (k : Nat) (rest : List Char), s = (List.replicate k ['.', '/']).flatten ++ '/' :: rest

/-! ## Steps -/

theorem steps_eq (p : Path) : p.steps =
    (if p.startsAtRoot then [.root] else []) ++ p.segments.filterMap componentOf? := by
  have hbelow : (p.segments.filterMap componentOf?).filter (· ≠ .here) =
      p.segments.filterMap componentOf? := by
    refine List.filter_eq_self.mpr fun c hc => decide_eq_true ?_
    obtain ⟨segment, hsegment, hc⟩ := List.mem_filterMap.mp hc
    rintro rfl
    cases isStep_of_mem_segments hsegment hc
  unfold steps components
  split
  · simpa using hbelow
  · split <;> simpa using hbelow

theorem steps_of_relative (h : p.startsAtRoot = false) :
    p.steps = p.segments.filterMap componentOf? := by
  simp [steps_eq, h]

theorem steps_join (h : rel.startsAtRoot = false) :
    (base.join rel).steps = base.steps ++ rel.steps := by
  rw [steps_of_relative h, steps_eq, steps_eq base, startsAtRoot_join base h, segments_join base h,
    List.filterMap_append, List.append_assoc]

/-- Without a way up there are only names. -/
theorem exists_names (h : p.startsAtRoot = false) (hup : ".." ∉ p.segments) :
    ∃ names : List String, (∀ name ∈ names, IsName name) ∧ p.steps = names.map Component.name := by
  have hnames : ∀ segments : List String, ".." ∉ segments →
      segments.filterMap componentOf? = (segments.filter (· ≠ ".")).map Component.name := by
    intro segments hup
    induction segments with
    | nil => rfl
    | cons segment rest ih =>
      rw [List.mem_cons, not_or] at hup
      obtain ⟨hsegment, hrest⟩ := hup
      by_cases hhere : segment = "." <;> simp [componentOf?, hhere, Ne.symm hsegment, ih hrest]
  refine ⟨p.segments.filter (· ≠ "."), fun name hname => ?_, ?_⟩
  · obtain ⟨hmem, hhere⟩ := List.mem_filter.mp hname
    exact isName_of_mem_segments hmem (of_decide_eq_true hhere) fun he => hup (he ▸ hmem)
  · rw [steps_of_relative h, hnames _ hup]

/-! ## What is left without dots -/

/-- What opens the text does not count, whatever is left. -/
theorem segments_withoutDotSlash (s : List Char) :
    (segmentsOf (withoutDotSlash s)).filterMap componentOf? =
      (segmentsOf s).filterMap componentOf? := by
  fun_induction withoutDotSlash s with
  | case1 rest ih =>
    have hdot : segmentsOf ['.'] = ["."] := rfl
    have hcons : '.' :: '/' :: rest = ['.'] ++ '/' :: rest := rfl
    rw [ih, hcons, segmentsOf_append, hdot]
    rfl
  | case2 => rfl

theorem startsAtRoot_withoutDotSlash (s : List Char) :
    startsAtRoot ⟨String.ofList (withoutDotSlash s)⟩ = true ↔ SlashBehindDots s := by
  constructor
  · fun_induction withoutDotSlash s with
    | case1 rest ih =>
      intro h
      obtain ⟨k, after, rfl⟩ := ih h
      exact ⟨k + 1, after, rfl⟩
    | case2 s =>
      intro h
      rw [startsAtRoot, String.toList_ofList, beq_iff_eq] at h
      obtain ⟨rest, rfl⟩ := List.head?_eq_some_iff.mp h
      exact ⟨0, rest, rfl⟩
  · rintro ⟨k, rest, rfl⟩
    induction k with
    | zero =>
      rw [List.replicate_zero, List.flatten_nil, List.nil_append,
        withoutDotSlash_of_ne rest (by decide), startsAtRoot, String.toList_ofList]
      rfl
    | succ k ih => exact ih

theorem steps_withoutDotSlash {text : String} (h : startsAtRoot ⟨text⟩ = false) :
    steps ⟨String.ofList (withoutDotSlash text.toList)⟩ =
      (if startsAtRoot ⟨String.ofList (withoutDotSlash text.toList)⟩ then [.root] else []) ++
        steps ⟨text⟩ := by
  rw [steps_eq, steps_of_relative h, segments_eq, segments_eq, String.toList_ofList,
    segments_withoutDotSlash]

/-! ## Below a directory -/

/-- What is looked up from the root directory is below those directories that it leads through. -/
theorem isWithin_iff_of_root {names : List String} (hnames : ∀ name ∈ names, IsName name)
    (hp : p.steps = .root :: names.map Component.name) :
    p.IsWithin directory ↔
      ∃ above, directory.steps = .root :: above ∧ above <+: names.map Component.name := by
  unfold IsWithin
  rw [hp]
  constructor
  · rintro ⟨below, -, he⟩
    cases hd : directory.steps with
    -- Nothing is below the working directory that starts at the root.
    | nil =>
      rw [hd] at he
      cases below <;> cases he
    | cons first above =>
      rw [hd] at he
      obtain ⟨rfl, hrest⟩ := List.cons.inj he
      exact ⟨above, rfl, _, hrest.symm⟩
  · rintro ⟨above, hd, rest, he⟩
    obtain ⟨front, below, rfl, rfl, rfl⟩ := List.map_eq_append_iff.mp he.symm
    refine ⟨below, fun name hname => hnames name (List.mem_append_right _ hname), ?_⟩
    rw [hd, List.cons_append, List.map_append]

end Path

namespace Source

variable {s : Source} {root : Path}

theorem abiPath_of_slash (h : Path.SlashBehindDots s.abi.toList) :
    s.abiPath root = ⟨String.ofList (Path.withoutDotSlash s.abi.toList)⟩ := by
  rw [abiPath, Path.join, if_pos ((Path.startsAtRoot_withoutDotSlash _).mpr h)]

/-- The steps to the ABI file, from the root of the project or from the root directory. -/
theorem steps_abiPath (root : Path) (hs : Path.startsAtRoot ⟨s.abi⟩ = false) :
    (Path.SlashBehindDots s.abi.toList ∧
      (s.abiPath root).steps = .root :: Path.steps ⟨s.abi⟩) ∨
    (¬ Path.SlashBehindDots s.abi.toList ∧
      (s.abiPath root).steps = root.steps ++ Path.steps ⟨s.abi⟩) := by
  have hslash := Path.startsAtRoot_withoutDotSlash s.abi.toList
  by_cases h : Path.SlashBehindDots s.abi.toList
  · refine .inl ⟨h, ?_⟩
    rw [abiPath_of_slash h, Path.steps_withoutDotSlash hs, hslash.mpr h]
    rfl
  · have hrel : Path.startsAtRoot
        ⟨String.ofList (Path.withoutDotSlash s.abi.toList)⟩ = false := by
      rw [← Bool.not_eq_true, hslash]
      exact h
    refine .inr ⟨h, ?_⟩
    rw [abiPath, Path.steps_join hrel, Path.steps_withoutDotSlash hs, hrel]
    rfl

/-- **An ABI file is looked up from the root of the project, unless a slash is behind the dots.**
With such a slash it is looked up from the root directory, which is the same only for a project
there. Without a way up the file is below the root of the project, and with such a slash just if
the way from the root directory leads through it. -/
theorem alike_abiPath_iff (root : Path) (hs : Path.startsAtRoot ⟨s.abi⟩ = false) :
    ((s.abiPath root).Alike (root.join ⟨s.abi⟩) ↔
      ¬ Path.SlashBehindDots s.abi.toList ∨ root.steps = [.root]) ∧
    (".." ∉ Path.segments ⟨s.abi⟩ → ((s.abiPath root).IsWithin root ↔
      ¬ Path.SlashBehindDots s.abi.toList ∨
        ∃ above, root.steps = .root :: above ∧ above <+: Path.steps ⟨s.abi⟩)) := by
  have hjoin : (root.join ⟨s.abi⟩).steps = root.steps ++ Path.steps ⟨s.abi⟩ := Path.steps_join hs
  rcases steps_abiPath root hs with ⟨hslash, hsteps⟩ | ⟨hslash, hsteps⟩
  · simp only [hslash, not_true_eq_false, false_or]
    constructor
    · rw [Path.Alike, hjoin, hsteps, ← List.singleton_append, List.append_left_inj, eq_comm]
    · intro hup
      obtain ⟨names, hnames, he⟩ := Path.exists_names hs hup
      rw [Path.isWithin_iff_of_root hnames (hsteps.trans (congrArg _ he)), he]
  · simp only [hslash, not_false_eq_true, true_or, iff_true]
    constructor
    · rw [Path.Alike, hjoin, hsteps]
    · intro hup
      obtain ⟨names, hnames, he⟩ := Path.exists_names hs hup
      exact ⟨names, hnames, hsteps.trans (congrArg _ he)⟩

/-- A source with a slash too much. -/
def slashedSource : Source := ⟨.evm, "Token", "mainnet", ".//abis/Token.json", "0x1", none⟩

/-- Its file is not where the root of the project is. -/
theorem not_alike_slashedSource : Path.startsAtRoot ⟨slashedSource.abi⟩ = false ∧
    ".." ∉ Path.segments ⟨slashedSource.abi⟩ ∧
    ¬ (slashedSource.abiPath ⟨"project"⟩).Alike (Path.join ⟨"project"⟩ ⟨slashedSource.abi⟩) ∧
    ¬ (slashedSource.abiPath ⟨"project"⟩).IsWithin ⟨"project"⟩ ∧
    slashedSource.abiPath ⟨"project"⟩ = ⟨"/abis/Token.json"⟩ := by
  have hs : Path.startsAtRoot ⟨slashedSource.abi⟩ = false := by decide
  have hup : ".." ∉ Path.segments ⟨slashedSource.abi⟩ := by decide
  have hslash : Path.SlashBehindDots slashedSource.abi.toList :=
    ⟨1, "abis/Token.json".toList, by decide⟩
  have hroot : Path.steps ⟨"project"⟩ = [.name "project"] := by decide
  obtain ⟨halike, hwithin⟩ := alike_abiPath_iff ⟨"project"⟩ hs
  refine ⟨hs, hup, ?_, ?_, by decide⟩
  · rw [halike, hroot]
    simp [hslash]
  · rw [hwithin hup, hroot]
    simp [hslash]

end Source

end IndexerTypes
