import IndexerTypes.Path
import IndexerTypes.Proofs.Text.Word
import Mathlib.Data.List.Induction

/-! # Joined paths

A path joined with a relative one has the segments of both, and it starts where the base
starts. So a path joined with single names differs from its base by these names only, and
two spellings of one path stay two spellings of one path. -/

namespace IndexerTypes.Path

/-- One name in a directory: neither empty nor a way to another directory. -/
structure IsName (name : String) : Prop where
  nonempty : name ≠ ""
  noSlash : '/' ∉ name.toList
  notHere : name ≠ "."
  notUp : name ≠ ".."

theorem isName_iff {name : String} :
    IsName name ↔ name ≠ "" ∧ '/' ∉ name.toList ∧ name ≠ "." ∧ name ≠ ".." :=
  ⟨fun h => ⟨h.nonempty, h.noSlash, h.notHere, h.notUp⟩, fun ⟨h, s, d, u⟩ => ⟨h, s, d, u⟩⟩

instance (name : String) : Decidable (IsName name) := decidable_of_iff _ isName_iff.symm

/-! ## Texts and their segments -/

def segmentsOf (s : List Char) : List String := ((s.splitOn '/').filter (· ≠ [])).map String.ofList

theorem segments_eq (p : Path) : p.segments = segmentsOf p.text.toList := rfl

theorem segmentsOf_nil : segmentsOf [] = [] := by simp [segmentsOf]

theorem segmentsOf_append (a b : List Char) :
    segmentsOf (a ++ '/' :: b) = segmentsOf a ++ segmentsOf b := by
  simp [segmentsOf, List.splitOn_append_cons_self]

theorem segmentsOf_name {name : String} (h : IsName name) : segmentsOf name.toList = [name] := by
  have hne : name.toList ≠ [] := fun he => h.nonempty (String.toList_eq_nil_iff.mp he)
  simp [segmentsOf, List.splitOn_eq_singleton h.noSlash, hne]

/-- A segment that is no dot and no pair of dots is a name. -/
theorem isName_of_mem_segments {p : Path} {name : String} (h : name ∈ p.segments)
    (hh : name ≠ ".") (hu : name ≠ "..") : IsName name := by
  obtain ⟨piece, hp, rfl⟩ := List.mem_map.mp h
  obtain ⟨hs, hne⟩ := List.mem_filter.mp hp
  refine ⟨?_, ?_, hh, hu⟩
  · intro he
    simp only [decide_eq_true_eq] at hne
    exact hne (by simpa using congrArg String.toList he)
  · simpa using Text.not_mem_of_mem_splitOn hs

/-! ## Joining -/

theorem startsAtRoot_name {name : String} (h : IsName name) :
    startsAtRoot ⟨name⟩ = false := by
  unfold startsAtRoot
  cases hl : name.toList with
  | nil => rfl
  | cons c tail =>
    have hc : c ≠ '/' := by
      rintro rfl
      exact h.noSlash (by simp [hl])
    simp [hc]

theorem endsWithSlash_name {name : String} (h : IsName name) :
    endsWithSlash ⟨name⟩ = false := by
  unfold endsWithSlash
  rw [beq_eq_false_iff_ne]
  intro he
  exact h.noSlash (List.mem_of_getLast? he)

/-- The text of a join: the base, perhaps a slash, and the other path. -/
theorem join_text (base : Path) {rel : Path} (hr : rel.startsAtRoot = false) :
    (base.text = "" ∧ (base.join rel).text = rel.text) ∨
    (∃ front, base.text.toList = front ++ ['/'] ∧
      (base.join rel).text.toList = front ++ '/' :: rel.text.toList) ∨
    (base.text ≠ "" ∧ base.endsWithSlash = false ∧
      (base.join rel).text.toList = base.text.toList ++ '/' :: rel.text.toList) := by
  unfold join
  rw [if_neg (by simp [hr])]
  by_cases he : base.text = ""
  · exact .inl ⟨he, by simp [he]⟩
  · by_cases hs : base.endsWithSlash = true
    · refine .inr (.inl ?_)
      have hl : base.text.toList.getLast? = some '/' := by simpa [endsWithSlash] using hs
      obtain ⟨front, hf⟩ := List.getLast?_eq_some_iff.mp hl
      exact ⟨front, hf, by simp [hs, hf]⟩
    · refine .inr (.inr ⟨he, by simpa using hs, ?_⟩)
      simp [he, hs]

theorem segments_join (base : Path) {rel : Path} (hr : rel.startsAtRoot = false) :
    (base.join rel).segments = base.segments ++ rel.segments := by
  rw [segments_eq, segments_eq base, segments_eq rel]
  rcases join_text base hr with ⟨he, ht⟩ | ⟨front, hf, ht⟩ | ⟨-, -, ht⟩
  · rw [ht, he]
    rfl
  · rw [ht, hf, segmentsOf_append, segmentsOf_append, segmentsOf_nil, List.append_nil]
  · rw [ht, segmentsOf_append]

theorem startsAtRoot_join (base : Path) {rel : Path} (hr : rel.startsAtRoot = false) :
    (base.join rel).startsAtRoot = base.startsAtRoot := by
  rcases join_text base hr with ⟨he, ht⟩ | ⟨front, hf, ht⟩ | ⟨he, -, ht⟩
  · unfold startsAtRoot at hr ⊢
    rw [ht, he, hr]
    rfl
  · unfold startsAtRoot
    rw [ht, hf]
    cases front <;> rfl
  · unfold startsAtRoot
    rw [ht]
    cases hb : base.text.toList with
    | nil => exact absurd (String.toList_eq_nil_iff.mp hb) he
    | cons c tail => rfl

theorem segments_join_name (base : Path) {name : String} (h : IsName name) :
    (base.join ⟨name⟩).segments = base.segments ++ [name] := by
  rw [segments_join base (startsAtRoot_name h), segments_eq ⟨name⟩, segmentsOf_name h]

theorem startsAtRoot_join_name (base : Path) {name : String} (h : IsName name) :
    (base.join ⟨name⟩).startsAtRoot = base.startsAtRoot :=
  startsAtRoot_join base (startsAtRoot_name h)

theorem endsWithSlash_join_name (base : Path) {name : String} (h : IsName name) :
    (base.join ⟨name⟩).endsWithSlash = false := by
  have hn := endsWithSlash_name h
  have hne : name.toList ≠ [] := fun he => h.nonempty (String.toList_eq_nil_iff.mp he)
  unfold endsWithSlash at hn ⊢
  rcases join_text base (startsAtRoot_name h) with ⟨-, ht⟩ | ⟨front, -, ht⟩ | ⟨-, -, ht⟩
  · rw [ht]
    exact hn
  · rw [ht, List.getLast?_append, List.getLast?_cons_of_ne_nil hne]
    simpa [hne] using hn
  · rw [ht, List.getLast?_append, List.getLast?_cons_of_ne_nil hne]
    simpa [hne] using hn

theorem text_join_name_ne_empty (base : Path) {name : String} (h : IsName name) :
    (base.join ⟨name⟩).text ≠ "" := by
  have hmem : name ∈ (base.join ⟨name⟩).segments := by simp [segments_join_name base h]
  intro he
  simp [segments_eq, he, segmentsOf_nil] at hmem

/-- One name behind the other is one path of two names. -/
theorem join_join_name (base : Path) {a b : String} (ha : IsName a) (hb : IsName b) :
    (base.join ⟨a⟩).join ⟨b⟩ = base.join ⟨a ++ "/" ++ b⟩ := by
  have hab : startsAtRoot ⟨a ++ "/" ++ b⟩ = false := by
    have h := startsAtRoot_name ha
    unfold startsAtRoot at h ⊢
    cases hl : a.toList with
    | nil => exact absurd (String.toList_eq_nil_iff.mp hl) ha.nonempty
    | cons c tail => simpa [hl] using h
  have hne := text_join_name_ne_empty base ha
  have hj : (base.join ⟨a⟩).join ⟨b⟩ = ⟨(base.join ⟨a⟩).text ++ "/" ++ b⟩ := by
    rw [join.eq_def (base.join ⟨a⟩), startsAtRoot_name hb, endsWithSlash_join_name base ha]
    simp [hne]
  rw [hj, join.eq_def base, join.eq_def base, startsAtRoot_name ha, hab]
  by_cases he : (base.text.isEmpty || base.endsWithSlash) = true
  · simp [he, String.append_assoc]
  · simp [he, String.append_assoc]

theorem withoutDotSlash_of_ne {c : Char} (rest : List Char) (hc : c ≠ '.') :
    withoutDotSlash (c :: rest) = c :: rest := by
  unfold withoutDotSlash
  split
  · rename_i he
    exact absurd (List.cons.inj he).1 hc
  · rfl

/-! ## Components -/

theorem componentOf?_name {name : String} (h : IsName name) :
    componentOf? name = some (.name name) := by
  unfold componentOf?
  rw [if_neg h.notHere, if_neg h.notUp]

theorem head?_splitOn_append (a b : List Char) :
    ((a ++ '/' :: b).splitOn '/').head? = (a.splitOn '/').head? := by
  rw [List.splitOn_append_cons_self]
  cases ha : a.splitOn '/' with
  | nil => exact absurd ha (List.splitOn_ne_nil _ _)
  | cons first rest => rfl

theorem head?_pieces_join_name (base : Path) {name : String} (h : IsName name) :
    (base.join ⟨name⟩).pieces.head? = some ['.'] ↔ base.pieces.head? = some ['.'] := by
  unfold pieces
  rcases join_text base (startsAtRoot_name h) with ⟨he, ht⟩ | ⟨front, hf, ht⟩ | ⟨-, -, ht⟩
  · have hn : name.toList ≠ ['.'] := fun hd => h.notHere (String.toList_inj.mp hd)
    rw [ht, he, List.splitOn_eq_singleton h.noSlash]
    simpa using hn
  · rw [ht, hf, head?_splitOn_append, head?_splitOn_append]
  · rw [ht, head?_splitOn_append]

/-- A name behind a path is one more component. -/
theorem components_join_name (base : Path) {name : String} (h : IsName name) :
    (base.join ⟨name⟩).components = base.components ++ [.name name] := by
  unfold components
  simp only [segments_join_name base h, startsAtRoot_join_name base h,
    head?_pieces_join_name base h, List.filterMap_append, List.filterMap_cons,
    List.filterMap_nil, componentOf?_name h]
  split
  · rfl
  · split <;> rfl

theorem same_join_name (base : Path) {a b : String} (ha : IsName a) (hb : IsName b) :
    Same (base.join ⟨a⟩) (base.join ⟨b⟩) ↔ a = b := by
  simp [Same, components_join_name base ha, components_join_name base hb]

/-- The first directory to make is the path itself. -/
theorem ancestors_eq (p : Path) : p.ancestors = [] ∨ ∃ above, p.ancestors = p :: above := by
  unfold ancestors
  dsimp only
  split
  · exact .inl rfl
  · exact .inl rfl
  · exact .inr ⟨_, rfl⟩
  · exact .inr ⟨_, rfl⟩

theorem fileName?_join_name (base : Path) {name : String} (h : IsName name) :
    (base.join ⟨name⟩).fileName? = some name := by
  simp [fileName?, components_join_name base h]

theorem getLast?_of_cons {α : Type} {a b : α} {l : List α} (h : (a :: l).getLast? = some b)
    (hne : a ≠ b) : l.getLast? = some b := by
  cases l with
  | nil => exact absurd (by simpa using h) hne
  | cons c l => simpa [List.getLast?_cons_cons] using h

theorem segments_of_getLast? {segments : List String} {name : String}
    (h : (segments.filterMap componentOf?).getLast? = some (.name name)) :
    ∃ front dots, segments = front ++ name :: dots ∧ (∀ d ∈ dots, d = ".") ∧
      name ≠ "." ∧ name ≠ ".." := by
  induction segments using List.reverseRecOn with
  | nil => simp at h
  | append_singleton front last ih =>
    rw [List.filterMap_append] at h
    by_cases hd : last = "."
    · simp only [hd, componentOf?, List.filterMap_cons, List.filterMap_nil, if_true,
        List.append_nil] at h
      obtain ⟨start, dots, rfl, hdots, hname⟩ := ih h
      refine ⟨start, dots ++ [last], by simp, ?_, hname⟩
      intro d hmem
      rcases List.mem_append.mp hmem with hmem | hmem
      · exact hdots d hmem
      · exact (List.mem_singleton.mp hmem).trans hd
    · by_cases hu : last = ".."
      · simp [componentOf?, hu] at h
      · simp only [componentOf?, hd, hu, List.filterMap_cons, List.filterMap_nil, if_false,
          List.getLast?_append, List.getLast?_singleton, Option.some_or, Option.some.injEq,
          Component.name.injEq] at h
        subst h
        exact ⟨front, [], rfl, by simp, hd, hu⟩

/-- The file name of a path is its last segment, dots left out. -/
theorem segments_of_fileName? {p : Path} {name : String} (h : p.fileName? = some name) :
    IsName name ∧ ∃ front dots, p.segments = front ++ name :: dots ∧ ∀ d ∈ dots, d = "." := by
  have hlast : (p.segments.filterMap componentOf?).getLast? = some (.name name) := by
    unfold fileName? at h
    split at h
    · rename_i text ht
      obtain rfl := Option.some.inj h
      unfold components at ht
      dsimp only at ht
      split at ht
      · exact getLast?_of_cons ht (by simp)
      · split at ht
        · exact getLast?_of_cons ht (by simp)
        · exact ht
    · simp at h
  obtain ⟨front, dots, hs, hd, hh, hu⟩ := segments_of_getLast? hlast
  have hmem : name ∈ p.segments := by simp [hs]
  exact ⟨isName_of_mem_segments hmem hh hu, front, dots, hs, hd⟩

end IndexerTypes.Path
