import IndexerTypes.Text.Blank
import Mathlib.Data.List.DropRight

/-! # Texts without blanks around them

Trimming leaves a text that has no blank at either end (`isTrimmed_trim`), and it takes away all
blanks that stand around such a text (`trim_padded`). Nothing is left only of blanks
(`trim_eq_nil`). -/

namespace IndexerTypes.Text

/-- Neither the first nor the last character is a blank. -/
structure IsTrimmed (s : List Char) : Prop where
  first : ∀ c, s.head? = some c → isBlank c = false
  last : ∀ c, s.getLast? = some c → isBlank c = false

def AllBlank (s : List Char) : Prop := ∀ c ∈ s, isBlank c = true

variable {s before after : List Char}

theorem head?_trimStart {c : Char} (h : (trimStart s).head? = some c) : isBlank c = false := by
  have hnot := List.head?_dropWhile_not isBlank s
  rw [trimStart] at h
  rwa [h] at hnot

theorem getLast?_trimEnd {c : Char} (h : (trimEnd s).getLast? = some c) : isBlank c = false := by
  rw [trimEnd, List.getLast?_reverse] at h
  exact head?_trimStart h

theorem trim_eq_nil : trim s = [] ↔ AllBlank s := by
  have hend : trim s = [] ↔ ∀ c ∈ trimStart s, isBlank c = true := List.rdropWhile_eq_nil_iff
  rw [hend]
  constructor
  · intro h
    refine List.dropWhile_eq_nil_iff.mp ?_
    by_contra hne
    have hfirst := head?_trimStart (List.head?_eq_some_head hne)
    rw [h _ (List.head_mem hne)] at hfirst
    cases hfirst
  · exact fun h c hc => h c ((List.dropWhile_suffix isBlank).subset hc)

theorem isPrefix_trim (s : List Char) : trim s <+: trimStart s :=
  List.rdropWhile_prefix isBlank (trimStart s)

theorem isTrimmed_trim (s : List Char) : IsTrimmed (trim s) := by
  refine ⟨fun c hc => ?_, fun c hc => getLast?_trimEnd hc⟩
  obtain ⟨rest, hrest⟩ := isPrefix_trim s
  refine head?_trimStart (s := s) ?_
  rw [← hrest, List.head?_append, hc]
  rfl

/-- Only what stands around the text is taken away. -/
theorem isInfix_trim (s : List Char) : trim s <:+: s :=
  (isPrefix_trim s).isInfix.trans (List.dropWhile_suffix isBlank).isInfix

theorem trimStart_padded (hb : AllBlank before) (h : ∀ c, s.head? = some c → isBlank c = false) :
    trimStart (before ++ s) = s := by
  rw [trimStart, List.dropWhile_append_of_pos hb]
  cases s with
  | nil => rfl
  | cons c rest => simp [h c rfl]

theorem trimEnd_padded (ha : AllBlank after) (h : ∀ c, s.getLast? = some c → isBlank c = false) :
    trimEnd (s ++ after) = s := by
  have hr : AllBlank after.reverse := fun c hc => ha c (List.mem_reverse.mp hc)
  have hs := trimStart_padded hr (s := s.reverse) fun c hc => h c (by rwa [← List.head?_reverse])
  rw [trimEnd, List.reverse_append, ← trimStart, hs, List.reverse_reverse]

/-- Blanks around a text are taken away, and nothing else is. -/
theorem trim_padded (hb : AllBlank before) (ha : AllBlank after) (h : IsTrimmed s) :
    trim (before ++ s ++ after) = s := by
  cases s with
  | nil =>
    have hall : AllBlank (before ++ after) := List.forall_mem_append.mpr ⟨hb, ha⟩
    have hnone : trimStart (before ++ after) = [] := by
      simpa using trimStart_padded (s := []) hall (by simp)
    rw [List.append_nil, trim, hnone]
    rfl
  | cons c rest =>
    have hfirst : ∀ d, (c :: rest ++ after).head? = some d → isBlank d = false := h.first
    rw [trim, List.append_assoc, trimStart_padded hb hfirst, trimEnd_padded ha h.last]

theorem trim_eq_self (h : IsTrimmed s) : trim s = s := by
  have hnone : AllBlank [] := List.forall_mem_nil _
  simpa using trim_padded hnone hnone h

end IndexerTypes.Text
