/-! What a text starts with, ends with and contains. -/

namespace IndexerTypes.Text

/-- All copies of a character at the end are dropped. -/
def dropTrailing (c : Char) (s : List Char) : List Char :=
  (s.reverse.dropWhile (· == c)).reverse

theorem dropTrailing_of_getLast {c d : Char} {s : List Char} (h : d ≠ c) :
    dropTrailing c (s ++ [d]) = s ++ [d] := by
  simp [dropTrailing, h]

theorem dropTrailing_concat (c : Char) (s : List Char) :
    dropTrailing c (s ++ [c]) = dropTrailing c s := by
  simp [dropTrailing]

def hasInfix (part : List Char) : List Char → Bool
  | [] => part.isEmpty
  | c :: rest => part.isPrefixOf (c :: rest) || hasInfix part rest

theorem hasInfix_iff {part s : List Char} :
    hasInfix part s = true ↔ ∃ before after, s = before ++ part ++ after := by
  induction s with
  | nil => simp [hasInfix, List.isEmpty_iff]
  | cons c rest ih =>
    simp only [hasInfix, Bool.or_eq_true, List.isPrefixOf_iff_prefix, ih]
    constructor
    · rintro (⟨after, h⟩ | ⟨before, after, h⟩)
      · exact ⟨[], after, by simpa using h.symm⟩
      · exact ⟨c :: before, after, by simp [h]⟩
    · rintro ⟨before, after, h⟩
      cases before with
      | nil => exact .inl ⟨after, by simpa using h.symm⟩
      | cons d before => exact .inr ⟨before, after, by simpa using (List.cons.inj h).2⟩

end IndexerTypes.Text
