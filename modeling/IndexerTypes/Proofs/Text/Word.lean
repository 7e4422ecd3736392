import IndexerTypes.Text.Identifier
import Mathlib.Data.List.Basic
import Mathlib.Data.List.TakeDrop

/-! # Words at the front of a text, marks at its end, and lines

A word ends where a character stands that it cannot hold, so it can be taken off the front of any
text that goes on with such a character (`span_append`). For identifiers, this is each character
that is no part of one (`span_identifier`). A mark is taken off the end of a text, and it is not
found at the end of a text that lacks one of its characters (`isSuffixOf?_eq_none`). A number tells
the words that end with it apart (`numbered_inj`). -/

namespace IndexerTypes.Text

theorem span_append {p : Char → Bool} {word rest : List Char} (hw : ∀ c ∈ word, p c = true)
    (hr : ∀ c tail, rest = c :: tail → p c = false) :
    (word ++ rest).span p = (word, rest) := by
  rw [List.span_eq_takeWhile_dropWhile, List.takeWhile_append_of_pos hw,
    List.dropWhile_append_of_pos hw]
  cases rest with
  | nil => simp
  | cons c tail => simp [hr c tail rfl]

theorem isSuffixOf?_append (text mark : List Char) : mark.isSuffixOf? (text ++ mark) = some text :=
  List.isSuffixOf?_eq_some_iff_append_eq.mpr rfl

theorem isSuffixOf?_eq_none {mark text : List Char} {c : Char} (hm : c ∈ mark) (ht : c ∉ text) :
    mark.isSuffixOf? text = none := by
  cases h : mark.isSuffixOf? text with
  | none => rfl
  | some rest =>
    rw [← List.isSuffixOf?_eq_some_iff_append_eq.mp h] at ht
    exact absurd (List.mem_append_right rest hm) ht

variable {name : String} {rest : List Char}

/-- The text does not go on with a character of an identifier. -/
def EndsWord (rest : List Char) : Prop := ∀ c tail, rest = c :: tail → isIdentifierPart c = false

theorem endsWord_cons {c : Char} (tail : List Char) (hc : isIdentifierPart c = false) :
    EndsWord (c :: tail) := by
  intro d other he
  obtain ⟨rfl, -⟩ := List.cons.inj he
  exact hc

theorem isIdentifierPart_of_mem (h : isIdentifier name = true) {c : Char} (hc : c ∈ name.toList) :
    isIdentifierPart c = true := by
  obtain ⟨first, tail, hl, hf, ht⟩ := isIdentifier_iff.mp h
  rw [hl] at hc
  rcases List.mem_cons.mp hc with rfl | hc
  · exact isIdentifierPart_of_start hf
  · exact ht c hc

theorem ne_nil_of_isIdentifier (h : isIdentifier name = true) : name.toList ≠ [] := by
  obtain ⟨first, tail, hl, -⟩ := isIdentifier_iff.mp h
  simp [hl]

/-- What cannot stand in an identifier does not. -/
theorem not_mem_of_isIdentifier (h : isIdentifier name = true) {c : Char}
    (hc : isIdentifierPart c = false) : c ∉ name.toList := by
  intro hm
  rw [isIdentifierPart_of_mem h hm] at hc
  cases hc

theorem isIdentifier_append {other : String} (h : isIdentifier name = true)
    (ho : other.toList.all isIdentifierPart = true) : isIdentifier (name ++ other) = true := by
  obtain ⟨first, tail, hl, hf, ht⟩ := isIdentifier_iff.mp h
  refine isIdentifier_iff.mpr ⟨first, tail ++ other.toList, by simp [hl], hf, ?_⟩
  intro c hc
  rcases List.mem_append.mp hc with hc | hc
  · exact ht c hc
  · exact List.all_eq_true.mp ho c hc

theorem span_identifier (h : isIdentifier name = true) (hr : EndsWord rest) :
    (name.toList ++ rest).span isIdentifierPart = (name.toList, rest) :=
  span_append (fun _ => isIdentifierPart_of_mem h) hr

theorem toString_inj {m n : Nat} : toString m = toString n ↔ m = n := by
  refine ⟨fun h => ?_, congrArg toString⟩
  have hdigits := congrArg (fun s => Nat.ofDigitChars 10 s.toList 0) h
  simpa [Nat.toString_eq_ofList_toDigits] using hdigits

/-- Words that start alike and end with a number are equal just if the numbers are. -/
theorem numbered_inj (base : String) {m n : Nat} :
    base ++ toString m = base ++ toString n ↔ m = n := by
  rw [String.append_right_inj, toString_inj]

theorem not_mem_toString {c : Char} (hc : c.isDigit = false) (n : Nat) :
    c ∉ (toString n).toList := by
  rw [Nat.toString_eq_ofList_toDigits, String.toList_ofList]
  intro hm
  rw [Nat.isDigit_of_mem_toDigits (by decide) (by decide) hm] at hc
  cases hc

/-- No piece of a text holds the mark that the text is split at. -/
theorem not_mem_of_mem_splitOn {mark : Char} {s piece : List Char} (h : piece ∈ s.splitOn mark) :
    mark ∉ piece := by
  induction s generalizing piece with
  | nil =>
    simp only [List.splitOn_nil, List.mem_singleton] at h
    simp [h]
  | cons c s ih =>
    rw [List.splitOn_cons_eq_if_modifyHead] at h
    split at h
    · rcases List.mem_cons.mp h with rfl | h
      · simp
      · exact ih h
    · rename_i hc
      cases hs : s.splitOn mark with
      | nil => exact absurd hs (List.splitOn_ne_nil _ _)
      | cons first rest =>
        rw [hs, List.modifyHead_cons] at h
        rcases List.mem_cons.mp h with rfl | h
        · have hfirst : first ∈ s.splitOn mark := by simp [hs]
          have := ih hfirst
          simp only [List.mem_cons, not_or]
          exact ⟨fun he => hc (by simp [← he]), this⟩
        · exact ih (by simp [hs, h])

/-- Lines are told apart by their ends. -/
theorem splitOn_lines {lines : List String} (h : ∀ line ∈ lines, '\n' ∉ line.toList) :
    (String.join (lines.map (· ++ "\n"))).toList.splitOn '\n' =
      lines.map String.toList ++ [[]] := by
  induction lines with
  | nil => rfl
  | cons line lines ih =>
    obtain ⟨hline, hlines⟩ := List.forall_mem_cons.mp h
    have ht : (String.join ((line :: lines).map (· ++ "\n"))).toList =
        line.toList ++ '\n' :: (String.join (lines.map (· ++ "\n"))).toList := by
      rw [List.map_cons, String.join_cons, String.toList_append, String.toList_append,
        List.append_assoc]
      rfl
    rw [ht, List.splitOn_append_cons_self, List.splitOn_eq_singleton hline, ih hlines]
    rfl

end IndexerTypes.Text
