import IndexerTypes.Abi.Basic
import IndexerTypes.Proofs.Text.Trim

/-! # Base names of events

The base name of a signature ends before its first parenthesis. So it is the same for a name and
for every signature that starts with this name (`baseName_of_spells`), whatever blanks are around
the name and whatever parameters are behind it. -/

namespace IndexerTypes.Abi

/-- Nothing, or parameters from the opening parenthesis on. -/
def IsParams (s : List Char) : Prop := s = [] ∨ ∃ rest, s = '(' :: rest

/-- The signature is the name, perhaps with blanks around it, and perhaps with parameters. -/
def Spells (signature name : String) : Prop :=
  ∃ before after params, Text.AllBlank before ∧ Text.AllBlank after ∧ IsParams params ∧
    signature.toList = before ++ name.toList ++ after ++ params

theorem takeWhile_params {s params : List Char} (hp : IsParams params) :
    (s ++ params).takeWhile (· ≠ '(') = s.takeWhile (· ≠ '(') := by
  rcases hp with rfl | ⟨rest, rfl⟩
  · rw [List.append_nil]
  · induction s with
    | nil => simp
    | cons c s ih =>
      rw [List.cons_append, List.takeWhile_cons, List.takeWhile_cons, ih]

/-- Of an event, the base name depends on the name alone. -/
theorem baseName_signature (e : Event) : baseName e.signature = baseName e.name := by
  have hs : e.signature.toList =
      e.name.toList ++ '(' :: (commaJoined (signatureTypes e.inputs) ++ ")").toList := by
    simp [Event.signature]
  rw [baseName, hs, takeWhile_params (.inr ⟨_, rfl⟩), baseName]

theorem toList_baseName (signature : String) :
    (baseName signature).toList = Text.trim (signature.toList.takeWhile (· ≠ '(')) :=
  String.toList_ofList

theorem isTrimmed_baseName (signature : String) : Text.IsTrimmed (baseName signature).toList := by
  rw [toList_baseName]
  exact Text.isTrimmed_trim _

theorem parenthesis_not_mem_baseName (signature : String) :
    '(' ∉ (baseName signature).toList := by
  rw [toList_baseName]
  intro hm
  simpa using List.mem_takeWhile_imp ((Text.isInfix_trim _).subset hm)

theorem parenthesis_not_blank {s : List Char} (h : Text.AllBlank s) : '(' ∉ s := fun hm =>
  absurd (h '(' hm) (by decide)

/-- A spelling of a base name has this base name. -/
theorem baseName_of_spells {signature other : String} (h : Spells signature (baseName other)) :
    baseName signature = baseName other := by
  obtain ⟨before, after, params, hb, ha, hp, hs⟩ := h
  have hopen : ∀ c ∈ before ++ (baseName other).toList ++ after, decide (c ≠ '(') = true := by
    intro c hc
    rw [decide_eq_true_eq]
    rintro rfl
    simp only [List.mem_append] at hc
    rcases hc with (hc | hc) | hc
    · exact parenthesis_not_blank hb hc
    · exact parenthesis_not_mem_baseName other hc
    · exact parenthesis_not_blank ha hc
  have htake := List.takeWhile_eq_self_iff.mpr hopen
  rw [baseName, hs, takeWhile_params hp, htake,
    Text.trim_padded hb ha (isTrimmed_baseName other), String.ofList_toList]

example : baseName "\tFilled (indexed address maker, uint256)" = "Filled" := by decide

end IndexerTypes.Abi
