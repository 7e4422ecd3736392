import IndexerTypes.Json.Quotation

/-! # A quotation reads back as what was quoted

Writing escapes the quote, the backslash and the control characters; reading undoes each
escape, so a quotation followed by anything gives its text and what follows. -/

namespace IndexerTypes.Json.Quotation

/-- The four digits of a control character's escape spell its code point. -/
theorem unit?_control {n : Nat} (h : n < 0x20) :
    unit? '0' '0' (lowHexDigit (n / 16)) (lowHexDigit (n % 16)) = some n := by
  revert n
  decide

/-- A plain character, one that is written as itself, is read as itself. -/
theorem read_plain {c : Char} (rest : List Char) (hq : c ≠ '"') (hb : c ≠ '\\')
    (hc : ¬ c.toNat < 0x20) : read (c :: rest) = (read rest).after c := by
  rw [read.eq_def]
  split
  case h_5 d tail _ same =>
    obtain ⟨rfl, rfl⟩ := List.cons.inj same
    rw [if_neg (by simp [hc, hb])]
  all_goals simp_all

theorem read_control {c : Char} (rest : List Char) (hc : c.toNat < 0x20) :
    read ('\\' :: 'u' :: '0' :: '0' :: lowHexDigit (c.toNat / 16) ::
      lowHexDigit (c.toNat % 16) :: rest) = (read rest).after c := by
  have hh : isHigh c.toNat = false := by simp [isHigh]; omega
  have hl : isLow c.toNat = false := by simp [isLow]; omega
  rw [read, unit?_control hc]
  simp [hh, hl]

/-- One written character, whatever follows it. -/
theorem read_write (c : Char) (rest : List Char) :
    read (write c ++ rest) = (read rest).after c := by
  unfold write
  split
  case h_8 hq hb _ _ _ _ _ =>
    split
    · rename_i hc
      exact read_control rest hc
    · rename_i hc
      exact read_plain rest hq hb hc
  all_goals simp [read, escape?]

/-- Behind its opening quote, a quotation reads as its text. -/
theorem read_quote (s rest : List Char) :
    read (s.flatMap write ++ '"' :: rest) = some (some s, rest) := by
  induction s with
  | nil => simp [read]
  | cons c s ih =>
    rw [List.flatMap_cons, List.append_assoc, read_write, ih]
    rfl

end IndexerTypes.Json.Quotation
