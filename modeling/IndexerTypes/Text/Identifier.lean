/-! Identifiers: names that can stand in a declaration and serve as one component of a
file name. Only ASCII letters, digits, the underscore and the dollar sign are allowed. -/

namespace IndexerTypes.Text

def isIdentifierStart (c : Char) : Bool := c.isAlpha || c == '_' || c == '$'

def isIdentifierPart (c : Char) : Bool := isIdentifierStart c || c.isDigit

def isIdentifier (s : String) : Bool :=
  match s.toList with
  | [] => false
  | c :: rest => isIdentifierStart c && rest.all isIdentifierPart

theorem isIdentifierPart_of_start {c : Char} (h : isIdentifierStart c = true) :
    isIdentifierPart c = true := by
  simp [isIdentifierPart, h]

theorem isIdentifier_iff {s : String} :
    isIdentifier s = true ↔
      ∃ c rest, s.toList = c :: rest ∧ isIdentifierStart c = true ∧
        ∀ d ∈ rest, isIdentifierPart d = true := by
  cases h : s.toList with
  | nil => simp [isIdentifier, h]
  | cons c rest =>
    simp only [isIdentifier, h, Bool.and_eq_true, List.all_eq_true]
    constructor
    · intro word
      exact ⟨c, rest, rfl, word⟩
    · rintro ⟨d, tail, same, word⟩
      cases same
      exact word

end IndexerTypes.Text
