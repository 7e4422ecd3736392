import IndexerTypes.Json.Reader
import IndexerTypes.Proofs.Json.Tokens

/-! # A written document reads back

The tokens of a document read as the document, and by `scans_render` its text scans into
these tokens. So reading undoes printing for every document without floats
(`read?_render`). -/

namespace IndexerTypes.Json

/-! ## Reading the tokens of a document -/

/-- No document starts like the end of a list, so a list with items is not taken for an
empty one. -/
theorem tokens_head (v : Json) :
    ∃ first tail, v.tokens = first :: tail ∧ first ≠ .closeBracket ∧ first ≠ .closeBrace := by
  cases v <;> simp [tokens]

theorem itemTokens_cons (v : Json) (items : List Json) (rest : List Token) :
    ∃ tail, itemTokens (v :: items) ++ rest = v.tokens ++ tail := by
  cases items with
  | nil => exact ⟨rest, rfl⟩
  | cons w items => exact ⟨_, by simp [itemTokens]; rfl⟩

theorem memberTokens_cons (key : String) (v : Json) (members : List (String × Json)) :
    ∃ tail, memberTokens ((key, v) :: members) = .quotation (some key.toList) :: tail := by
  cases members with
  | nil => exact ⟨_, rfl⟩
  | cons m members => exact ⟨_, rfl⟩

theorem readValue_items {fuel : Nat} {v : Json} {items : List Json} {rest : List Token} :
    readValue (fuel + 1) (.openBracket :: (itemTokens (v :: items) ++ rest)) =
      (readItems fuel (itemTokens (v :: items) ++ rest)).map fun (items, rest) =>
        (.array items, rest) := by
  obtain ⟨tail, ht⟩ := itemTokens_cons v items rest
  obtain ⟨first, ts, hv, hb, -⟩ := tokens_head v
  rw [ht, hv, List.cons_append]
  cases first <;> first | exact absurd rfl hb | rfl

theorem readValue_members {fuel : Nat} {m : String × Json} {members : List (String × Json)}
    {rest : List Token} :
    readValue (fuel + 1) (.openBrace :: (memberTokens (m :: members) ++ rest)) =
      (readMembers fuel (memberTokens (m :: members) ++ rest)).map fun (members, rest) =>
        (ofMembers members, rest) := by
  obtain ⟨tail, ht⟩ := memberTokens_cons m.1 m.2 members
  rw [ht]
  rfl

/-- Members as they are read, each key as a text of its own. -/
def keyed (members : List (String × Json)) : List (Option (List Char) × Json) :=
  members.map fun m => (some m.1.toList, m.2)

theorem withKeys?_keyed (members : List (String × Json)) :
    withKeys? (keyed members) = some members := by
  induction members with
  | nil => rfl
  | cons m members ih =>
    have : keyed (m :: members) = (some m.1.toList, m.2) :: keyed members := rfl
    simp [this, withKeys?, ih]

theorem ofMembers_keyed (members : List (String × Json)) :
    ofMembers (keyed members) = .object members := by
  simp [ofMembers, withKeys?_keyed]

mutual

/-- Twice as much fuel as there are tokens is enough: each token costs at most one step for
the list that it is in and one for itself. -/
theorem readValue_tokens : ∀ (v : Json) (fuel : Nat) (rest : List Token),
    2 * v.tokens.length ≤ fuel → readValue fuel (v.tokens ++ rest) = some (v, rest)
  | v, 0, _, h => by
    obtain ⟨_, _, hv, -⟩ := tokens_head v
    simp [hv] at h
  | null, fuel + 1, _, _ => by simp [tokens, readValue]
  | bool _, fuel + 1, _, _ => by simp [tokens, readValue]
  | number _, fuel + 1, _, _ => by simp [tokens, readValue]
  | unreadable, fuel + 1, _, _ => by simp [tokens, readValue]
  | text s, fuel + 1, _, _ => by simp [tokens, readValue, ofQuotation]
  | array [], fuel + 1, _, _ => by simp [tokens, itemTokens, readValue]
  | array (v :: items), fuel + 1, rest, h => by
    simp only [tokens, List.length_cons, List.length_append, List.length_nil] at h
    have hi := readItems_tokens v items fuel rest (by omega)
    simp only [tokens, List.cons_append, List.append_assoc, List.nil_append]
    rw [readValue_items, hi]
    rfl
  | object [], fuel + 1, _, _ => by simp [tokens, memberTokens, readValue]
  | object (m :: members), fuel + 1, rest, h => by
    simp only [tokens, List.length_cons, List.length_append, List.length_nil] at h
    have hm := readMembers_tokens m members fuel rest (by omega)
    simp only [tokens, List.cons_append, List.append_assoc, List.nil_append]
    rw [readValue_members, hm]
    simp [ofMembers_keyed]

theorem readItems_tokens : ∀ (v : Json) (items : List Json) (fuel : Nat) (rest : List Token),
    2 * (itemTokens (v :: items)).length < fuel →
      readItems fuel (itemTokens (v :: items) ++ .closeBracket :: rest) =
        some (v :: items, rest)
  | _, _, 0, _, h => by omega
  | v, [], fuel + 1, rest, h => by
    simp only [itemTokens] at h ⊢
    rw [readItems, readValue_tokens v fuel _ (by omega)]
  | v, w :: items, fuel + 1, rest, h => by
    simp only [itemTokens, List.length_append, List.length_cons] at h
    have hw := readItems_tokens w items fuel rest (by omega)
    simp only [itemTokens, List.append_assoc, List.cons_append]
    rw [readItems, readValue_tokens v fuel _ (by omega)]
    simp [hw]

theorem readMembers_tokens : ∀ (m : String × Json) (members : List (String × Json))
    (fuel : Nat) (rest : List Token), 2 * (memberTokens (m :: members)).length < fuel →
      readMembers fuel (memberTokens (m :: members) ++ .closeBrace :: rest) =
        some (keyed (m :: members), rest)
  | _, _, 0, _, h => by omega
  | (key, v), [], fuel + 1, rest, h => by
    simp only [memberTokens, List.length_cons] at h
    simp only [memberTokens, List.cons_append]
    rw [readMembers, readKey]
    simp only
    rw [readValue_tokens v fuel _ (by omega)]
    rfl
  | (key, v), m :: members, fuel + 1, rest, h => by
    simp only [memberTokens, List.length_append, List.length_cons] at h
    have hm := readMembers_tokens m members fuel rest (by omega)
    simp only [memberTokens, List.append_assoc, List.cons_append]
    rw [readMembers, readKey]
    simp only
    rw [readValue_tokens v fuel _ (by omega)]
    simp [hm, keyed]

end

theorem ofTokens?_tokens (v : Json) : ofTokens? v.tokens = some v := by
  have h := readValue_tokens v (2 * v.tokens.length + 1) [] (by omega)
  rw [List.append_nil] at h
  simp [ofTokens?, h]

/-! ## Reading what is printed -/

/-- A document without floats is read back from its text, which may end with a new line. -/
theorem read?_render {v : Json} (hv : v.IsExact) (level : Nat) :
    read? (v.render level ++ "\n") = some v := by
  have hs := scans_render v level hv (stops_line []) (.space (by decide) Token.scans_nil)
  have hf := hs _ (Nat.le_refl _)
  rw [List.append_nil] at hf
  unfold read? Token.ofText
  rw [String.toList_append]
  exact (congrArg (Option.bind · ofTokens?) hf).trans (ofTokens?_tokens v)

end IndexerTypes.Json
