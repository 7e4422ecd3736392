import IndexerTypes.Json.Printer
import IndexerTypes.Proofs.Json.Quotation
import IndexerTypes.Json.Token
import IndexerTypes.Proofs.Text.Word

/-! # A written document scans into its tokens

Each document has a list of tokens of its own. The text that the printer makes of the
document scans into just these tokens, whatever is indented how far, and the scan goes on
behind the text. Floats are left out: their text is rounded. -/

namespace IndexerTypes.Json

/-! ## Documents without floats -/

mutual

/-- Every number of the document is a whole number of 64 bits, and every part has a value. -/
def IsExact : Json → Prop
  | number (.natural n) => n < Nat.pow 2 64
  | number (.negative n) => 0 < n ∧ n ≤ Nat.pow 2 63
  | number (.real _) => False
  | unreadable => False
  | array items => AreExact items
  | object members => HaveExactValues members
  | _ => True

def AreExact : List Json → Prop
  | [] => True
  | v :: rest => v.IsExact ∧ AreExact rest

def HaveExactValues : List (String × Json) → Prop
  | [] => True
  | (_, v) :: rest => v.IsExact ∧ HaveExactValues rest

end

theorem areExact_iff {items : List Json} : AreExact items ↔ ∀ v ∈ items, v.IsExact := by
  induction items with
  | nil => simp [AreExact]
  | cons v rest ih => simp [AreExact, ih]

/-! ## Numerals -/

namespace Numeral

/-- What follows a numeral and is no part of it. -/
def Stops (rest : List Char) : Prop :=
  ∀ c tail, rest = c :: tail → c.isDigit = false ∧ c ≠ '.' ∧ c ≠ 'e' ∧ c ≠ 'E'

theorem stops_cons {c : Char} {tail : List Char} (hd : c.isDigit = false) (hp : c ≠ '.')
    (he : c ≠ 'e') (hE : c ≠ 'E') : Stops (c :: tail) := by
  intro d r h
  obtain ⟨rfl, rfl⟩ := List.cons.inj h
  exact ⟨hd, hp, he, hE⟩

theorem digitsOf_append {digits rest : List Char} (hd : ∀ c ∈ digits, c.isDigit = true)
    (hr : Stops rest) : digitsOf (digits ++ rest) = (digits, rest) :=
  Text.span_append hd fun c tail he => (hr c tail he).1

theorem digitChar_ne_zero : ∀ n, n < 10 → 0 < n → n.digitChar ≠ '0' := by decide

/-- A positive number is written without a leading zero. -/
theorem head?_toDigits {n : Nat} (h : 0 < n) : (Nat.toDigits 10 n).head? ≠ some '0' := by
  induction n using Nat.strongRecOn with
  | ind n ih =>
    by_cases hn : n < 10
    · rw [Nat.toDigits_of_lt_base hn]
      simpa using digitChar_ne_zero n hn h
    · rw [Nat.toDigits_of_base_le (by decide) (by omega), List.head?_append]
      have hq := ih (n / 10) (by omega) (by omega)
      cases hd : Nat.toDigits 10 (n / 10) with
      | nil => exact absurd hd Nat.toDigits_ne_nil
      | cons d ds => simpa [hd] using hq

theorem isDigit_of_mem_toDigits (n : Nat) : ∀ c ∈ Nat.toDigits 10 n, c.isDigit = true :=
  fun _ h => Nat.isDigit_of_mem_toDigits (by decide) (by decide) h

theorem readWhole_toDigits (n : Nat) {rest : List Char} (hr : Stops rest) :
    readWhole (Nat.toDigits 10 n ++ rest) = some (Nat.toDigits 10 n, rest) := by
  unfold readWhole
  rw [digitsOf_append (isDigit_of_mem_toDigits n) hr]
  by_cases hn : n = 0
  · subst hn
    rfl
  · have hh := head?_toDigits (Nat.pos_of_ne_zero hn)
    split <;> simp_all

theorem readFraction_stops {rest : List Char} (hr : Stops rest) :
    readFraction rest = some (none, rest) := by
  unfold readFraction
  split
  · exact absurd rfl (hr _ _ rfl).2.1
  · rfl

theorem readExponent_stops {rest : List Char} (hr : Stops rest) :
    readExponent rest = some (none, rest) := by
  cases rest with
  | nil => rfl
  | cons c tail =>
    obtain ⟨-, -, he, hE⟩ := hr c tail rfl
    simp [readExponent, he, hE]

theorem readUnsigned_toDigits (negative : Bool) (n : Nat) {rest : List Char} (hr : Stops rest) :
    readUnsigned negative (Nat.toDigits 10 n ++ rest) =
      some (⟨negative, Nat.toDigits 10 n, none, none⟩, rest) := by
  simp [readUnsigned, readWhole_toDigits n hr, readFraction_stops hr, readExponent_stops hr]

theorem natOf_toDigits (n : Nat) : natOf (Nat.toDigits 10 n) = n := by simp [natOf]

theorem value_natural {n : Nat} (h : n < Nat.pow 2 64) :
    value ⟨false, Nat.toDigits 10 n, none, none⟩ = .number (.natural n) := by
  unfold value
  dsimp only
  rw [natOf_toDigits, decide_eq_true h]
  rfl

theorem value_negative {n : Nat} (hpos : 0 < n) (h : n ≤ Nat.pow 2 63) :
    value ⟨true, Nat.toDigits 10 n, none, none⟩ = .number (.negative n) := by
  unfold value
  dsimp only
  rw [natOf_toDigits, decide_eq_true hpos, decide_eq_true h]
  simp

end Numeral

/-! ## Scanning -/

namespace Token

/-- The text scans into the tokens, with any fuel that its length allows. -/
def Scans (s : List Char) (tokens : List Token) : Prop :=
  ∀ fuel, s.length ≤ fuel → scan fuel s = some tokens

theorem scans_nil : Scans [] [] := fun fuel _ => by cases fuel <;> rfl

theorem Scans.space {c : Char} {s : List Char} {tokens : List Token} (hc : isSpace c = true)
    (hs : Scans s tokens) : Scans (c :: s) tokens := by
  intro fuel hf
  cases fuel with
  | zero => simp at hf
  | succ fuel =>
    rw [scan, if_pos hc]
    exact hs fuel (by simpa using hf)

theorem Scans.spaces {s : List Char} {tokens : List Token} (n : Nat) (hs : Scans s tokens) :
    Scans (List.replicate n ' ' ++ s) tokens := by
  induction n with
  | zero => exact hs
  | succ n ih => exact .space (by decide) ih

/-- One token in front of a text that scans. -/
theorem Scans.token {c : Char} {s rest : List Char} {token : Token} {tokens : List Token}
    (hc : isSpace c = false) (hf : first (c :: s) = some (token, rest))
    (hl : rest.length ≤ s.length) (hs : Scans rest tokens) :
    Scans (c :: s) (token :: tokens) := by
  intro fuel hfuel
  cases fuel with
  | zero => simp at hfuel
  | succ fuel =>
    have hrest : rest.length ≤ fuel := by
      have := hfuel
      simp only [List.length_cons] at this
      omega
    simp [scan, hc, hf, hs fuel hrest]

/-- A mark is a token by itself. -/
theorem Scans.mark {c : Char} {s : List Char} {token : Token} {tokens : List Token}
    (hc : isSpace c = false) (hf : first (c :: s) = some (token, s)) (hs : Scans s tokens) :
    Scans (c :: s) (token :: tokens) := .token hc hf (Nat.le_refl _) hs

theorem Scans.quotation {s rest : List Char} {tokens : List Token} (hs : Scans rest tokens) :
    Scans (Quotation.quote s ++ rest) (.quotation (some s) :: tokens) := by
  have hr := Quotation.read_quote s rest
  have ht : Quotation.quote s ++ rest = '"' :: (s.flatMap Quotation.write ++ '"' :: rest) := by
    simp [Quotation.quote]
  rw [ht]
  refine .token (by decide) ?_ ?_ hs
  · simp [first, hr]
  · simp only [List.length_append, List.length_cons]
    omega

theorem first_digit {c : Char} (s : List Char) (hc : c.isDigit = true) :
    first (c :: s) = (Numeral.read (c :: s)).map fun (n, rest) => (.leaf n.value, rest) := by
  rw [first.eq_def]
  split <;> simp_all

theorem isSpace_of_isDigit {c : Char} (hc : c.isDigit = true) : isSpace c = false := by
  unfold isSpace
  simp only [Bool.or_eq_false_iff, beq_eq_false_iff_ne]
  refine ⟨⟨⟨?_, ?_⟩, ?_⟩, ?_⟩ <;> (rintro rfl; revert hc; decide)

theorem read_toDigits (n : Nat) {rest : List Char} (hr : Numeral.Stops rest) :
    Numeral.read (Nat.toDigits 10 n ++ rest) =
      some (⟨false, Nat.toDigits 10 n, none, none⟩, rest) := by
  rw [← Numeral.readUnsigned_toDigits false n hr]
  unfold Numeral.read
  split
  · rename_i s hs
    cases hd : Nat.toDigits 10 n with
    | nil => exact absurd hd Nat.toDigits_ne_nil
    | cons d ds =>
      have hdigit := Numeral.isDigit_of_mem_toDigits n d (by simp [hd])
      rw [hd, List.cons_append] at hs
      rw [(List.cons.inj hs).1] at hdigit
      exact absurd hdigit (by decide)
  · rfl

theorem Scans.natural {n : Nat} {rest : List Char} {tokens : List Token} (hn : n < Nat.pow 2 64)
    (hr : Numeral.Stops rest) (hs : Scans rest tokens) :
    Scans (Nat.toDigits 10 n ++ rest) (.leaf (.number (.natural n)) :: tokens) := by
  have hread := read_toDigits n hr
  cases hd : Nat.toDigits 10 n with
  | nil => exact absurd hd Nat.toDigits_ne_nil
  | cons d ds =>
    have hdigit := Numeral.isDigit_of_mem_toDigits n d (by simp [hd])
    have hvalue := Numeral.value_natural hn
    rw [hd] at hread hvalue
    refine .token (isSpace_of_isDigit hdigit) ?_ (by simp) hs
    have hfirst := first_digit (ds ++ rest) hdigit
    rw [← List.cons_append, hread] at hfirst
    simpa [hvalue] using hfirst

theorem Scans.negative {n : Nat} {rest : List Char} {tokens : List Token} (hpos : 0 < n)
    (hn : n ≤ Nat.pow 2 63) (hr : Numeral.Stops rest) (hs : Scans rest tokens) :
    Scans ('-' :: (Nat.toDigits 10 n ++ rest)) (.leaf (.number (.negative n)) :: tokens) := by
  refine .token (by decide) ?_ (by simp) hs
  have hread := Numeral.readUnsigned_toDigits true n hr
  simp [first, Numeral.read, hread, Numeral.value_negative hpos hn]

end Token

/-! ## The tokens of a document -/

mutual

def tokens : Json → List Token
  | text s => [.quotation (some s.toList)]
  | array items => .openBracket :: (itemTokens items ++ [.closeBracket])
  | object members => .openBrace :: (memberTokens members ++ [.closeBrace])
  | v => [.leaf v]

def itemTokens : List Json → List Token
  | [] => []
  | [v] => v.tokens
  | v :: rest => v.tokens ++ .comma :: itemTokens rest

def memberTokens : List (String × Json) → List Token
  | [] => []
  | [(key, v)] => .quotation (some key.toList) :: .colon :: v.tokens
  | (key, v) :: rest =>
    .quotation (some key.toList) :: .colon :: (v.tokens ++ .comma :: memberTokens rest)

end

/-! ## Scanning what is printed -/

theorem toList_indent (level : Nat) : (indent level).toList = List.replicate (2 * level) ' ' := by
  simp [indent]

theorem toList_renderText (s : String) : (renderText s).toList = Quotation.quote s.toList := by
  simp [renderText]

/-- A new line and its indentation are no tokens. -/
theorem scans_line {s : List Char} {ts : List Token} (level : Nat) (hs : Token.Scans s ts) :
    Token.Scans ('\n' :: ((indent level).toList ++ s)) ts := by
  rw [toList_indent]
  exact .space (by decide) (.spaces _ hs)

theorem stops_line (s : List Char) : Numeral.Stops ('\n' :: s) :=
  Numeral.stops_cons (by decide) (by decide) (by decide) (by decide)

theorem stops_comma (s : List Char) : Numeral.Stops (',' :: s) :=
  Numeral.stops_cons (by decide) (by decide) (by decide) (by decide)

theorem scans_key {s : List Char} {ts : List Token} (level : Nat) (key : String)
    (hs : Token.Scans s ts) :
    Token.Scans ('\n' :: ((indent level).toList ++ ((renderText key).toList ++ ':' :: ' ' :: s)))
      (.quotation (some key.toList) :: .colon :: ts) := by
  rw [toList_renderText]
  refine scans_line level (.quotation ?_)
  exact .mark (by decide) rfl (.space (by decide) hs)

mutual

theorem scans_render : ∀ (v : Json) (level : Nat) {rest : List Char} {ts : List Token},
    v.IsExact → Numeral.Stops rest → Token.Scans rest ts →
      Token.Scans ((v.render level).toList ++ rest) (v.tokens ++ ts)
  | null, _, _, _, _, _, hs => by
    simp only [render, tokens]
    exact .token (by decide) rfl (by simp; omega) hs
  | bool true, _, _, _, _, _, hs => by
    simp only [render, tokens]
    exact .token (by decide) rfl (by simp; omega) hs
  | bool false, _, _, _, _, _, hs => by
    simp only [render, tokens]
    exact .token (by decide) rfl (by simp; omega) hs
  | number (.natural n), _, _, _, hv, hr, hs => by
    simp only [IsExact] at hv
    simpa [render, renderNumber, tokens] using Token.Scans.natural hv hr hs
  | number (.negative n), _, _, _, hv, hr, hs => by
    simp only [IsExact] at hv
    simpa [render, renderNumber, tokens] using Token.Scans.negative hv.1 hv.2 hr hs
  | number (.real _), _, _, _, hv, _, _ => by simp [IsExact] at hv
  | unreadable, _, _, _, hv, _, _ => by simp [IsExact] at hv
  | text s, _, _, _, _, _, hs => by
    simp only [render, tokens, toList_renderText]
    exact .quotation hs
  | array [], _, _, _, _, _, hs => by
    simp only [render, tokens, itemTokens]
    exact .mark (by decide) rfl (.mark (by decide) rfl hs)
  | array (v :: items), level, _, _, hv, _, hs => by
    simp only [IsExact] at hv
    have hclose := scans_line level (.mark (c := ']') (by decide) rfl hs)
    have hitems := scans_renderItems (v :: items) (level + 1) hv (stops_line _) hclose
    simpa [render, tokens] using Token.Scans.mark (c := '[') (by decide) rfl hitems
  | object [], _, _, _, _, _, hs => by
    simp only [render, tokens, memberTokens]
    exact .mark (by decide) rfl (.mark (by decide) rfl hs)
  | object (m :: members), level, _, _, hv, _, hs => by
    simp only [IsExact] at hv
    have hclose := scans_line level (.mark (c := '\x7d') (by decide) rfl hs)
    have hmembers := scans_renderMembers (m :: members) (level + 1) hv (stops_line _) hclose
    simpa [render, tokens] using Token.Scans.mark (c := '\x7b') (by decide) rfl hmembers

theorem scans_renderItems : ∀ (items : List Json) (level : Nat) {rest : List Char}
    {ts : List Token}, AreExact items → Numeral.Stops rest → Token.Scans rest ts →
      Token.Scans ((renderItems level items).toList ++ rest) (itemTokens items ++ ts)
  | [], _, _, _, _, _, hs => by simpa [renderItems, itemTokens] using hs
  | [v], level, _, _, hv, hr, hs => by
    have := scans_line level (scans_render v level hv.1 hr hs)
    simpa [renderItems, itemTokens] using this
  | v :: w :: items, level, _, _, hv, hr, hs => by
    have hrest := Token.Scans.mark (c := ',') (by decide) rfl
      (scans_renderItems (w :: items) level hv.2 hr hs)
    have := scans_line level (scans_render v level hv.1 (stops_comma _) hrest)
    simpa [renderItems, itemTokens] using this

theorem scans_renderMembers : ∀ (members : List (String × Json)) (level : Nat)
    {rest : List Char} {ts : List Token}, HaveExactValues members → Numeral.Stops rest →
      Token.Scans rest ts →
        Token.Scans ((renderMembers level members).toList ++ rest) (memberTokens members ++ ts)
  | [], _, _, _, _, _, hs => by simpa [renderMembers, memberTokens] using hs
  | [(key, v)], level, _, _, hv, hr, hs => by
    have := scans_key level key (scans_render v level hv.1 hr hs)
    simpa [renderMembers, memberTokens] using this
  | (key, v) :: m :: members, level, _, _, hv, hr, hs => by
    have hrest := Token.Scans.mark (c := ',') (by decide) rfl
      (scans_renderMembers (m :: members) level hv.2 hr hs)
    have := scans_key level key (scans_render v level hv.1 (stops_comma _) hrest)
    simpa [renderMembers, memberTokens] using this

end

end IndexerTypes.Json
