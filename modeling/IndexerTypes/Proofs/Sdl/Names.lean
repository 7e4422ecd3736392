import IndexerTypes.Sdl.Reader
import IndexerTypes.Text.Identifier

/-! # Names in a schema document

Every name in a document is one token of its text, and such a token is an identifier
(`spelled_ofText`). Reading only takes tokens off the front, so what is left stays spelled as it
was, and the names that are kept are identifiers (`named_of_read`). -/

namespace IndexerTypes.Sdl

/-- The names that a definition brings are identifiers. -/
def Definition.Named : Definition → Prop
  | .object type => Text.isIdentifier type.name = true ∧
      ∀ f ∈ type.fields, Text.isIdentifier f.name = true
  | .enum type => ∀ value ∈ type.values, Text.isIdentifier value = true
  | .other => True

/-- The names among the tokens are identifiers. -/
def Spelled (tokens : List Token) : Prop :=
  ∀ text, .name text ∈ tokens → Text.isIdentifier text = true

theorem spelled_nil : Spelled [] := fun _ h => nomatch h

theorem Spelled.of_subset {tokens rest : List Token} (h : Spelled tokens) (hr : rest ⊆ tokens) :
    Spelled rest := fun text hm => h text (hr hm)

theorem Spelled.tail {token : Token} {tokens : List Token} (h : Spelled (token :: tokens)) :
    Spelled tokens := h.of_subset (List.subset_cons_self token tokens)

theorem Spelled.drop {tokens : List Token} (h : Spelled tokens) (n : Nat) :
    Spelled (tokens.drop n) := h.of_subset (List.drop_subset n tokens)

/-! ## Tokens -/

namespace Token

theorem isIdentifier_name {c : Char} {word : List Char} (hc : isNameStart c = true)
    (hw : ∀ d ∈ word, isNamePart d = true) :
    Text.isIdentifier (String.ofList (c :: word)) = true := by
  have hstart : ∀ d, isNameStart d = true → Text.isIdentifierStart d = true := by
    intro d hd
    have hcases := Bool.or_eq_true_iff.mp hd
    simp only [Text.isIdentifierStart, Bool.or_eq_true]
    exact .inl hcases
  refine Text.isIdentifier_iff.mpr ⟨c, word, by simp, hstart c hc, fun d hd => ?_⟩
  rcases Bool.or_eq_true_iff.mp (hw d hd) with hpart | hpart
  · exact Text.isIdentifierPart_of_start (hstart d hpart)
  · simp [Text.isIdentifierPart, hpart]

theorem isIdentifier_of_first {s rest : List Char} {text : String}
    (h : first s = some (.name text, rest)) : Text.isIdentifier text = true := by
  unfold first at h
  split at h
  · cases h
  · simp at h
  · simp at h
  · cases h
  · rename_i c tail _ _ _
    split at h
    · cases h
    · split at h
      · rename_i hstart
        simp only [Option.some.injEq, Prod.mk.injEq, Token.name.injEq] at h
        rw [← h.1]
        exact isIdentifier_name hstart (List.all_eq_true.mp List.all_takeWhile)
      · split at h
        · split at h <;> simp at h
        · cases h

theorem spelled_scan {fuel : Nat} {s : List Char} {tokens : List Token}
    (h : scan fuel s = some tokens) : Spelled tokens := by
  induction fuel generalizing s tokens with
  | zero =>
    cases s with
    | nil =>
      obtain rfl := Option.some.inj h
      exact spelled_nil
    | cons c rest => cases h
  | succ fuel ih =>
    cases s with
    | nil =>
      obtain rfl := Option.some.inj h
      exact spelled_nil
    | cons c rest =>
      unfold scan at h
      split at h
      · exact ih h
      split at h
      · exact ih h
      obtain ⟨⟨token, left⟩, hfirst, h⟩ := Option.bind_eq_some_iff.mp h
      obtain ⟨others, hothers, h⟩ := Option.bind_eq_some_iff.mp h
      obtain rfl := Option.some.inj h
      intro text hmem
      rcases List.mem_cons.mp hmem with rfl | hmem
      · exact isIdentifier_of_first hfirst
      · exact ih hothers text hmem

theorem spelled_ofText {s : List Char} {tokens : List Token} (h : ofText s = some tokens) :
    Spelled tokens := spelled_scan (Option.filter_eq_some_iff.mp h).1

end Token

/-! ## What is read off spelled tokens -/

namespace Reader

variable {α β : Type} {P : α → Prop} {Q : β → Prop} {tokens : List Token}

/-- What is read has the property, and what is left is spelled. -/
def Gives (x : Option (α × List Token)) (P : α → Prop) : Prop :=
  ∀ a rest, x = some (a, rest) → P a ∧ Spelled rest

/-- From spelled tokens the reader gives what has the property. -/
def Yields (r : Parser α) (P : α → Prop) : Prop := ∀ tokens, Spelled tokens → Gives (r tokens) P

/-- The reader takes tokens off the front, whatever it makes of them. -/
def Passes (r : Parser α) : Prop := Yields r fun _ => True

theorem gives_none : Gives none P := nofun

theorem gives_some {a : α} (h : P a) (hs : Spelled tokens) : Gives (some (a, tokens)) P := by
  intro b rest he
  obtain ⟨rfl, rfl⟩ := Prod.mk.inj (Option.some.inj he)
  exact ⟨h, hs⟩

theorem Gives.bind {x : Option (α × List Token)} {f : α × List Token → Option (β × List Token)}
    (hx : Gives x P) (hf : ∀ a rest, P a → Spelled rest → Gives (f (a, rest)) Q) :
    Gives (x >>= f) Q := by
  intro b rest h
  obtain ⟨⟨a, middle⟩, ha, hb⟩ := Option.bind_eq_some_iff.mp h
  obtain ⟨hp, hm⟩ := hx a middle ha
  exact hf a middle hp hm b rest hb

theorem Gives.mono {R : α → Prop} {x : Option (α × List Token)} (h : Gives x P)
    (hr : ∀ a, P a → R a) : Gives x R := fun a rest he => ⟨hr a (h a rest he).1, (h a rest he).2⟩

/-! ## Marks and words -/

theorem passes_punctuator (c : Char) : Passes (punctuator c) := by
  intro tokens hs
  unfold punctuator
  split
  · split
    · exact gives_some trivial hs.tail
    · exact gives_none
  · exact gives_none

theorem yields_name : Yields name fun text => Text.isIdentifier text = true := by
  intro tokens hs
  unfold name
  split
  · exact gives_some (hs _ (by simp)) hs.tail
  · exact gives_none

theorem passes_name : Passes name := fun tokens hs => (yields_name tokens hs).mono fun _ _ => trivial

theorem passes_keyword (word : String) : Passes (keyword word) := by
  intro tokens hs
  unfold keyword
  split
  · split
    · exact gives_some trivial hs.tail
    · exact gives_none
  · exact gives_none

theorem spelled_skipPunctuator (c : Char) (hs : Spelled tokens) :
    Spelled (skipPunctuator c tokens) := by
  unfold skipPunctuator
  split
  · exact hs.drop 1
  · exact hs

theorem spelled_skipDescription (hs : Spelled tokens) : Spelled (skipDescription tokens) := by
  unfold skipDescription
  split
  · exact hs.tail
  · exact hs

/-! ## Lists of parts -/

theorem yields_upTo (close : Char) {part : Parser α} (h : Yields part P) (fuel : Nat) :
    Yields (upTo close part fuel) fun as => ∀ a ∈ as, P a := by
  induction fuel with
  | zero => exact fun tokens _ => gives_none
  | succ fuel ih =>
    intro tokens hs
    unfold upTo
    split
    · exact gives_some (by simp) (hs.drop 1)
    · refine (h tokens hs).bind fun a rest ha hs => ?_
      refine (ih rest hs).bind fun as rest has hs => ?_
      exact gives_some (List.forall_mem_cons.mpr ⟨ha, has⟩) hs

theorem yields_optionalBlock (opening close : Char) {part : Parser α} (h : Yields part P)
    (fuel : Nat) : Yields (optionalBlock opening close part fuel) fun as => ∀ a ∈ as, P a := by
  intro tokens hs
  have hall := yields_upTo close h fuel (tokens.drop 1) (hs.drop 1)
  unfold optionalBlock
  dsimp only
  split
  · split
    · exact gives_none
    · exact hall
  · exact gives_some (by simp) hs

theorem passes_optionalBlock (opening close : Char) {part : Parser α} (h : Passes part)
    (fuel : Nat) : Passes (optionalBlock opening close part fuel) := fun tokens hs =>
  (yields_optionalBlock opening close h fuel tokens hs).mono fun _ _ => trivial

theorem passes_names (mark : Char) (fuel : Nat) : Passes (names mark fuel) := by
  induction fuel with
  | zero => exact fun tokens _ => gives_none
  | succ fuel ih =>
    intro tokens hs
    unfold names
    refine (passes_name tokens hs).bind fun first rest _ hs => ?_
    dsimp only
    split
    · exact (ih _ (hs.drop 1)).bind fun others rest _ hs => gives_some trivial hs
    · exact gives_some trivial hs

/-! ## Values and directives -/

/-- Values, lists of values and members nest in one another, so one induction is on the fuel of
all three. -/
theorem passes_values (withVariables : Bool) (fuel : Nat) :
    Passes (value withVariables fuel) ∧ Passes (listItems withVariables fuel) ∧
      Passes (objectMembers withVariables fuel) := by
  induction fuel with
  | zero => exact ⟨fun _ _ => gives_none, fun _ _ => gives_none, fun _ _ => gives_none⟩
  | succ fuel ih =>
    obtain ⟨hvalue, hitems, hmembers⟩ := ih
    refine ⟨?_, ?_, ?_⟩
    · intro tokens hs
      unfold value
      split
      · exact gives_some trivial hs.tail
      · exact gives_some trivial hs.tail
      · exact gives_some trivial hs.tail
      · split
        · exact gives_some trivial hs.tail.tail
        · exact gives_none
      · exact hitems _ hs.tail
      · exact hmembers _ hs.tail
      · exact gives_none
    · intro tokens hs
      unfold listItems
      split
      · exact gives_some trivial hs.tail
      · exact (hvalue _ hs).bind fun _ rest _ hs => hitems rest hs
    · intro tokens hs
      unfold objectMembers
      split
      · exact gives_some trivial hs.tail
      · exact (hvalue _ hs.tail.tail).bind fun _ rest _ hs => hmembers rest hs
      · exact gives_none

theorem passes_value (withVariables : Bool) (fuel : Nat) : Passes (value withVariables fuel) :=
  (passes_values withVariables fuel).1

theorem passes_argument (fuel : Nat) : Passes (argument fuel) := by
  intro tokens hs
  unfold argument
  refine (passes_name tokens hs).bind fun _ rest _ hs => ?_
  refine (passes_punctuator ':' rest hs).bind fun _ rest _ hs => ?_
  exact passes_value true fuel rest hs

theorem passes_directives (fuel : Nat) : Passes (directives fuel) := by
  induction fuel with
  | zero => exact fun tokens _ => gives_none
  | succ fuel ih =>
    intro tokens hs
    unfold directives
    split
    · refine (passes_name _ (hs.drop 1)).bind fun first rest _ hs => ?_
      refine (passes_optionalBlock '(' ')' (passes_argument fuel) fuel rest hs).bind
        fun _ rest _ hs => ?_
      exact (ih rest hs).bind fun others rest _ hs => gives_some trivial hs
    · exact gives_some trivial hs

/-! ## Types and fields -/

theorem spelled_markNonNull (type : TypeRef) (hs : Spelled tokens) :
    Spelled (markNonNull type tokens).2 := by
  unfold markNonNull
  split
  · exact hs.drop 1
  · exact hs

theorem passes_typeRef (fuel : Nat) : Passes (typeRef fuel) := by
  induction fuel with
  | zero => exact fun tokens _ => gives_none
  | succ fuel ih =>
    intro tokens hs
    unfold typeRef
    split
    · exact gives_some trivial (spelled_markNonNull _ hs.tail)
    · refine (ih _ hs.tail).bind fun element rest _ hs => ?_
      refine (passes_punctuator ']' rest hs).bind fun _ rest _ hs => ?_
      exact gives_some trivial (spelled_markNonNull _ hs)
    · exact gives_none

theorem passes_defaultValue (fuel : Nat) : Passes (defaultValue fuel) := by
  intro tokens hs
  unfold defaultValue
  dsimp only
  split
  · exact passes_value false fuel _ (hs.drop 1)
  · exact gives_some trivial hs

theorem passes_inputValue (fuel : Nat) : Passes (inputValue fuel) := by
  intro tokens hs
  unfold inputValue
  refine (passes_name _ (spelled_skipDescription hs)).bind fun _ rest _ hs => ?_
  refine (passes_punctuator ':' rest hs).bind fun _ rest _ hs => ?_
  refine (passes_typeRef fuel rest hs).bind fun _ rest _ hs => ?_
  refine (passes_defaultValue fuel rest hs).bind fun _ rest _ hs => ?_
  exact (passes_directives fuel rest hs).bind fun _ rest _ hs => gives_some trivial hs

theorem passes_argumentDefinitions (fuel : Nat) : Passes (argumentDefinitions fuel) :=
  passes_optionalBlock '(' ')' (passes_inputValue fuel) fuel

theorem yields_field (fuel : Nat) :
    Yields (field fuel) fun f => Text.isIdentifier f.name = true := by
  intro tokens hs
  unfold field
  refine (yields_name _ (spelled_skipDescription hs)).bind fun fieldName rest hname hs => ?_
  refine (passes_argumentDefinitions fuel rest hs).bind fun _ rest _ hs => ?_
  refine (passes_punctuator ':' rest hs).bind fun _ rest _ hs => ?_
  refine (passes_typeRef fuel rest hs).bind fun type rest _ hs => ?_
  exact (passes_directives fuel rest hs).bind fun _ rest _ hs => gives_some hname hs

theorem passes_field (fuel : Nat) : Passes (field fuel) := fun tokens hs =>
  (yields_field fuel tokens hs).mono fun _ _ => trivial

theorem passes_interfaces (fuel : Nat) : Passes (interfaces fuel) := by
  intro tokens hs
  unfold interfaces
  dsimp only
  split
  · exact passes_names '&' fuel _ (spelled_skipPunctuator '&' (hs.drop 1))
  · exact gives_some trivial hs

theorem yields_enumValue (fuel : Nat) :
    Yields (enumValue fuel) fun value => Text.isIdentifier value = true := by
  intro tokens hs
  unfold enumValue
  refine (yields_name _ (spelled_skipDescription hs)).bind fun valueName rest hname hs => ?_
  exact (passes_directives fuel rest hs).bind fun _ rest _ hs => gives_some hname hs

/-! ## Definitions -/

/-- The body of a definition, from behind its keyword on. -/
abbrev NamesBody (r : Parser Body) : Prop := Yields r fun body => body.definition.Named

theorem namesBody_scalarBody (fuel : Nat) : NamesBody (scalarBody fuel) := by
  intro tokens hs
  unfold scalarBody
  refine (passes_name tokens hs).bind fun _ rest _ hs => ?_
  exact (passes_directives fuel rest hs).bind fun _ rest _ hs => gives_some trivial hs

theorem namesBody_objectBody (fuel : Nat) : NamesBody (objectBody fuel) := by
  intro tokens hs
  unfold objectBody
  refine (yields_name tokens hs).bind fun typeName rest hname hs => ?_
  refine (passes_interfaces fuel rest hs).bind fun _ rest _ hs => ?_
  refine (passes_directives fuel rest hs).bind fun _ rest _ hs => ?_
  exact (yields_optionalBlock _ _ (yields_field fuel) fuel rest hs).bind
    fun fields rest hfields hs => gives_some ⟨hname, hfields⟩ hs

theorem namesBody_interfaceBody (fuel : Nat) : NamesBody (interfaceBody fuel) := by
  intro tokens hs
  unfold interfaceBody
  refine (passes_name tokens hs).bind fun _ rest _ hs => ?_
  refine (passes_interfaces fuel rest hs).bind fun _ rest _ hs => ?_
  refine (passes_directives fuel rest hs).bind fun _ rest _ hs => ?_
  exact (passes_optionalBlock _ _ (passes_field fuel) fuel rest hs).bind
    fun _ rest _ hs => gives_some trivial hs

theorem namesBody_unionBody (fuel : Nat) : NamesBody (unionBody fuel) := by
  intro tokens hs
  unfold unionBody
  refine (passes_name tokens hs).bind fun _ rest _ hs => ?_
  refine (passes_directives fuel rest hs).bind fun marks rest _ hs => ?_
  dsimp only
  split
  · exact (passes_names '|' fuel _ (spelled_skipPunctuator '|' (hs.drop 1))).bind
      fun _ rest _ hs => gives_some trivial hs
  · exact gives_some trivial hs

theorem namesBody_enumBody (fuel : Nat) : NamesBody (enumBody fuel) := by
  intro tokens hs
  unfold enumBody
  refine (passes_name tokens hs).bind fun typeName rest _ hs => ?_
  refine (passes_directives fuel rest hs).bind fun _ rest _ hs => ?_
  exact (yields_optionalBlock _ _ (yields_enumValue fuel) fuel rest hs).bind
    fun values rest hvalues hs => gives_some hvalues hs

theorem namesBody_inputBody (fuel : Nat) : NamesBody (inputBody fuel) := by
  intro tokens hs
  unfold inputBody
  refine (passes_name tokens hs).bind fun _ rest _ hs => ?_
  refine (passes_directives fuel rest hs).bind fun _ rest _ hs => ?_
  exact (passes_optionalBlock _ _ (passes_inputValue fuel) fuel rest hs).bind
    fun _ rest _ hs => gives_some trivial hs

theorem namesBody_typeBody (fuel : Nat) : NamesBody (typeBody fuel) := by
  intro tokens hs
  unfold typeBody
  split
  · rename_i word rest
    have ht := hs.tail
    split
    · exact namesBody_scalarBody fuel rest ht
    split
    · exact namesBody_objectBody fuel rest ht
    split
    · exact namesBody_interfaceBody fuel rest ht
    split
    · exact namesBody_unionBody fuel rest ht
    split
    · exact namesBody_enumBody fuel rest ht
    split
    · exact namesBody_inputBody fuel rest ht
    · exact gives_none
  · exact gives_none

theorem passes_places (fuel : Nat) : Passes (places fuel) := by
  intro tokens hs
  unfold places
  dsimp only
  split
  · exact passes_names '|' fuel _ (spelled_skipPunctuator '|' hs)
  · exact gives_some trivial hs

theorem yields_directiveDefinition (fuel : Nat) :
    Yields (directiveDefinition fuel) Definition.Named := by
  intro tokens hs
  unfold directiveDefinition
  refine (passes_punctuator '@' tokens hs).bind fun _ rest _ hs => ?_
  refine (passes_name rest hs).bind fun _ rest _ hs => ?_
  refine (passes_argumentDefinitions fuel rest hs).bind fun _ rest _ hs => ?_
  have hskip : Spelled (if atKeyword "repeatable" rest then rest.drop 1 else rest) := by
    split
    · exact hs.drop 1
    · exact hs
  refine (passes_keyword "on" _ hskip).bind fun _ rest _ hs => ?_
  refine (passes_places fuel rest hs).bind fun named rest _ hs => ?_
  dsimp only
  split
  · exact gives_some trivial hs
  · exact gives_none

theorem passes_rootOperation : Passes rootOperation := by
  intro tokens hs
  unfold rootOperation
  refine (passes_name tokens hs).bind fun operation rest _ hs => ?_
  refine (passes_punctuator ':' rest hs).bind fun _ rest _ hs => ?_
  exact (passes_name rest hs).bind fun _ rest _ hs => gives_some trivial hs

theorem yields_schemaDefinition (fuel : Nat) :
    Yields (schemaDefinition fuel) Definition.Named := by
  intro tokens hs
  unfold schemaDefinition
  refine (passes_directives fuel tokens hs).bind fun _ rest _ hs => ?_
  refine (passes_punctuator _ rest hs).bind fun _ rest _ hs => ?_
  refine (yields_upTo _ passes_rootOperation fuel rest hs).bind fun roots rest _ hs => ?_
  dsimp only
  split
  · exact gives_some trivial hs
  · exact gives_none

theorem yields_described (fuel : Nat) : Yields (described fuel) Definition.Named := by
  intro tokens hs
  unfold described
  split
  · split
    · exact yields_directiveDefinition fuel _ hs.tail
    · exact (namesBody_typeBody fuel _ hs).bind fun body rest hbody hs => gives_some hbody hs
  · exact gives_none

theorem yields_extension (fuel : Nat) : Yields (extension fuel) Definition.Named := by
  intro tokens hs
  unfold extension
  refine (namesBody_typeBody fuel tokens hs).bind fun body rest _ hs => ?_
  dsimp only
  split
  · exact gives_none
  · exact gives_some trivial hs

theorem yields_definition (fuel : Nat) : Yields (definition fuel) Definition.Named := by
  intro tokens hs
  unfold definition
  split
  · exact yields_described fuel _ hs.tail
  · split
    · exact yields_schemaDefinition fuel _ hs.tail
    split
    · exact yields_extension fuel _ hs.tail
    · exact yields_described fuel _ hs
  · exact gives_none

theorem named_definitions {limit fuel : Nat} {document : Document} (hs : Spelled tokens)
    (h : definitions limit fuel tokens = some document) : ∀ d ∈ document, d.Named := by
  induction fuel generalizing tokens document with
  | zero =>
    cases tokens with
    | nil =>
      obtain rfl := Option.some.inj h
      simp
    | cons token rest => cases h
  | succ fuel ih =>
    cases tokens with
    | nil =>
      obtain rfl := Option.some.inj h
      simp
    | cons token rest =>
      unfold definitions at h
      obtain ⟨⟨first, left⟩, hfirst, h⟩ := Option.bind_eq_some_iff.mp h
      obtain ⟨others, hothers, h⟩ := Option.bind_eq_some_iff.mp h
      obtain rfl := Option.some.inj h
      obtain ⟨hnamed, hleft⟩ := yields_definition limit _ hs first left hfirst
      exact List.forall_mem_cons.mpr ⟨hnamed, ih hleft hothers⟩

end Reader

/-- The names that a document brings are identifiers. -/
theorem named_of_read {text : String} {document : Document} (h : read? text = some document) :
    ∀ d ∈ document, d.Named := by
  obtain ⟨tokens, ht, hd⟩ := Option.bind_eq_some_iff.mp h
  unfold Reader.document? at hd
  split at hd
  · cases hd
  · exact Reader.named_definitions (Token.spelled_ofText ht) hd

end IndexerTypes.Sdl
