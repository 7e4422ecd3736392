import IndexerTypes.Proofs.Text.Word
import IndexerTypes.TypeScript
import Mathlib.Data.List.Basic

/-! # Reading the type of a field

The types of fields are names, unions of string literals, and arrays of these. The quotation
marks tell the literals of a union apart, and an array of a union is only one if parentheses are
around the union. So the text of a type says which type it is, as long as the literals are
identifiers (`isSpelled_stringUnion`, `isSpelled_arrayOf_stringUnion`). -/

namespace IndexerTypes.TypeScript

/-- A type that is not an array. -/
inductive Element where
  | name (text : String)
  | literals (values : List String)
  deriving DecidableEq, Repr

inductive FieldType where
  | single (element : Element)
  | list (element : Element) (parenthesized : Bool)
  deriving DecidableEq, Repr

/-! ## The reader -/

/-- The literals of a union, from what stands between the quotation marks behind the first. -/
def readValues? : List (List Char) → Option (List String)
  | [value, []] => some [String.ofList value]
  | value :: bar :: rest =>
    if bar = " | ".toList then (readValues? rest).map (String.ofList value :: ·) else none
  | _ => none

def readElement? (text : List Char) : Option Element :=
  match text.splitOn '"' with
  | [word] =>
    if Text.isIdentifier (String.ofList word) then some (.name (String.ofList word)) else none
  | [] :: pieces => (readValues? pieces).map .literals
  | _ => none

/-- What stands in parentheses. -/
def readParenthesized? : List Char → Option (List Char)
  | '(' :: rest => [')'].isSuffixOf? rest
  | _ => none

/-- Without parentheses, only the last literal of a union would be in the array. -/
def Element.isAtom : Element → Bool
  | name _ => true
  | literals values => values.length ≤ 1

def readFieldType? (text : List Char) : Option FieldType :=
  match ['[', ']'].isSuffixOf? text with
  | none => (readElement? text).map .single
  | some inner =>
    match readParenthesized? inner with
    | some body => (readElement? body).map (.list · true)
    | none =>
      match readElement? inner with
      | some element => if element.isAtom then some (.list element false) else none
      | none => none

/-- What the union of some values is read as. -/
def unionOf (values : List String) : Element :=
  if values.isEmpty then .name "never" else .literals values

/-! ## Unions -/

variable {name : String} {values : List String}

/-- A union behind its first quotation mark. -/
def unionRest : String → List String → List Char
  | value, [] => value.toList ++ ['"']
  | value, next :: rest =>
    value.toList ++ '"' :: (" | ".toList ++ '"' :: unionRest next rest)

theorem toList_stringUnion (value : String) (rest : List String) :
    (stringUnion (value :: rest)).toList = '"' :: unionRest value rest := by
  have hliteral : ∀ v : String, (stringLiteral v).toList = '"' :: (v.toList ++ ['"']) := by
    intro v
    rw [stringLiteral, String.toList_append, String.toList_append]
    rfl
  induction rest generalizing value with
  | nil => exact hliteral value
  | cons next rest ih =>
    have hnext : (" | ".intercalate ((next :: rest).map stringLiteral)).toList =
        '"' :: unionRest next rest := ih next
    have hcons : stringUnion (value :: next :: rest) =
        stringLiteral value ++ " | " ++ " | ".intercalate ((next :: rest).map stringLiteral) :=
      String.intercalate_cons_cons
    rw [hcons, String.toList_append, String.toList_append, hliteral, hnext, unionRest]
    simp

theorem readValues?_unionRest {value : String} {rest : List String}
    (h : ∀ v ∈ value :: rest, '"' ∉ v.toList) :
    readValues? ((unionRest value rest).splitOn '"') = some (value :: rest) := by
  induction rest generalizing value with
  | nil =>
    have hvalue := h value (by simp)
    rw [unionRest, List.splitOn_append_cons_self, List.splitOn_eq_singleton hvalue]
    simp [readValues?]
  | cons next rest ih =>
    obtain ⟨hvalue, hrest⟩ := List.forall_mem_cons.mp h
    rw [unionRest, List.splitOn_append_cons_self, List.splitOn_append_cons_self,
      List.splitOn_eq_singleton hvalue, List.splitOn_eq_singleton (by decide)]
    rw [List.singleton_append, List.singleton_append, readValues?, if_pos rfl, ih hrest]
    · simp
    · simp

theorem quote_not_mem (h : Text.isIdentifier name = true) : '"' ∉ name.toList :=
  Text.not_mem_of_isIdentifier h (by decide)

theorem readElement?_name (h : Text.isIdentifier name = true) :
    readElement? name.toList = some (.name name) := by
  rw [readElement?, List.splitOn_eq_singleton (quote_not_mem h)]
  simp [h]

theorem readElement?_stringUnion (h : ∀ value ∈ values, Text.isIdentifier value = true) :
    readElement? (stringUnion values).toList = some (unionOf values) := by
  cases values with
  | nil => exact readElement?_name (by decide)
  | cons value rest =>
    have hquotes : ∀ v ∈ value :: rest, '"' ∉ v.toList := fun v hv => quote_not_mem (h v hv)
    have hsplit : (stringUnion (value :: rest)).toList.splitOn '"' =
        [] :: (unionRest value rest).splitOn '"' := by
      rw [toList_stringUnion, ← List.nil_append ('"' :: _), List.splitOn_append_cons_self]
      rfl
    have hread := readValues?_unionRest hquotes
    rw [readElement?, hsplit]
    split
    · rename_i he
      rw [(List.cons.inj he).2] at hread
      cases hread
    · rename_i he
      rw [← (List.cons.inj he).2, hread]
      rfl
    · rename_i hno
      exact absurd rfl (hno _)

theorem isUnion_eq_false {type : String} (h : ' ' ∉ type.toList) : isUnion type = false := by
  rw [← Bool.not_eq_true]
  intro hunion
  obtain ⟨before, after, he⟩ := Text.hasInfix_iff.mp hunion
  rw [he] at h
  simp at h

/-- Only a union of several literals shows a bar. -/
theorem isUnion_stringUnion (h : ∀ value ∈ values, Text.isIdentifier value = true) :
    isUnion (stringUnion values) = decide (2 ≤ values.length) := by
  match values with
  | [] => decide
  | [value] =>
    have hvalue := Text.not_mem_of_isIdentifier (h value (by simp)) (c := ' ') (by decide)
    refine isUnion_eq_false ?_
    rw [toList_stringUnion]
    simp [unionRest, hvalue]
  | value :: next :: rest =>
    have hunion : isUnion (stringUnion (value :: next :: rest)) = true := by
      refine Text.hasInfix_iff.mpr ⟨'"' :: (value.toList ++ ['"']), '"' :: unionRest next rest, ?_⟩
      rw [toList_stringUnion, unionRest]
      simp
    simp [hunion]

/-- A union is made of identifiers, quotation marks and bars. -/
theorem not_mem_stringUnion {c : Char} (h : ∀ value ∈ values, Text.isIdentifier value = true)
    (hc : Text.isIdentifierPart c = false) (hmarks : c ∉ "\" |".toList) :
    c ∉ (stringUnion values).toList := by
  have hne : c ≠ '"' ∧ c ≠ ' ' ∧ c ≠ '|' := by simpa using hmarks
  cases values with
  | nil =>
    have hnever : Text.isIdentifier "never" = true := by decide
    exact Text.not_mem_of_isIdentifier hnever hc
  | cons value rest =>
    rw [toList_stringUnion]
    induction rest generalizing value with
    | nil =>
      have hvalue := Text.not_mem_of_isIdentifier (h value (by simp)) hc
      simp [unionRest, hne, hvalue]
    | cons next rest ih =>
      have hvalue := Text.not_mem_of_isIdentifier (h value (by simp)) hc
      have hrest := ih next fun v hv => h v (List.mem_cons_of_mem _ hv)
      have htail : c ∉ unionRest next rest := fun hm => hrest (List.mem_cons_of_mem _ hm)
      simp [unionRest, hne, hvalue, htail]

/-! ## Types -/

variable {text : List Char} {element : Element}

theorem readFieldType?_single (hr : readElement? text = some element) (hb : ']' ∉ text) :
    readFieldType? text = some (.single element) := by
  have hbracket : ']' ∈ ['[', ']'] := by simp
  rw [readFieldType?, Text.isSuffixOf?_eq_none hbracket hb]
  dsimp only
  rw [hr, Option.map_some]

theorem readFieldType?_array (hr : readElement? text = some element)
    (ha : element.isAtom = true) (hp : '(' ∉ text) :
    readFieldType? (text ++ ['[', ']']) = some (.list element false) := by
  have hopen : readParenthesized? text = none := by
    unfold readParenthesized?
    split
    · simp at hp
    · rfl
  rw [readFieldType?, Text.isSuffixOf?_append]
  dsimp only
  rw [hopen]
  dsimp only
  rw [hr]
  exact if_pos ha

theorem readFieldType?_parenthesizedArray (hr : readElement? text = some element) :
    readFieldType? ('(' :: text ++ [')', '[', ']']) = some (.list element true) := by
  have hinner : '(' :: text ++ [')', '[', ']'] = ('(' :: (text ++ [')'])) ++ ['[', ']'] := by simp
  have hbody : readParenthesized? ('(' :: (text ++ [')'])) = some text :=
    Text.isSuffixOf?_append text [')']
  rw [readFieldType?, hinner, Text.isSuffixOf?_append]
  dsimp only
  rw [hbody]
  dsimp only
  rw [hr, Option.map_some]

theorem toList_arrayOf (type : String) : (arrayOf type).toList =
    if isUnion type then '(' :: type.toList ++ [')', '[', ']'] else type.toList ++ ['[', ']'] := by
  unfold arrayOf
  split
  · simp
  · rw [String.toList_append]
    rfl

/-- The text is read as the type, and it stays on one line. -/
structure FieldType.IsSpelled (t : FieldType) (type : String) : Prop where
  read : readFieldType? type.toList = some t
  line : '\n' ∉ type.toList

theorem isSpelled_name (h : Text.isIdentifier name = true) :
    (FieldType.single (.name name)).IsSpelled name where
  read := readFieldType?_single (readElement?_name h) (Text.not_mem_of_isIdentifier h (by decide))
  line := Text.not_mem_of_isIdentifier h (by decide)

theorem isSpelled_stringUnion (h : ∀ value ∈ values, Text.isIdentifier value = true) :
    (FieldType.single (unionOf values)).IsSpelled (stringUnion values) where
  read := readFieldType?_single (readElement?_stringUnion h)
    (not_mem_stringUnion h (by decide) (by decide))
  line := not_mem_stringUnion h (by decide) (by decide)

theorem line_arrayOf {type : String} (h : '\n' ∉ type.toList) : '\n' ∉ (arrayOf type).toList := by
  rw [toList_arrayOf]
  split <;> simp [h]

theorem isSpelled_arrayOf_name (h : Text.isIdentifier name = true) :
    (FieldType.list (.name name) false).IsSpelled (arrayOf name) where
  read := by
    have hspace := Text.not_mem_of_isIdentifier h (c := ' ') (by decide)
    rw [toList_arrayOf, isUnion_eq_false hspace]
    exact readFieldType?_array (readElement?_name h) rfl
      (Text.not_mem_of_isIdentifier h (by decide))
  line := line_arrayOf (isSpelled_name h).line

/-- An array of a union has parentheses just if the union has several literals. -/
theorem isSpelled_arrayOf_stringUnion (h : ∀ value ∈ values, Text.isIdentifier value = true) :
    (FieldType.list (unionOf values) (decide (2 ≤ values.length))).IsSpelled
      (arrayOf (stringUnion values)) where
  read := by
    have hread := readElement?_stringUnion h
    rw [toList_arrayOf, isUnion_stringUnion h]
    by_cases hlong : 2 ≤ values.length
    · simp only [hlong, decide_true, if_true]
      exact readFieldType?_parenthesizedArray hread
    · have hatom : (unionOf values).isAtom = true := by
        unfold unionOf
        split
        · rfl
        · exact decide_eq_true (by omega)
      simp only [hlong, decide_false, Bool.false_eq_true, if_false]
      exact readFieldType?_array hread hatom (not_mem_stringUnion h (by decide) (by decide))
  line := line_arrayOf (isSpelled_stringUnion h).line

end IndexerTypes.TypeScript
