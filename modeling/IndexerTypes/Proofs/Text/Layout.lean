import IndexerTypes.Proofs.Text.Word

/-! # Texts laid out in lines of words

A text is written line by line, each line as words with one space between them; an empty word makes
room for an indentation. Such a text is read back as the same lines, as long as no word has a space
or goes over the end of its line (`readLayout_layoutText`). What stands at the front or at the end
of a word is taken off by `dropStart?` and `dropEnd?`. -/

namespace IndexerTypes.Text

/-! ## Words -/

def dropStart? (start word : String) : Option String :=
  (start.toList.isPrefixOf? word.toList).map String.ofList

def dropEnd? (ending word : String) : Option String :=
  (ending.toList.isSuffixOf? word.toList).map String.ofList

theorem dropStart?_append (start word : String) : dropStart? start (start ++ word) = some word := by
  have h : start.toList.isPrefixOf? (start ++ word).toList = some word.toList := by
    rw [String.toList_append]
    exact List.isPrefixOf?_eq_some_iff_append_eq.mpr rfl
  rw [dropStart?, h, Option.map_some, String.ofList_toList]

theorem dropEnd?_append (word ending : String) : dropEnd? ending (word ++ ending) = some word := by
  rw [dropEnd?, String.toList_append, isSuffixOf?_append, Option.map_some, String.ofList_toList]

/-- An ending is not taken off a word that lacks one of its characters. -/
theorem dropEnd?_eq_none {ending word : String} {c : Char} (he : c ∈ ending.toList)
    (hw : c ∉ word.toList) : dropEnd? ending word = none := by
  rw [dropEnd?, isSuffixOf?_eq_none he hw, Option.map_none]

/-- Neither a space nor the end of a line is in the word. -/
def IsWord (word : String) : Prop := ∀ c ∈ word.toList, c ≠ ' ' ∧ c ≠ '\n'

instance (word : String) : Decidable (IsWord word) :=
  List.decidableBAll (fun c => c ≠ ' ' ∧ c ≠ '\n') word.toList

theorem IsWord.append {word other : String} (h : IsWord word) (ho : IsWord other) :
    IsWord (word ++ other) := by
  intro c hc
  rw [String.toList_append] at hc
  rcases List.mem_append.mp hc with hc | hc
  · exact h c hc
  · exact ho c hc

theorem isWord_of_isIdentifier {name : String} (h : isIdentifier name = true) : IsWord name := by
  intro c hc
  have hpart := isIdentifierPart_of_mem h hc
  constructor
  · rintro rfl
    exact absurd hpart (by decide)
  · rintro rfl
    exact absurd hpart (by decide)

/-! ## Lines -/

def lineText (words : List String) : String := " ".intercalate words

def layoutText (lines : List (List String)) : String :=
  String.join ((lines.map lineText).map (· ++ "\n"))

/-- The words on each line of a text, the line behind its last end included. -/
def readLayout (text : String) : List (List String) :=
  (text.toList.splitOn '\n').map fun line => (line.splitOn ' ').map String.ofList

/-- A line from which its words can be told. -/
structure IsLine (words : List String) : Prop where
  nonempty : words ≠ []
  words : ∀ word ∈ words, IsWord word

instance (words : List String) : Decidable (IsLine words) :=
  decidable_of_iff (words ≠ [] ∧ ∀ word ∈ words, IsWord word)
    ⟨fun h => ⟨h.1, h.2⟩, fun h => ⟨h.nonempty, h.words⟩⟩

theorem IsLine.singleton {word : String} (h : IsWord word) : IsLine [word] :=
  ⟨List.cons_ne_nil _ _, List.forall_mem_singleton.mpr h⟩

theorem IsLine.cons {word : String} {words : List String} (h : IsWord word) (hs : IsLine words) :
    IsLine (word :: words) :=
  ⟨List.cons_ne_nil _ _, List.forall_mem_cons.mpr ⟨h, hs.words⟩⟩

theorem IsLine.append {words other : List String} (h : IsLine words) (ho : IsLine other) :
    IsLine (words ++ other) :=
  ⟨List.append_ne_nil_of_left_ne_nil h.nonempty _, List.forall_mem_append.mpr ⟨h.words, ho.words⟩⟩

theorem newline_not_mem_lineText {words : List String} (h : ∀ word ∈ words, IsWord word) :
    '\n' ∉ (lineText words).toList := by
  have hword : ∀ word ∈ words, '\n' ∉ word.toList := fun word hw hc => (h word hw _ hc).2 rfl
  clear h
  unfold lineText
  induction words with
  | nil => decide
  | cons word rest ih =>
    obtain ⟨hhead, hrest⟩ := List.forall_mem_cons.mp hword
    cases rest with
    | nil => simpa using hhead
    | cons next rest =>
      have hspace : '\n' ∉ " ".toList := by decide
      rw [String.intercalate_cons_cons, String.toList_append, String.toList_append]
      simp only [List.mem_append, hhead, hspace, ih hrest, or_false, not_false_eq_true]

theorem readWords_lineText {words : List String} (h : IsLine words) :
    ((lineText words).toList.splitOn ' ').map String.ofList = words := by
  have hsplit : (lineText words).toList.splitOn ' ' = words.map String.toList := by
    rw [lineText, String.toList_intercalate]
    refine List.splitOn_intercalate ' ' ?_ (by simpa using h.nonempty)
    rw [List.forall_mem_map]
    exact fun word hw hc => (h.words word hw _ hc).1 rfl
  rw [hsplit, List.map_map]
  exact (List.map_congr_left fun word _ => String.ofList_toList).trans (List.map_id _)

theorem layoutText_cons (words : List String) (lines : List (List String)) :
    layoutText (words :: lines) = lineText words ++ "\n" ++ layoutText lines := String.join_cons

theorem layoutText_append (before after : List (List String)) :
    layoutText (before ++ after) = layoutText before ++ layoutText after := by
  unfold layoutText
  rw [List.map_append, List.map_append, String.join_append]

/-- A text of lines of words is read as these lines. -/
theorem readLayout_layoutText {lines : List (List String)} (h : ∀ words ∈ lines, IsLine words) :
    readLayout (layoutText lines) = lines ++ [[""]] := by
  have hends : ∀ line ∈ lines.map lineText, '\n' ∉ line.toList := by
    rw [List.forall_mem_map]
    exact fun words hw => newline_not_mem_lineText (h words hw).words
  rw [readLayout, layoutText, splitOn_lines hends, List.map_append, List.map_map, List.map_map]
  congr 1
  exact (List.map_congr_left fun words hw => readWords_lineText (h words hw)).trans (List.map_id _)

end IndexerTypes.Text
