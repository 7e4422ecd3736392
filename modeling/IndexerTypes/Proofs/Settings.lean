import IndexerTypes.Proofs.Text.Trim
import IndexerTypes.Proofs.Text.Word
import IndexerTypes.Settings

/-! # Lists in one setting

A setting holds a list as one text with commas. What is read of it are the parts between the commas
that are more than blanks, without the blanks around them. Such parts are items (`IsItem`), and
items are what a list must have to come back as it was written (`listed_splitList`). -/

namespace IndexerTypes.Settings

/-- What a list in a setting can hold. -/
structure IsItem (item : String) : Prop where
  nonempty : item ≠ ""
  noComma : ',' ∉ item.toList
  trimmed : Text.IsTrimmed item.toList

/-- The items stand one behind the other in the text. -/
inductive Occur : List String → List Char → Prop where
  | nil {text : List Char} : Occur [] text
  | cons {item : String} {rest : List String} {after : List Char} (before : List Char)
      (hrest : Occur rest after) : Occur (item :: rest) (before ++ item.toList ++ after)

/-- The items in the parts between commas. -/
def itemsOf (parts : List (List Char)) : List String :=
  ((parts.map Text.trim).filter (· ≠ [])).map String.ofList

variable {raw item : String} {items : List String} {text part : List Char}

theorem splitList_eq (raw : String) : splitList raw = itemsOf (raw.toList.splitOn ',') := rfl

theorem itemsOf_cons_of_blank (parts : List (List Char)) (h : Text.trim part = []) :
    itemsOf (part :: parts) = itemsOf parts := by
  simp [itemsOf, h]

theorem itemsOf_cons (parts : List (List Char)) (h : Text.trim part ≠ []) :
    itemsOf (part :: parts) = String.ofList (Text.trim part) :: itemsOf parts := by
  simp [itemsOf, h]

/-! ## What is read -/

theorem isItem_of_mem_splitList (h : item ∈ splitList raw) : IsItem item := by
  obtain ⟨trimmed, htrimmed, rfl⟩ := List.mem_map.mp h
  obtain ⟨hpart, hne⟩ := List.mem_filter.mp htrimmed
  obtain ⟨part, hmem, rfl⟩ := List.mem_map.mp hpart
  rw [decide_eq_true_eq] at hne
  constructor
  case nonempty => exact fun he => hne (String.ofList_eq_empty_iff.mp he)
  case noComma =>
    rw [String.toList_ofList]
    exact fun hc => Text.not_mem_of_mem_splitOn hmem ((Text.isInfix_trim part).subset hc)
  case trimmed =>
    rw [String.toList_ofList]
    exact Text.isTrimmed_trim part

theorem Occur.append_left (before : List Char) (h : Occur items text) :
    Occur items (before ++ text) := by
  cases h with
  | nil => exact .nil
  | @cons item rest after between hrest =>
    rw [List.append_assoc, ← List.append_assoc before, ← List.append_assoc]
    exact .cons _ hrest

/-- Behind a part come those that follow it, with or without a comma between. -/
theorem occur_itemsOf_cons {parts : List (List Char)} (h : Occur (itemsOf parts) text) :
    Occur (itemsOf (part :: parts)) (part ++ text) := by
  by_cases hblank : Text.trim part = []
  · rw [itemsOf_cons_of_blank parts hblank]
    exact h.append_left part
  · obtain ⟨before, after, hpart⟩ := Text.isInfix_trim part
    have hrest : Occur (String.ofList (Text.trim part) :: itemsOf parts)
        (before ++ (String.ofList (Text.trim part)).toList ++ (after ++ text)) :=
      .cons before (h.append_left after)
    rwa [String.toList_ofList, ← List.append_assoc, hpart,
      ← itemsOf_cons parts hblank] at hrest

theorem occur_itemsOf (parts : List (List Char)) :
    Occur (itemsOf parts) ([','].intercalate parts) := by
  induction parts with
  | nil => exact .nil
  | cons part parts ih =>
    cases parts with
    | nil =>
      have hlast : Occur (itemsOf [part]) (part ++ []) := occur_itemsOf_cons .nil
      simpa using hlast
    | cons next parts =>
      rw [List.intercalate_cons_cons, List.append_assoc]
      exact occur_itemsOf_cons (ih.append_left [','])

theorem occur_splitList (raw : String) : Occur (splitList raw) raw.toList := by
  have h := occur_itemsOf (raw.toList.splitOn ',')
  rwa [List.intercalate_splitOn] at h

/-! ## What is written -/

theorem itemsOf_items (h : ∀ item ∈ items, IsItem item) :
    itemsOf (items.map String.toList) = items := by
  induction items with
  | nil => rfl
  | cons item items ih =>
    obtain ⟨hitem, hitems⟩ := List.forall_mem_cons.mp h
    have htrim : Text.trim item.toList = item.toList := Text.trim_eq_self hitem.trimmed
    have hne : Text.trim item.toList ≠ [] := fun he =>
      hitem.nonempty (String.toList_eq_nil_iff.mp (htrim ▸ he))
    rw [List.map_cons, itemsOf_cons _ hne, htrim, String.ofList_toList, ih hitems]

/-- A list of items is read as it is written. -/
theorem splitList_intercalate (h : ∀ item ∈ items, IsItem item) :
    splitList (",".intercalate items) = items := by
  rcases eq_or_ne items [] with rfl | hne
  · rfl
  · have hparts : (",".intercalate items).toList.splitOn ',' = items.map String.toList := by
      rw [String.toList_intercalate]
      refine List.splitOn_intercalate ',' ?_ (by simpa using hne)
      rw [List.forall_mem_map]
      exact fun item hitem => (h item hitem).noComma
    rw [splitList_eq, hparts, itemsOf_items h]

/-- **A list comes back from its setting just if it consists of items.** What is read of any text
are items that stand there in the same order, and written with commas they are read again. -/
theorem listed_splitList :
    (∀ raw, (∀ item ∈ splitList raw, IsItem item) ∧ Occur (splitList raw) raw.toList ∧
      splitList (",".intercalate (splitList raw)) = splitList raw) ∧
    ∀ items, splitList (",".intercalate items) = items ↔
      (∀ item ∈ items, IsItem item) ∨ items = [] := by
  have hread : ∀ raw, ∀ item ∈ splitList raw, IsItem item :=
    fun raw item h => isItem_of_mem_splitList h
  refine ⟨fun raw => ⟨hread raw, occur_splitList raw, splitList_intercalate (hread raw)⟩, ?_⟩
  intro items
  constructor
  · intro h
    exact .inl (h ▸ hread (",".intercalate items))
  · rintro (h | rfl)
    · exact splitList_intercalate h
    · rfl

/-- Blanks may stand around an item and inside it, but they are no item by themselves. -/
theorem listed_splitList_blank :
    splitList " a.yaml ,\u3000, b c.yml,," = ["a.yaml", "b c.yml"] ∧ IsItem "b c.yml" ∧
    splitList "a.yaml,b c.yml" = ["a.yaml", "b c.yml"] ∧
    splitList (",".intercalate [" a.yaml"]) ≠ [" a.yaml"] := by
  have hread : splitList " a.yaml ,\u3000, b c.yml,," = ["a.yaml", "b c.yml"] := by decide
  obtain ⟨hitems, -, hagain⟩ := listed_splitList.1 " a.yaml ,\u3000, b c.yml,,"
  have hitem : ¬ IsItem " a.yaml" := fun h => absurd (h.trimmed.first ' ' (by decide)) (by decide)
  refine ⟨hread, hitems _ (by rw [hread]; simp), ?_, ?_⟩
  · rw [hread] at hagain
    exact hagain
  · rw [ne_eq, listed_splitList.2]
    simp [hitem]

end IndexerTypes.Settings
