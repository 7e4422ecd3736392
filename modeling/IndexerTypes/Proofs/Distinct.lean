import IndexerTypes.Distinct
import Mathlib.Data.List.Find
import Mathlib.Data.List.Induction
import Mathlib.Data.List.Nodup

/-! # Lists that grow by new keys

A list without repeated keys stays one when an element with a new key is put behind it. Each
of its elements has its key for itself. So the list of the first elements of each key holds
every key once, and it holds just the elements that have no element of their key before them
(`firsts_eq`). -/

namespace IndexerTypes.Distinct

variable {α β : Type} {key : α → β} {l : List α} {a : α}

theorem nodup_concat (h : (l.map key).Nodup) (hn : ∀ b ∈ l, key b ≠ key a) :
    ((l ++ [a]).map key).Nodup := by
  rw [List.map_append, List.nodup_append]
  refine ⟨h, by simp, ?_⟩
  intro x hx y hy
  obtain ⟨b, hb, rfl⟩ := List.mem_map.mp hx
  simp only [List.map_cons, List.map_nil, List.mem_singleton] at hy
  exact hy ▸ hn b hb

theorem key_ne_of_nodup {before after : List α} (h : ((before ++ a :: after).map key).Nodup) :
    ∀ b ∈ before ++ after, key b ≠ key a := by
  rw [List.map_append, List.map_cons, List.nodup_middle, ← List.map_append] at h
  have hnot := (List.nodup_cons.mp h).1
  exact fun b hb he => hnot (he ▸ List.mem_map_of_mem hb)

section

variable [DecidableEq β]

/-- Where keys are not repeated, an element is found by its key in every order. -/
theorem find?_of_perm {m : List α} (hn : (l.map key).Nodup) (h : l.Perm m) (k : β) :
    l.find? (fun a => key a = k) = m.find? (fun a => key a = k) := by
  refine List.find?_eq_find?_of_perm h ?_
  intro a ha b hb
  obtain ⟨hmem, hkey⟩ := ha
  obtain ⟨hother, hsame⟩ := hb
  refine List.inj_on_of_nodup_map hn hmem hother ?_
  rw [of_decide_eq_true hkey, of_decide_eq_true hsame]

/-! ## The first elements of each key -/

/-- Each element of the list, with those before it. -/
def withEarlier (before : List α) : List α → List (List α × α)
  | [] => []
  | a :: rest => (before, a) :: withEarlier (before ++ [a]) rest

/-- One of the elements before it has its key. -/
def Repeats (key : α → β) (p : List α × α) : Prop := key p.2 ∈ p.1.map key

instance : DecidablePred (Repeats key) := fun p => inferInstanceAs (Decidable (_ ∈ p.1.map key))

/-- The elements that are not the first ones with their keys, in order. -/
def repeated (key : α → β) (l : List α) : List α :=
  ((withEarlier [] l).filter (Repeats key)).map Prod.snd

theorem mem_withEarlier {before : List α} {p : List α × α} (h : p ∈ withEarlier before l) :
    ∃ between after, p.1 = before ++ between ∧ l = between ++ p.2 :: after := by
  induction l generalizing before with
  | nil => cases h
  | cons a rest ih =>
    rcases List.mem_cons.mp h with rfl | h
    · exact ⟨[], rest, by simp, rfl⟩
    · obtain ⟨between, after, hp, rfl⟩ := ih h
      exact ⟨a :: between, after, by simp [hp], rfl⟩

/-- What is kept of a list depends only on the keys before it. -/
theorem foldl_insertNew {before kept : List α}
    (h : ∀ k, k ∈ kept.map key ↔ k ∈ before.map key) :
    l.foldl (insertNew key) kept =
      kept ++ ((withEarlier before l).filter fun p => ¬ Repeats key p).map Prod.snd := by
  induction l generalizing before kept with
  | nil => simp [withEarlier]
  | cons a rest ih =>
    have hkeys : ∀ k, k ∈ (insertNew key kept a).map key ↔ k ∈ (before ++ [a]).map key := by
      intro k
      rw [mem_map_insertNew, h]
      simp [eq_comm]
    rw [List.foldl_cons, ih hkeys, withEarlier]
    by_cases hr : Repeats key (before, a)
    · have hold : hasKey key (key a) kept = true := hasKey_iff.mpr ((h _).mpr hr)
      simp [insertNew, hold, hr]
    · have hnew : ¬ hasKey key (key a) kept = true := fun hk => hr ((h _).mp (hasKey_iff.mp hk))
      simp [insertNew, hnew, hr]

/-- The first elements are those that no element before them has the key of. -/
theorem firsts_eq :
    firsts key l = ((withEarlier [] l).filter fun p => ¬ Repeats key p).map Prod.snd := by
  have hfold : l.foldl (insertNew key) [] =
      [] ++ ((withEarlier [] l).filter fun p => ¬ Repeats key p).map Prod.snd :=
    foldl_insertNew (by simp)
  rwa [List.nil_append] at hfold

theorem map_snd_withEarlier (before l : List α) : (withEarlier before l).map Prod.snd = l := by
  induction l generalizing before with
  | nil => rfl
  | cons a rest ih => rw [withEarlier, List.map_cons, ih]

theorem firsts_sublist (key : α → β) (l : List α) : (firsts key l).Sublist l := by
  have h := (List.filter_sublist (p := fun p => ¬ Repeats key p) (l := withEarlier [] l)).map
    Prod.snd
  rwa [map_snd_withEarlier, ← firsts_eq] at h

theorem nodup_foldl_insertNew {kept : List α} (h : (kept.map key).Nodup) :
    ((l.foldl (insertNew key) kept).map key).Nodup := by
  induction l generalizing kept with
  | nil => exact h
  | cons a rest ih => exact ih (insertNew_nodup a h)

theorem nodup_firsts (key : α → β) (l : List α) : ((firsts key l).map key).Nodup :=
  nodup_foldl_insertNew (by simp)

theorem mem_map_foldl_insertNew {kept : List α} {k : β} :
    k ∈ (l.foldl (insertNew key) kept).map key ↔ k ∈ kept.map key ∨ k ∈ l.map key := by
  induction l generalizing kept with
  | nil => simp
  | cons a rest ih => rw [List.foldl_cons, ih, mem_map_insertNew, List.map_cons, List.mem_cons,
      or_assoc]

/-- No key is lost. -/
theorem mem_map_firsts {k : β} : k ∈ (firsts key l).map key ↔ k ∈ l.map key := by
  rw [firsts, mem_map_foldl_insertNew]
  simp

theorem map_insertNew {kept : List α} :
    (insertNew key kept a).map key = insertNew id (kept.map key) (key a) := by
  have hkey : hasKey id (id (key a)) (kept.map key) = hasKey key (key a) kept := by
    simp [hasKey, List.any_map, Function.comp_def]
  unfold insertNew
  rw [hkey]
  split
  · rfl
  · simp

/-- The keys of the first elements are the first keys. -/
theorem map_firsts (key : α → β) (l : List α) : (firsts key l).map key = firsts id (l.map key) := by
  have hfold : ∀ kept, (l.foldl (insertNew key) kept).map key =
      (l.map key).foldl (insertNew id) (kept.map key) := by
    induction l with
    | nil => simp
    | cons a rest ih =>
      intro kept
      rw [List.foldl_cons, ih, map_insertNew, List.map_cons, List.foldl_cons]
  exact hfold []

theorem firsts_concat : firsts key (l ++ [a]) = insertNew key (firsts key l) a :=
  List.foldl_append

theorem mem_of_mem_insertNew {kept : List α} {b : α} (h : b ∈ insertNew key kept a) :
    b ∈ kept ∨ b = a := by
  unfold insertNew at h
  split at h
  · exact .inl h
  · simpa using h

/-- Keys that tell all elements apart do not matter. -/
theorem firsts_of_injective [DecidableEq α] (hk : Function.Injective key) (l : List α) :
    firsts key l = firsts id l := by
  have hinsert : insertNew key = insertNew id := by
    funext kept a
    simp [insertNew, hasKey, hk.eq_iff]
  rw [firsts, firsts, hinsert]

/-- Of elements that are their own keys, the library's name for the first ones. -/
theorem firsts_eq_eraseDups [DecidableEq α] [BEq α] [LawfulBEq α] (l : List α) :
    firsts id l = l.eraseDups := by
  induction l using List.reverseRecOn with
  | nil => rfl
  | append_singleton l a ih =>
    rw [firsts_concat, ih, List.eraseDups_append, insertNew]
    by_cases ha : a ∈ l
    · simp [hasKey, List.removeAll, ha]
    · simp [hasKey, List.removeAll, ha, List.eraseDups_cons]

/-- What depends on the key alone loses no first occurrence with the elements that repeat a key. -/
theorem firsts_map_firsts {γ : Type} [DecidableEq γ] {value : α → γ}
    (h : ∀ a ∈ l, ∀ b ∈ l, key a = key b → value a = value b) :
    firsts id ((firsts key l).map value) = firsts id (l.map value) := by
  induction l using List.reverseRecOn with
  | nil => rfl
  | append_singleton l a ih =>
    have hbefore := ih fun b hb c hc => h b (by simp [hb]) c (by simp [hc])
    rw [firsts_concat, List.map_append, List.map_singleton, firsts_concat, ← hbefore, insertNew]
    split
    -- An element with this key is kept already, so its value, which is the same, is there too.
    · rename_i hold
      rw [hasKey_iff, mem_map_firsts] at hold
      obtain ⟨b, hb, hkey⟩ := List.mem_map.mp hold
      have hvalue : value a ∈ (firsts id (l.map value)).map id := by
        rw [mem_map_firsts, List.map_id, ← h b (by simp [hb]) a (by simp) hkey]
        exact List.mem_map_of_mem hb
      rw [insertNew, if_pos (hasKey_iff.mpr (hbefore ▸ hvalue))]
    · rw [List.map_append, List.map_singleton, firsts_concat]

theorem find?_of_mem_firsts (h : a ∈ firsts key l) :
    l.find? (fun b => key b = key a) = some a := by
  rw [firsts_eq] at h
  obtain ⟨p, hp, rfl⟩ := List.mem_map.mp h
  obtain ⟨hp, hfirst⟩ := List.mem_filter.mp hp
  obtain ⟨between, after, hearlier, rfl⟩ := mem_withEarlier hp
  simp only [Repeats, hearlier, List.nil_append, decide_eq_true_eq] at hfirst
  have hnone : between.find? (fun b => key b = key p.2) = none := by
    simp only [List.find?_eq_none, decide_eq_true_eq]
    exact fun b hb he => hfirst (he ▸ List.mem_map_of_mem hb)
  rw [List.find?_append, hnone]
  simp

end

end IndexerTypes.Distinct
