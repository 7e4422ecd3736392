import Mathlib.Data.List.Perm.Basic

/-! # Lists that correspond element by element -/

namespace IndexerTypes.Pointwise

variable {α β γ : Type} {R : α → β → Prop} {l : List α} {m : List β}

theorem exists_of_mem_left (h : List.Forall₂ R l m) {a : α} (ha : a ∈ l) : ∃ b ∈ m, R a b := by
  induction h with
  | nil => cases ha
  | cons hr _ ih =>
    rcases List.mem_cons.mp ha with rfl | ha
    · exact ⟨_, by simp, hr⟩
    · obtain ⟨b, hb, hab⟩ := ih ha
      exact ⟨b, by simp [hb], hab⟩

theorem exists_of_mem_right (h : List.Forall₂ R l m) {b : β} (hb : b ∈ m) : ∃ a ∈ l, R a b :=
  exists_of_mem_left h.flip hb

theorem imp_of_mem {S : α → β → Prop} (h : List.Forall₂ R l m)
    (hs : ∀ a b, a ∈ l → R a b → S a b) : List.Forall₂ S l m := by
  induction h with
  | nil => exact .nil
  | cons hr _ ih => exact .cons (hs _ _ (by simp) hr) (ih fun a b ha => hs a b (by simp [ha]))

/-- A third list that each pair of elements has an element for. -/
theorem exists_third {S : β → γ → Prop} {T : α → γ → Prop} (h : List.Forall₂ R l m)
    (hc : ∀ a ∈ l, ∀ b, R a b → ∃ c, S b c ∧ T a c) :
    ∃ n, List.Forall₂ S m n ∧ List.Forall₂ T l n := by
  induction h with
  | nil => exact ⟨[], .nil, .nil⟩
  | cons hr _ ih =>
    obtain ⟨hhead, htail⟩ := List.forall_mem_cons.mp hc
    obtain ⟨c, hs, ht⟩ := hhead _ hr
    obtain ⟨n, hn, hl⟩ := ih htail
    exact ⟨c :: n, .cons hs hn, .cons ht hl⟩

theorem mapM_eq_some {f : α → Option β} (h : List.Forall₂ (fun a b => f a = some b) l m) :
    l.mapM f = some m := by
  induction h with
  | nil => rfl
  | cons hr _ ih => simp [hr, ih]

theorem of_mapM_eq_some {f : α → Option β} (h : l.mapM f = some m) :
    List.Forall₂ (fun a b => f a = some b) l m := by
  induction l generalizing m with
  | nil =>
    obtain rfl := Option.some.inj h
    exact .nil
  | cons a rest ih =>
    rw [List.mapM_cons] at h
    obtain ⟨b, hb, h⟩ := Option.bind_eq_some_iff.mp h
    obtain ⟨bs, hbs, h⟩ := Option.bind_eq_some_iff.mp h
    obtain rfl := Option.some.inj h
    exact .cons hb (ih hbs)

/-- The other list can be put into the same order. -/
theorem exists_perm {l' : List α} (h : List.Forall₂ R l m) (hp : l.Perm l') :
    ∃ m', List.Forall₂ R l' m' ∧ m.Perm m' := by
  obtain ⟨m', hm, hp⟩ := List.perm_comp_forall₂ hp.symm h
  exact ⟨m', hm, hp.symm⟩

theorem map_eq {f : α → γ} {g : β → γ} (h : List.Forall₂ R l m)
    (he : ∀ a b, R a b → f a = g b) : l.map f = m.map g := by
  rw [← List.forall₂_eq_eq_eq, List.forall₂_map_left_iff, List.forall₂_map_right_iff]
  exact h.imp he

end IndexerTypes.Pointwise
