import IndexerTypes.Proofs.Pointwise

/-! # Results and errors of composed readings

A composition succeeds just if each of its parts does; an error that is put into other words
is still an error. What is read for each element of a list succeeds for the whole list just
if it does for each element. -/

namespace IndexerTypes

variable {ε δ α β γ : Type}

theorem bind_eq_ok {x : Except ε α} {f : α → Except ε β} {b : β} :
    x >>= f = .ok b ↔ ∃ a, x = .ok a ∧ f a = .ok b := by
  cases x <;> simp [bind, Except.bind]

theorem bind_eq_error {x : Except ε α} {f : α → Except ε β} {e : ε} :
    x >>= f = .error e ↔ x = .error e ∨ ∃ a, x = .ok a ∧ f a = .error e := by
  cases x <;> simp [bind, Except.bind]

theorem map_eq_ok {f : α → β} {x : Except ε α} {b : β} :
    x.map f = .ok b ↔ ∃ a, x = .ok a ∧ f a = b := by
  cases x <;> simp [Except.map]

theorem map_eq_error {f : α → β} {x : Except ε α} {e : ε} :
    x.map f = .error e ↔ x = .error e := by
  cases x <;> simp [Except.map]

theorem mapError_eq_ok {f : ε → δ} {x : Except ε α} {a : α} :
    x.mapError f = .ok a ↔ x = .ok a := by
  cases x with
  | error e => exact ⟨nofun, nofun⟩
  | ok b =>
    show Except.ok b = Except.ok a ↔ _
    simp

theorem mapError_eq_error {f : ε → δ} {x : Except ε α} {d : δ} :
    x.mapError f = .error d ↔ ∃ e, x = .error e ∧ f e = d := by
  cases x with
  | error e =>
    show Except.error (f e) = Except.error d ↔ _
    simp
  | ok b => exact ⟨nofun, nofun⟩

theorem exists_ok_iff {x : Except ε α} : (∃ a, x = .ok a) ↔ ∀ e, x ≠ .error e := by
  cases x <;> simp

theorem exists_of_isOk {x : Except ε α} (h : x.isOk = true) : ∃ a, x = .ok a := by
  cases x with
  | error e => cases h
  | ok a => exact ⟨a, rfl⟩

/-! ## Readings of whole lists -/

theorem mapM_eq_ok {f : α → Except ε β} {l : List α} {bs : List β} :
    l.mapM f = .ok bs ↔ List.Forall₂ (fun a b => f a = .ok b) l bs := by
  induction l generalizing bs with
  | nil =>
    rw [List.mapM_nil, List.forall₂_nil_left_iff]
    constructor
    · exact fun h => (Except.ok.inj h).symm
    · rintro rfl
      rfl
  | cons a l ih =>
    rw [List.mapM_cons, bind_eq_ok, List.forall₂_cons_left_iff]
    refine exists_congr fun b => ?_
    simp only [bind_eq_ok, ih]
    constructor
    · rintro ⟨hb, cs, hcs, he⟩
      exact ⟨cs, hb, hcs, (Except.ok.inj he).symm⟩
    · rintro ⟨cs, hb, hcs, rfl⟩
      exact ⟨hb, cs, hcs, rfl⟩

theorem mapM_cons_eq_error {f : α → Except ε β} {a : α} {l : List α} {e : ε} :
    (a :: l).mapM f = .error e ↔
      f a = .error e ∨ (∃ b, f a = .ok b) ∧ l.mapM f = .error e := by
  rw [List.mapM_cons, bind_eq_error]
  constructor
  · rintro (ha | ⟨b, hb, h⟩)
    · exact .inl ha
    · rcases bind_eq_error.mp h with hl | ⟨bs, -, hp⟩
      · exact .inr ⟨⟨b, hb⟩, hl⟩
      · cases hp
  · rintro (ha | ⟨⟨b, hb⟩, hl⟩)
    · exact .inl ha
    · exact .inr ⟨b, hb, bind_eq_error.mpr (.inl hl)⟩

/-- The error of a list is that of the first element that gives one. -/
theorem mapM_eq_error {f : α → Except ε β} {l : List α} {e : ε} :
    l.mapM f = .error e ↔ ∃ before a after, l = before ++ a :: after ∧
      (∀ b ∈ before, ∃ c, f b = .ok c) ∧ f a = .error e := by
  induction l with
  | nil =>
    constructor
    · exact nofun
    · rintro ⟨before, a, after, he, -⟩
      simp at he
  | cons a l ih =>
    rw [mapM_cons_eq_error]
    constructor
    · rintro (ha | ⟨hok, hl⟩)
      · exact ⟨[], a, l, rfl, by simp, ha⟩
      · obtain ⟨before, b, after, rfl, hbefore, hb⟩ := ih.mp hl
        exact ⟨a :: before, b, after, rfl, List.forall_mem_cons.mpr ⟨hok, hbefore⟩, hb⟩
    · rintro ⟨before, b, after, he, hbefore, hb⟩
      cases before with
      | nil =>
        obtain ⟨rfl, rfl⟩ := List.cons.inj he
        exact .inl hb
      | cons first before =>
        obtain ⟨rfl, rfl⟩ := List.cons.inj he
        obtain ⟨hok, hbefore⟩ := List.forall_mem_cons.mp hbefore
        exact .inr ⟨hok, ih.mpr ⟨before, b, after, rfl, hbefore, hb⟩⟩

/-- The error of a list is that of one of its elements. -/
theorem mem_of_mapM_eq_error {f : α → Except ε β} {l : List α} {e : ε}
    (h : l.mapM f = .error e) : ∃ a ∈ l, f a = .error e := by
  obtain ⟨before, a, after, rfl, -, ha⟩ := mapM_eq_error.mp h
  exact ⟨a, by simp, ha⟩

/-- One element that gives an error is enough. -/
theorem mapM_ne_ok {f : α → Except ε β} {l : List α} {a : α} {e : ε} (ha : a ∈ l)
    (h : f a = .error e) (bs : List β) : l.mapM f ≠ .ok bs := by
  intro hl
  obtain ⟨b, -, hb⟩ := Pointwise.exists_of_mem_left (mapM_eq_ok.mp hl) ha
  rw [h] at hb
  cases hb

/-- A list succeeds just if each of its elements does. -/
theorem exists_mapM_eq_ok {f : α → Except ε β} {l : List α} :
    (∃ bs, l.mapM f = .ok bs) ↔ ∀ a ∈ l, ∃ b, f a = .ok b := by
  constructor
  · rintro ⟨bs, h⟩ a ha
    obtain ⟨b, -, hb⟩ := Pointwise.exists_of_mem_left (mapM_eq_ok.mp h) ha
    exact ⟨b, hb⟩
  · intro h
    rw [exists_ok_iff]
    intro e he
    obtain ⟨a, ha, hfail⟩ := mem_of_mapM_eq_error he
    obtain ⟨b, hb⟩ := h a ha
    rw [hfail] at hb
    cases hb

/-- Readings that fail alike on each element fail alike on the list. -/
theorem mapM_eq_error_congr {f : α → Except ε β} {g : α → Except ε δ} {l : List α} {e : ε}
    (h : ∀ a ∈ l, ∀ e, f a = .error e ↔ g a = .error e) :
    l.mapM f = .error e ↔ l.mapM g = .error e := by
  induction l with
  | nil => exact ⟨nofun, nofun⟩
  | cons a l ih =>
    have hhead := h a (by simp)
    have htail := ih fun b hb => h b (by simp [hb])
    simp only [mapM_cons_eq_error, exists_ok_iff, ne_eq, hhead, htail]

/-- Reading lists one by one fails as reading them all as one list does. -/
theorem mapM_flatMap_eq_error {g : α → List β} {f : β → Except ε γ} {l : List α} {e : ε} :
    (l.flatMap g).mapM f = .error e ↔ l.mapM (fun a => (g a).mapM f) = .error e := by
  have happend : ∀ (bs cs : List β), (bs ++ cs).mapM f = .error e ↔
      bs.mapM f = .error e ∨ (∃ ds, bs.mapM f = .ok ds) ∧ cs.mapM f = .error e := by
    intro bs cs
    induction bs with
    | nil => simp [pure, Except.pure]
    | cons b bs ih =>
      rw [List.cons_append, mapM_cons_eq_error, mapM_cons_eq_error, ih, exists_mapM_eq_ok,
        exists_mapM_eq_ok, List.forall_mem_cons]
      tauto
  induction l with
  | nil => exact ⟨nofun, nofun⟩
  | cons a l ih =>
    rw [List.flatMap_cons, happend, mapM_cons_eq_error]
    exact or_congr .rfl (and_congr .rfl ih)

end IndexerTypes
