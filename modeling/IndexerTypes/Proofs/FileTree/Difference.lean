import IndexerTypes.Proofs.FileTree.Repetition

/-! # Trees that differ in one file

Two trees may hold the same entries but for the content of one file. No walk can tell them
apart, since a file is a dead end whatever it holds. So every path leads to the same place in
both, all other files read the same, and making directories does the same to both. -/

namespace IndexerTypes.FileTree

variable {t u : FileTree} {p : Path} {l k place : Location}

/-- The trees differ at most in what the file at this location holds. -/
structure DiffersAt (l : Location) (t u : FileTree) : Prop where
  workingDirectory : u.workingDirectory = t.workingDirectory
  entry : ∀ k, k ≠ l → u.entryAt? k = t.entryAt? k
  left : ∃ c, t.entryAt? l = some (.file c)
  right : ∃ c, u.entryAt? l = some (.file c)

/-- Where the same is set to both trees, they differ no more than before. -/
theorem DiffersAt.set (h : DiffersAt l t u) (hne : k ≠ l) (hk : k ≠ []) (e : Entry) :
    DiffersAt l (t.set k e) (u.set k e) := by
  have ht := entryAt?_set t hk e
  have hu := entryAt?_set u hk e
  refine ⟨h.workingDirectory, fun j hj => ?_, ?_, ?_⟩
  · rw [ht, hu, h.entry j hj]
  · rw [ht, if_neg (Ne.symm hne)]
    exact h.left
  · rw [hu, if_neg (Ne.symm hne)]
    exact h.right

namespace DiffersAt

theorem symm (h : DiffersAt l t u) : DiffersAt l u t :=
  ⟨h.workingDirectory.symm, fun k hk => (h.entry k hk).symm, h.right, h.left⟩

/-- Another entry than a file is not where the trees differ. -/
theorem ne_left (h : DiffersAt l t u) (hk : ∀ c, t.entryAt? k ≠ some (.file c)) : k ≠ l := by
  rintro rfl
  obtain ⟨c, hc⟩ := h.left
  exact hk c hc

theorem entry_eq (h : DiffersAt l t u) (hk : ∀ c, t.entryAt? k ≠ some (.file c)) :
    u.entryAt? k = t.entryAt? k := h.entry k (h.ne_left hk)

theorem directory_iff (h : DiffersAt l t u) :
    u.entryAt? k = some .directory ↔ t.entryAt? k = some .directory := by
  constructor
  · intro hk
    exact (h.symm.entry_eq (by simp [hk])).trans hk
  · intro hk
    exact (h.entry_eq (by simp [hk])).trans hk

/-! ## Walks -/

theorem enter_eq (h : DiffersAt l t u) (segment : String) :
    u.enter place segment = t.enter place segment := by
  unfold enter
  by_cases hp : place = l
  · obtain ⟨c, hc⟩ := h.left
    obtain ⟨d, hd⟩ := h.right
    rw [hp, hc, hd]
  · rw [h.entry place hp]

theorem foldlM_enter_eq (h : DiffersAt l t u) (segments : List String) :
    segments.foldlM u.enter place = segments.foldlM t.enter place := by
  have he : u.enter = t.enter := funext fun place => funext fun segment => h.enter_eq segment
  rw [he]

theorem walk_eq (h : DiffersAt l t u) : u.walk p = t.walk p := by
  unfold walk walkFrom startOf
  rw [h.workingDirectory, h.foldlM_enter_eq]

theorem resolve_eq (h : DiffersAt l t u) : u.resolve p = t.resolve p := by
  unfold resolve
  rw [h.workingDirectory, h.foldlM_enter_eq]

theorem find_directory_iff (h : DiffersAt l t u) :
    u.find p = .ok (k, .directory) ↔ t.find p = .ok (k, .directory) := by
  rw [find_eq_directory, find_eq_directory, h.resolve_eq, h.directory_iff]

theorem hasDirectory (h : DiffersAt l t u) (hd : t.HasDirectory p) : u.HasDirectory p :=
  hd.imp_right fun ⟨k, hk⟩ => ⟨k, h.find_directory_iff.mpr hk⟩

/-- A path that leads elsewhere finds the same in both trees. -/
theorem find_eq (h : DiffersAt l t u) (hp : t.walk p ≠ .ok l) : u.find p = t.find p := by
  unfold find
  rw [h.resolve_eq]
  cases hr : t.resolve p with
  | error e => rfl
  | ok k =>
    have hk : k ≠ l := fun he => hp (he ▸ (resolve_eq_ok.mp hr).2)
    simp only [bind, Except.bind, h.entry k hk]

theorem readBytes_eq (h : DiffersAt l t u) (hp : t.walk p ≠ .ok l) :
    u.readBytes p = t.readBytes p := by
  unfold readBytes
  rw [h.find_eq hp]

/-! ## Making directories -/

theorem isDirectory_eq (h : DiffersAt l t u) : u.isDirectory p = t.isDirectory p := by
  rw [Bool.eq_iff_iff, FileTree.isDirectory_iff, FileTree.isDirectory_iff]
  exact exists_congr fun k => h.find_directory_iff

/-- Both trees get the same directory, or neither gets it, for the same reason. -/
theorem makeDirectory (h : DiffersAt l t u) (p : Path) :
    (∃ m n, t.makeDirectory p = .ok m ∧ u.makeDirectory p = .ok n ∧ DiffersAt l m n) ∨
      ∃ e, t.makeDirectory p = .error e ∧ u.makeDirectory p = .error e := by
  unfold FileTree.makeDirectory
  rw [h.resolve_eq]
  cases hr : t.resolve p with
  | error e => exact .inr ⟨e, rfl, rfl⟩
  | ok k =>
    simp only [bind, Except.bind]
    cases hk : t.entryAt? k with
    | none =>
      have hne : k ≠ [] := ne_nil_of_entryAt? (t := t) (by simp [hk])
      rw [h.entry_eq (by simp [hk]), hk]
      exact .inl ⟨_, _, rfl, rfl, h.set (h.ne_left (by simp [hk])) hne .directory⟩
    | some e =>
      have hu : ∃ d, u.entryAt? k = some d := by
        by_cases hl : k = l
        · obtain ⟨d, hd⟩ := h.right
          exact ⟨_, hl ▸ hd⟩
        · exact ⟨e, (h.entry k hl).trans hk⟩
      obtain ⟨d, hd⟩ := hu
      rw [hd]
      exact .inr ⟨.alreadyExists, rfl, rfl⟩

theorem makeNested (h : DiffersAt l t u) (paths : List Path) :
    DiffersAt l (t.makeNested paths).1 (u.makeNested paths).1 ∧
      (u.makeNested paths).2 = (t.makeNested paths).2 := by
  induction paths with
  | nil => exact ⟨h, rfl⟩
  | cons p above ih =>
    unfold FileTree.makeNested
    rcases h.makeDirectory p with ⟨m, n, hm, hn, hmn⟩ | ⟨e, he, he'⟩
    · rw [hm, hn]
      exact ⟨hmn, rfl⟩
    rw [he, he']
    cases e with
    | alreadyExists =>
      rw [h.isDirectory_eq]
      exact ⟨h, rfl⟩
    | notFound =>
      -- the directories above are made first, and then this one is tried again
      generalize t.makeNested above = a at ih ⊢
      generalize u.makeNested above = b at ih ⊢
      obtain ⟨m, r⟩ := a
      obtain ⟨n, r'⟩ := b
      obtain ⟨hmn, hr⟩ := ih
      dsimp only at hmn hr ⊢
      subst hr
      cases r' with
      | error e => exact ⟨hmn, rfl⟩
      | ok done =>
        rcases hmn.makeDirectory p with ⟨m', n', hm, hn, hmade⟩ | ⟨e, he, he'⟩
        · dsimp only
          rw [hm, hn]
          exact ⟨hmade, rfl⟩
        · dsimp only
          rw [he, he', hmn.isDirectory_eq]
          cases e <;> exact ⟨hmn, rfl⟩
    | _ => exact ⟨h, rfl⟩

theorem makeDirectories (h : DiffersAt l t u) {m : FileTree}
    (hm : t.makeDirectories p = (m, .ok ())) :
    ∃ n, u.makeDirectories p = (n, .ok ()) ∧ DiffersAt l m n := by
  obtain ⟨hmn, hr⟩ := h.makeNested p.ancestors
  unfold FileTree.makeDirectories at hm ⊢
  rw [hm] at hmn hr
  exact ⟨_, Prod.ext rfl hr, hmn⟩

end DiffersAt

end IndexerTypes.FileTree
