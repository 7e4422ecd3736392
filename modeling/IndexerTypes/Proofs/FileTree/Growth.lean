import IndexerTypes.Proofs.FileTree.Walk

/-! # Trees that grow

No operation takes a directory away or turns a file into a directory. So every path that
leads somewhere goes on leading there (`Grows.walk`), whatever is written in between. On top
of this, each operation is described by what it does to the entries: a write sets the file
that its path leads to, and making directories changes no entry that was there. What a run of
operations may do is bounded by the paths of its files and of its directories
(`GrowsWithin`): any other entry is as before. -/

namespace IndexerTypes.FileTree

variable {t u v : FileTree} {p q : Path} {l k : Location}

/-- Directories stay directories and files stay files. -/
structure Grows (t u : FileTree) : Prop where
  workingDirectory : u.workingDirectory = t.workingDirectory
  directory : ∀ l, t.entryAt? l = some .directory → u.entryAt? l = some .directory
  file : ∀ l c, t.entryAt? l = some (.file c) → ∃ d, u.entryAt? l = some (.file d)

namespace Grows

theorem refl (t : FileTree) : Grows t t := ⟨rfl, fun _ h => h, fun _ c h => ⟨c, h⟩⟩

theorem trans (h : Grows t u) (h' : Grows u v) : Grows t v := by
  refine ⟨h'.workingDirectory.trans h.workingDirectory, ?_, ?_⟩
  · exact fun l hl => h'.directory l (h.directory l hl)
  · intro l c hl
    obtain ⟨d, hd⟩ := h.file l c hl
    exact h'.file l d hd

theorem enter {segment : String} (h : Grows t u) (he : t.enter k segment = .ok l) :
    u.enter k segment = .ok l := by
  rw [enter_eq_ok] at he ⊢
  exact ⟨h.directory k he.1, he.2⟩

theorem walkFrom {segments : List String} (h : Grows t u)
    (hw : t.walkFrom k segments = .ok l) : u.walkFrom k segments = .ok l := by
  induction segments generalizing k with
  | nil => exact hw
  | cons segment rest ih =>
    rw [walkFrom_cons, bind_eq_ok] at hw ⊢
    obtain ⟨m, hm, hw⟩ := hw
    exact ⟨m, h.enter hm, ih hw⟩

theorem walk (h : Grows t u) (hw : t.walk p = .ok l) : u.walk p = .ok l := by
  have hs : u.startOf p = t.startOf p := by simp [startOf, h.workingDirectory]
  unfold FileTree.walk at hw ⊢
  rw [hs]
  exact h.walkFrom hw

theorem resolve (h : Grows t u) (hr : t.resolve p = .ok l) : u.resolve p = .ok l := by
  rw [resolve_eq_ok] at hr ⊢
  exact ⟨hr.1, h.walk hr.2⟩

theorem find_file {c : ByteArray} (h : Grows t u) (hf : t.find p = .ok (l, .file c)) :
    ∃ d, u.find p = .ok (l, .file d) := by
  obtain ⟨hr, he, hs⟩ := find_eq_file.mp hf
  obtain ⟨d, hd⟩ := h.file l c he
  exact ⟨d, find_eq_file.mpr ⟨h.resolve hr, hd, hs⟩⟩

theorem find_directory (h : Grows t u) (hd : t.find p = .ok (l, .directory)) :
    u.find p = .ok (l, .directory) := by
  rw [find_eq_directory] at hd ⊢
  exact ⟨h.resolve hd.1, h.directory l hd.2⟩

/-- What was there is not gone. -/
theorem entry {e : Entry} (h : Grows t u) (he : t.entryAt? l = some e) :
    ∃ d, u.entryAt? l = some d := by
  cases e with
  | directory => exact ⟨_, h.directory l he⟩
  | file c =>
    obtain ⟨d, hd⟩ := h.file l c he
    exact ⟨_, hd⟩

theorem isFile (h : Grows t u) (hf : t.isFile p = true) : u.isFile p = true := by
  obtain ⟨l, c, hf⟩ := isFile_iff.mp hf
  obtain ⟨d, hd⟩ := h.find_file hf
  exact isFile_iff.mpr ⟨l, d, hd⟩

end Grows

/-! ## Growth within bounds -/

/-- All that the second tree has and the first has not are files at some paths and new
directories at others. -/
structure GrowsWithin (files directories : Path → Prop) (t u : FileTree) : Prop where
  grows : Grows t u
  entry : ∀ l, u.entryAt? l = t.entryAt? l ∨
    (∃ q c, files q ∧ u.find q = .ok (l, .file c)) ∨
    (t.entryAt? l = none ∧ ∃ q, directories q ∧ u.find q = .ok (l, .directory))

namespace GrowsWithin

variable {files directories : Path → Prop}

theorem refl (t : FileTree) : GrowsWithin files directories t t := ⟨.refl t, fun _ => .inl rfl⟩

theorem trans (h : GrowsWithin files directories t u) (h' : GrowsWithin files directories u v) :
    GrowsWithin files directories t v := by
  refine ⟨h.grows.trans h'.grows, fun l => ?_⟩
  rcases h'.entry l with hl | hf | ⟨hn, hd⟩
  · -- the second part leaves the entry alone, so what the first one did is still there
    rw [hl]
    rcases h.entry l with hl | ⟨q, c, hq, hf⟩ | ⟨hn, q, hq, hd⟩
    · exact .inl hl
    · obtain ⟨d, hd⟩ := h'.grows.find_file hf
      exact .inr (.inl ⟨q, d, hq, hd⟩)
    · exact .inr (.inr ⟨hn, q, hq, h'.grows.find_directory hd⟩)
  · exact .inr (.inl hf)
  · refine .inr (.inr ⟨?_, hd⟩)
    cases he : t.entryAt? l with
    | none => rfl
    | some e =>
      obtain ⟨d, hd⟩ := h.grows.entry he
      rw [hn] at hd
      cases hd

end GrowsWithin

/-! ## One entry set -/

/-- The root of the tree is always a directory. -/
theorem ne_nil_of_entryAt? (hl : t.entryAt? l ≠ some .directory) : l ≠ [] := by
  rintro rfl
  exact hl (by simp [entryAt?])

/-- An entry is set where no directory was, and as a file where a file was. -/
theorem grows_set {e : Entry} (hl : t.entryAt? l ≠ some .directory)
    (hf : ∀ c, t.entryAt? l = some (.file c) → ∃ d, e = .file d) : Grows t (t.set l e) := by
  have hset := entryAt?_set t (ne_nil_of_entryAt? hl) e
  refine ⟨rfl, ?_, ?_⟩
  · intro k hk
    rw [hset, if_neg]
    · exact hk
    · rintro rfl
      exact hl hk
  · intro k d hk
    rw [hset]
    split
    · rename_i hkl
      obtain ⟨c, rfl⟩ := hf d (hkl ▸ hk)
      exact ⟨c, rfl⟩
    · exact ⟨d, hk⟩

/-! ## Writing -/

theorem writeBytes_eq_ok {c : ByteArray} :
    t.writeBytes p c = .ok u ↔ ∃ l, t.resolve p = .ok l ∧ p.endsWithSlash = false ∧
      t.entryAt? l ≠ some .directory ∧ u = t.set l (.file c) := by
  unfold writeBytes
  rw [bind_eq_ok]
  refine exists_congr fun l => and_congr_right fun _ => ?_
  cases hs : p.endsWithSlash
  · cases he : t.entryAt? l with
    | none => simp [eq_comm]
    | some entry => cases entry <;> simp [eq_comm]
  · simp

theorem grows_writeBytes {c : ByteArray} (h : t.writeBytes p c = .ok u) : Grows t u := by
  obtain ⟨l, -, -, hd, rfl⟩ := writeBytes_eq_ok.mp h
  exact grows_set hd fun _ _ => ⟨c, rfl⟩

/-- A write changes the entry that its path leads to, and no other. -/
theorem entryAt?_writeBytes {c : ByteArray} (h : t.writeBytes p c = .ok u)
    (hk : t.walk p ≠ .ok k) : u.entryAt? k = t.entryAt? k := by
  obtain ⟨l, hr, -, hd, rfl⟩ := writeBytes_eq_ok.mp h
  have hne := ne_nil_of_entryAt? hd
  rw [entryAt?_set t hne, if_neg]
  rintro rfl
  exact hk (resolve_eq_ok.mp hr).2

theorem find_writeBytes {c : ByteArray} (h : t.writeBytes p c = .ok u) :
    ∃ l, u.find p = .ok (l, .file c) := by
  have hg := grows_writeBytes h
  obtain ⟨l, hr, hs, hd, rfl⟩ := writeBytes_eq_ok.mp h
  have hne := ne_nil_of_entryAt? hd
  exact ⟨l, find_eq_file.mpr ⟨hg.resolve hr, by simp [entryAt?_set t hne], hs⟩⟩

theorem growsWithin_writeBytes {files directories : Path → Prop} {c : ByteArray}
    (h : t.writeBytes p c = .ok u) (hp : files p) : GrowsWithin files directories t u := by
  have hg := grows_writeBytes h
  obtain ⟨l, hf⟩ := find_writeBytes h
  refine ⟨hg, fun k => ?_⟩
  by_cases hk : t.walk p = .ok k
  · have hl := walk_of_find hf
    rw [hg.walk hk, Except.ok.injEq] at hl
    exact .inr (.inl ⟨p, c, hp, hl ▸ hf⟩)
  · exact .inl (entryAt?_writeBytes h hk)

/-- A file can be written again. -/
theorem writeBytes_of_isFile (hf : t.isFile p = true) (c : ByteArray) :
    ∃ u, t.writeBytes p c = .ok u := by
  obtain ⟨l, d, hd⟩ := isFile_iff.mp hf
  obtain ⟨hr, he, hs⟩ := find_eq_file.mp hd
  exact ⟨_, writeBytes_eq_ok.mpr ⟨l, hr, hs, by simp [he], rfl⟩⟩

theorem copy_eq_ok :
    t.copy p q = .ok u ↔ ∃ l c, t.find p = .ok (l, .file c) ∧ t.writeBytes q c = .ok u := by
  unfold copy
  rw [bind_eq_ok]
  constructor
  · rintro ⟨⟨l, e⟩, hf, h⟩
    cases e with
    | directory => simp at h
    | file c => exact ⟨l, c, hf, h⟩
  · rintro ⟨l, c, hf, h⟩
    exact ⟨_, hf, h⟩

/-! ## Making directories -/

/-- The second tree has more directories, and else it is the first. -/
structure AddsDirectories (t u : FileTree) : Prop where
  workingDirectory : u.workingDirectory = t.workingDirectory
  entry : ∀ l, u.entryAt? l = t.entryAt? l ∨
    (t.entryAt? l = none ∧ u.entryAt? l = some .directory)

namespace AddsDirectories

/-- What was there is still there, unchanged. -/
theorem entry_of_some {e : Entry} (h : AddsDirectories t u) (he : t.entryAt? l = some e) :
    u.entryAt? l = some e := by
  rcases h.entry l with hl | ⟨hn, -⟩
  · exact hl.trans he
  · rw [he] at hn
    cases hn

theorem grows (h : AddsDirectories t u) : Grows t u :=
  ⟨h.workingDirectory, fun _ hl => h.entry_of_some hl, fun _ c hl => ⟨c, h.entry_of_some hl⟩⟩

end AddsDirectories

theorem GrowsWithin.addsDirectories {directories : Path → Prop}
    (h : GrowsWithin (fun _ => False) directories t u) : AddsDirectories t u := by
  refine ⟨h.grows.workingDirectory, fun l => ?_⟩
  rcases h.entry l with hl | ⟨_, _, hq, -⟩ | ⟨hn, q, -, hd⟩
  · exact .inl hl
  · exact hq.elim
  · exact .inr ⟨hn, (find_eq_directory.mp hd).2⟩

theorem makeDirectory_eq_ok :
    t.makeDirectory p = .ok u ↔
      ∃ l, t.resolve p = .ok l ∧ t.entryAt? l = none ∧ u = t.set l .directory := by
  unfold makeDirectory
  rw [bind_eq_ok]
  refine exists_congr fun l => and_congr_right fun _ => ?_
  cases t.entryAt? l <;> simp [eq_comm]

section

variable {files directories : Path → Prop}

theorem growsWithin_makeDirectory (h : t.makeDirectory p = .ok u) (hp : directories p) :
    GrowsWithin files directories t u := by
  obtain ⟨l, hr, hn, rfl⟩ := makeDirectory_eq_ok.mp h
  have hd : t.entryAt? l ≠ some .directory := by simp [hn]
  have hg : Grows t (t.set l .directory) := grows_set hd (by simp [hn])
  have hset := entryAt?_set t (ne_nil_of_entryAt? hd) .directory
  refine ⟨hg, fun k => ?_⟩
  by_cases hk : k = l
  · subst hk
    refine .inr (.inr ⟨hn, p, hp, find_eq_directory.mpr ⟨hg.resolve hr, ?_⟩⟩)
    simp [hset]
  · exact .inl (by simp [hset, hk])

theorem growsWithin_makeNested {paths : List Path} (t : FileTree)
    (hp : ∀ p ∈ paths, directories p) :
    GrowsWithin files directories t (t.makeNested paths).1 := by
  induction paths with
  | nil => exact .refl t
  | cons p above ih =>
    have hfirst := hp p (by simp)
    have habove := ih fun q hq => hp q (by simp [hq])
    unfold makeNested
    split
    · rename_i made h
      exact growsWithin_makeDirectory h hfirst
    · exact .refl t
    · split
      · rename_i grown e h
        exact h ▸ habove
      · rename_i grown _ h
        have hgrown : GrowsWithin files directories t grown := by simpa [h] using habove
        split
        · rename_i made hm
          exact hgrown.trans (growsWithin_makeDirectory hm hfirst)
        · exact hgrown
        · exact hgrown
    · exact .refl t

/-- Only the directory and those above it are made. -/
theorem growsWithin_makeDirectories (t : FileTree) (hp : ∀ q ∈ p.ancestors, directories q) :
    GrowsWithin files directories t (t.makeDirectories p).1 := growsWithin_makeNested t hp

end

theorem adds_makeDirectories (t : FileTree) (p : Path) :
    AddsDirectories t (t.makeDirectories p).1 := by
  have h : GrowsWithin (fun _ => False) (· ∈ p.ancestors) t (t.makeDirectories p).1 :=
    growsWithin_makeDirectories t fun q hq => hq
  exact h.addsDirectories

/-- Where a file is, a directory cannot be. -/
theorem makeDirectories_of_isFile {e : FileError} (hf : t.isFile p = true)
    (h : (t.makeDirectories p).2 = .error e) : e = .alreadyExists := by
  obtain ⟨l, d, hd⟩ := isFile_iff.mp hf
  obtain ⟨hr, he, -⟩ := find_eq_file.mp hd
  have hm : t.makeDirectory p = .error .alreadyExists := by
    unfold makeDirectory
    rw [hr]
    simp [bind, Except.bind, he]
  unfold makeDirectories at h
  rcases p.ancestors_eq with ha | ⟨above, ha⟩
  · rw [ha] at h
    cases h
  · rw [ha] at h
    unfold makeNested at h
    rw [hm] at h
    dsimp only at h
    split at h
    · cases h
    · exact (Except.error.inj h).symm

end IndexerTypes.FileTree
