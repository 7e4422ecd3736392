import IndexerTypes.Proofs.FileTree.Growth

/-! # Doing the same again

What is there already cannot be made again: to write into a file what it holds, or to make a
directory that there is, gives back the very tree (`writeBytes_of_readBytes`,
`makeDirectories_of_hasDirectory`). A path without names in it names no directory to be made, so
there is nothing to make either (`HasDirectory`). -/

namespace IndexerTypes.FileTree

variable {t u : FileTree} {p : Path} {l k : Location} {d e : Entry}

/-! ## Entries put twice -/

section

variable {entries : List (Location × Entry)}

theorem put_of_lookup (h : entries.lookup l = some e) : put l e entries = entries := by
  induction entries with
  | nil => cases h
  | cons head rest ih =>
    obtain ⟨m, old⟩ := head
    rw [List.lookup_cons] at h
    by_cases hm : m = l
    · subst hm
      simp only [beq_self_eq_true, Option.some.injEq] at h
      simp [put, h]
    · have hmiss : (l == m) = false := by simpa using Ne.symm hm
      rw [hmiss] at h
      simp [put, hm, ih h]

theorem put_put (l : Location) (d e : Entry) (entries : List (Location × Entry)) :
    put l e (put l d entries) = put l e entries := by
  induction entries with
  | nil => simp [put]
  | cons head rest ih =>
    obtain ⟨m, old⟩ := head
    by_cases hm : m = l
    · simp [put, hm]
    · simp [put, hm, ih]

/-- Entries that differ in their places are put in any order if one of them is there. -/
theorem put_comm (hne : k ≠ l) (h : (entries.lookup l).isSome) :
    put k d (put l e entries) = put l e (put k d entries) := by
  induction entries with
  | nil => cases h
  | cons head rest ih =>
    obtain ⟨m, old⟩ := head
    by_cases hm : m = l
    · subst hm
      simp [put, Ne.symm hne]
    · have hmiss : (l == m) = false := by simpa using Ne.symm hm
      rw [List.lookup_cons, hmiss] at h
      by_cases hk : m = k
      · subst hk
        simp [put, hne]
      · simp [put, hm, hk, ih h]

end

theorem set_of_entryAt? (hne : l ≠ []) (h : t.entryAt? l = some e) : t.set l e = t := by
  rw [entryAt?, if_neg hne] at h
  rw [set, put_of_lookup h]

theorem set_set (t : FileTree) (l : Location) (d e : Entry) : (t.set l d).set l e = t.set l e := by
  rw [set, set, set, put_put]

theorem set_comm (hne : k ≠ l) (hl : l ≠ []) (h : t.entryAt? l ≠ none) :
    (t.set l e).set k d = (t.set k d).set l e := by
  rw [entryAt?, if_neg hl, Option.ne_none_iff_isSome] at h
  simp only [set, put_comm hne h]

/-! ## Files written again -/

/-- A file can be written just as its content is, and nothing comes of it. -/
theorem writeBytes_of_readBytes {c : ByteArray} (h : t.readBytes p = .ok c) :
    t.writeBytes p c = .ok t := by
  obtain ⟨l, hf⟩ := readBytes_eq_ok.mp h
  obtain ⟨hr, he, hs⟩ := find_eq_file.mp hf
  have hd : t.entryAt? l ≠ some .directory := by simp [he]
  have hset := set_of_entryAt? (ne_nil_of_entryAt? hd) he
  exact writeBytes_eq_ok.mpr ⟨l, hr, hs, hd, hset.symm⟩

/-! ## Directories made again -/

/-- There is nothing to make on the way to the path. -/
def HasDirectory (t : FileTree) (p : Path) : Prop :=
  p.ancestors = [] ∨ ∃ l, t.find p = .ok (l, .directory)

theorem Grows.hasDirectory (h : Grows t u) (hd : t.HasDirectory p) : u.HasDirectory p := by
  rcases hd with hn | ⟨l, hl⟩
  · exact .inl hn
  · exact .inr ⟨l, h.find_directory hl⟩

theorem isDirectory_iff : t.isDirectory p = true ↔ ∃ l, t.find p = .ok (l, .directory) := by
  unfold isDirectory
  split
  · rename_i l h
    simp [h]
  · rename_i hne
    simp only [Bool.false_eq_true, false_iff]
    rintro ⟨l, h⟩
    exact hne l h

/-- A directory that is there is in the way of another one. -/
theorem makeDirectory_of_find (h : t.find p = .ok (l, .directory)) :
    t.makeDirectory p = .error .alreadyExists := by
  obtain ⟨hr, he⟩ := find_eq_directory.mp h
  rw [makeDirectory, hr]
  simp only [bind, Except.bind, he]

theorem makeDirectories_of_hasDirectory (h : t.HasDirectory p) :
    t.makeDirectories p = (t, .ok ()) := by
  unfold makeDirectories
  rcases p.ancestors_eq with ha | ⟨above, ha⟩
  · rw [ha, makeNested]
  · rcases h with hn | ⟨l, hl⟩
    · rw [ha] at hn
      cases hn
    · rw [ha, makeNested, makeDirectory_of_find hl]
      simp only [isDirectory_iff.mpr ⟨l, hl⟩, if_true]

/-- A directory that has been made is found. -/
theorem find_of_makeDirectory (h : t.makeDirectory p = .ok u) :
    ∃ l, u.find p = .ok (l, .directory) := by
  obtain ⟨l, hr, hn, rfl⟩ := makeDirectory_eq_ok.mp h
  have hd : t.entryAt? l ≠ some .directory := by simp [hn]
  have hg : Grows t (t.set l .directory) := grows_set hd (by simp [hn])
  have hset := entryAt?_set t (ne_nil_of_entryAt? hd) .directory l
  exact ⟨l, find_eq_directory.mpr ⟨hg.resolve hr, by simpa using hset⟩⟩

theorem hasDirectory_of_makeDirectories (h : t.makeDirectories p = (u, .ok ())) :
    u.HasDirectory p := by
  unfold makeDirectories at h
  rcases p.ancestors_eq with ha | ⟨above, ha⟩
  · exact .inl ha
  have hthere {m : FileTree} (he : (if m.isDirectory p then Except.ok () else
      Except.error FileError.alreadyExists) = .ok ()) : ∃ l, m.find p = .ok (l, .directory) := by
    split at he
    · rename_i hd
      exact isDirectory_iff.mp hd
    · cases he
  refine .inr ?_
  rw [ha, makeNested] at h
  split at h
  · rename_i made hm
    obtain rfl := (Prod.mk.inj h).1
    exact find_of_makeDirectory hm
  · obtain ⟨rfl, he⟩ := Prod.mk.inj h
    exact hthere he
  · split at h
    · cases (Prod.mk.inj h).2
    · rename_i grown _ _
      split at h
      · rename_i made hm
        obtain rfl := (Prod.mk.inj h).1
        exact find_of_makeDirectory hm
      · obtain ⟨rfl, he⟩ := Prod.mk.inj h
        exact hthere he
      · cases (Prod.mk.inj h).2
  · cases (Prod.mk.inj h).2

end IndexerTypes.FileTree
