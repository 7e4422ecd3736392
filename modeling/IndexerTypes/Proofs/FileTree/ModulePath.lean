import IndexerTypes.Proofs.FileTree.Walk

/-! # Module paths

A module path leads from a directory along its names, whether there are such directories or not,
and then to the first of the files that it can mean. A path that the system walks along leads to
the same place if it is made of names only (`walk_join_plain`). -/

namespace IndexerTypes

open IndexerTypes.Path (IsName)

/-- A relative path of names only. -/
structure Path.IsPlain (p : Path) : Prop where
  relative : p.startsAtRoot = false
  names : ∀ name ∈ p.segments, IsName name

namespace FileTree

variable {t : FileTree} {p base : Path} {l place : Location} {name : String}

/-! ## Modules -/

def isFileAt (t : FileTree) (l : Location) : Bool :=
  match t.entryAt? l with
  | some (.file _) => true
  | _ => false

/-- Where a relative text leads from a directory. -/
def locate (directory : Location) (text : String) : Location :=
  (Path.segments ⟨text⟩).foldl (fun place segment =>
    if segment = "." then place else if segment = ".." then place.dropLast
    else place ++ [segment]) directory

/-- The files that a module path can mean, in the order in which they are tried. -/
def candidates (specifier : String) : List String := [specifier ++ ".ts", specifier ++ ".d.ts"]

/-- The file that a module in the directory gets for a module path. -/
def resolveModule? (t : FileTree) (directory : Location) (specifier : String) : Option Location :=
  ((candidates specifier).map (locate directory)).find? t.isFileAt

theorem isFileAt_iff : t.isFileAt l = true ↔ ∃ c, t.entryAt? l = some (.file c) := by
  unfold isFileAt
  split
  · rename_i c h
    simp [h]
  · rename_i hne
    simp only [Bool.false_eq_true, false_iff]
    rintro ⟨c, h⟩
    exact hne c h

theorem isFileAt_of_find {c : ByteArray} (h : t.find p = .ok (l, .file c)) :
    t.isFileAt l = true := isFileAt_iff.mpr ⟨c, (find_eq_file.mp h).2.1⟩

/-! ## Walks along names -/

theorem walkFrom_names {segments : List String} (h : ∀ name ∈ segments, IsName name)
    (hw : t.walkFrom place segments = .ok l) : l = place ++ segments := by
  induction segments generalizing place with
  | nil =>
    rw [walkFrom_nil] at hw
    rw [List.append_nil, Except.ok.inj hw]
  | cons name rest ih =>
    obtain ⟨hname, hrest⟩ := List.forall_mem_cons.mp h
    rw [walkFrom_cons, bind_eq_ok] at hw
    obtain ⟨m, hm, hw⟩ := hw
    obtain ⟨-, -, rfl⟩ := (enter_name hname).mp hm
    rw [ih hrest hw, List.append_assoc, List.singleton_append]

theorem walk_join_plain (h : p.IsPlain) (hw : t.walk (base.join p) = .ok l) :
    ∃ b, t.walk base = .ok b ∧ l = b ++ p.segments := by
  have hstart : t.startOf (base.join p) = t.startOf base := by
    rw [startOf, startOf, Path.startsAtRoot_join base h.relative]
  rw [walk, hstart, Path.segments_join base h.relative, walkFrom_append, bind_eq_ok] at hw
  obtain ⟨b, hb, hw⟩ := hw
  exact ⟨b, hb, walkFrom_names h.names hw⟩

/-! ## Directories -/

/-- What a name is put behind is spelled well if the whole is. -/
theorem isSpelled_of_join_name (hb : base.text ≠ "") (hn : IsName name)
    (h : IsSpelled (base.join ⟨name⟩)) : IsSpelled base := by
  have hj : ∃ rest, (base.join ⟨name⟩).text = base.text ++ rest := by
    rw [Path.join, if_neg (by simp [Path.startsAtRoot_name hn])]
    split
    · exact ⟨name, rfl⟩
    · exact ⟨"/" ++ name, String.append_assoc⟩
  obtain ⟨rest, hrest⟩ := hj
  have hnul := h.noNul
  have hshort := h.short
  rw [hrest] at hnul hshort
  rw [String.toList_append, List.mem_append, not_or] at hnul
  rw [String.utf8ByteSize_append] at hshort
  exact ⟨hnul.1, hb, by omega⟩

/-- A file shows where the directory is that it is in. -/
theorem find_directory_of_file {c : ByteArray} (hb : base.text ≠ "") (hn : IsName name)
    (h : t.find (base.join ⟨name⟩) = .ok (l, .file c)) :
    ∃ b, t.find base = .ok (b, .directory) := by
  obtain ⟨hs, hw⟩ := resolve_eq_ok.mp (find_eq_file.mp h).1
  obtain ⟨b, hb', hd, -, -⟩ := (walk_join_name hn).mp hw
  have hbase := resolve_eq_ok.mpr ⟨isSpelled_of_join_name hb hn hs, hb'⟩
  exact ⟨b, find_eq_directory.mpr ⟨hbase, hd⟩⟩

end FileTree

end IndexerTypes
