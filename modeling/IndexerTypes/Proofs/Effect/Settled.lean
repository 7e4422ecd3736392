import IndexerTypes.Proofs.Effect
import IndexerTypes.Proofs.FileTree.Repetition

/-! # Effects that bring nothing new

An effect is settled in a tree if it succeeds and leaves the tree as it is: the directory is
there, the file holds what is written, or the copy what is copied. A run of settled effects is
no change (`done_of_settled`).

Whether a run has touched a file is seen from its end. No target is lost on the way, so a file
whose entry is none of the targets in the end was none of them before, and has kept its content
(`Done.find_file_of_apart`). A copy of an entry onto itself does not count (`Idle`). -/

namespace IndexerTypes.Effect

open FileTree (Grows)

variable {t u m : FileTree} {l : Location} {p q : Path} {e : Effect} {es : List Effect}

/-! ## Settled effects -/

/-- The effect succeeds and the tree stays as it is. -/
def Settled (t : FileTree) (e : Effect) : Prop := ∃ notices, e.perform t = (t, .ok notices)

theorem done_of_settled (h : ∀ e ∈ es, e.Settled t) : Done t es t := by
  induction es with
  | nil => exact done_nil.mpr rfl
  | cons e rest ih =>
    obtain ⟨hfirst, hrest⟩ := List.forall_mem_cons.mp h
    obtain ⟨notices, hp⟩ := hfirst
    exact done_cons.mpr ⟨t, notices, hp, ih hrest⟩

theorem settled_directory (h : t.HasDirectory p) : (directory p).Settled t := by
  refine ⟨[], ?_⟩
  rw [perform, FileTree.makeDirectories_of_hasDirectory h]

theorem settled_write {what content : String} (h : t.readBytes p = .ok content.toUTF8) :
    (write what p content).Settled t := by
  refine ⟨[pathNotice ("Wrote " ++ what) p], ?_⟩
  rw [perform, FileTree.writeText, FileTree.writeBytes_of_readBytes h]

theorem settled_copy {what : String} {c : ByteArray} (hp : t.readBytes p = .ok c)
    (hq : t.readBytes q = .ok c) : (copy what p q).Settled t := by
  rw [Settled, perform]
  split
  · exact ⟨[], rfl⟩
  · obtain ⟨l, hf⟩ := FileTree.readBytes_eq_ok.mp hp
    have hc : t.copy p q = .ok t :=
      FileTree.copy_eq_ok.mpr ⟨l, c, hf, FileTree.writeBytes_of_readBytes hq⟩
    rw [hc]
    exact ⟨_, rfl⟩

/-! ## What a run has made -/

theorem perform_directory {notices : List Notice} :
    (directory p).perform t = (u, .ok notices) ↔ t.makeDirectories p = (u, .ok ()) ∧ notices = [] := by
  unfold perform
  dsimp only
  split
  · rename_i made _ hm
    simp [hm, eq_comm]
  · rename_i made e hm
    simp [hm]

theorem Done.hasDirectory (h : Done t es u) (hm : directory p ∈ es) : u.HasDirectory p := by
  obtain ⟨before, after, rfl⟩ := List.append_of_mem hm
  obtain ⟨m, -, hr⟩ := done_append.mp h
  obtain ⟨n, notices, hp, hr⟩ := done_cons.mp hr
  exact hr.grows.hasDirectory
    (FileTree.hasDirectory_of_makeDirectories (perform_directory.mp hp).1)

/-- What has been written is a file. -/
theorem Done.isFile_write {what content : String} (h : Done t es u)
    (hm : write what p content ∈ es) : u.isFile p = true := by
  obtain ⟨before, after, rfl⟩ := List.append_of_mem hm
  obtain ⟨m, -, hr⟩ := done_append.mp h
  obtain ⟨n, notices, hp, hr⟩ := done_cons.mp hr
  obtain ⟨l, hf⟩ := FileTree.find_writeBytes (perform_write hp)
  exact hr.grows.isFile (FileTree.isFile_iff.mpr ⟨l, _, hf⟩)

/-! ## What a run has not touched -/

/-- There is nothing to do: an entry is copied onto itself. -/
def Idle (u : FileTree) : Effect → Prop
  | copy _ source target => u.sameEntry source target = true
  | _ => False

instance (u : FileTree) : DecidablePred (Idle u)
  | directory _ => inferInstanceAs (Decidable False)
  | copy _ source target => inferInstanceAs (Decidable (u.sameEntry source target = true))
  | write _ _ _ => inferInstanceAs (Decidable False)

/-- A copy that is one onto itself in the end was one before. -/
theorem perform_of_idle {notices : List Notice} (h : e.perform t = (m, .ok notices))
    (hg : Grows m u) (hi : e.Idle u) : m = t := by
  cases e with
  | directory p => exact hi.elim
  | write what p content => exact hi.elim
  | copy what p q =>
    rcases perform_copy h with ⟨-, he⟩ | ⟨hne, hc⟩
    · exact he
    · exfalso
      obtain ⟨k, c, hp, hw⟩ := FileTree.copy_eq_ok.mp hc
      have hgrown := (FileTree.grows_writeBytes hw).trans hg
      obtain ⟨l, hr, hs, -, -⟩ := FileTree.writeBytes_eq_ok.mp hw
      obtain ⟨j, d, d', hjp, hjq⟩ := FileTree.sameEntry_iff.mp hi
      have hk := hgrown.walk (FileTree.walk_of_find hp)
      have hl := hgrown.walk (FileTree.resolve_eq_ok.mp hr).2
      rw [FileTree.walk_of_find hjp, Except.ok.injEq] at hk
      rw [FileTree.walk_of_find hjq, Except.ok.injEq] at hl
      subst hk hl
      have hq := FileTree.find_eq_file.mpr ⟨hr, (FileTree.find_eq_file.mp hp).2.1, hs⟩
      rw [FileTree.sameEntry_iff.mpr ⟨j, _, _, hp, hq⟩] at hne
      cases hne

/-- A file keeps its content under an effect whose target is another entry in the end. -/
theorem find_perform_of_apart {notices : List Notice} {c : ByteArray}
    (h : e.perform t = (m, .ok notices)) (hg : Grows m u) (hf : t.find p = .ok (l, .file c))
    (hs : ∀ q, e.target? = some q → u.sameEntry p q = true → e.Idle u) :
    m.find p = .ok (l, .file c) := by
  obtain ⟨hr, he, hslash⟩ := FileTree.find_eq_file.mp hf
  have hgrown := grows_perform t e
  rw [h] at hgrown
  by_cases hi : e.Idle u
  · exact perform_of_idle h hg hi ▸ hf
  refine FileTree.find_eq_file.mpr ⟨hgrown.resolve hr, ?_, hslash⟩
  rcases perform_changes t e with hsame | ⟨r, -, hmade⟩ | ⟨q, d, hq, hw⟩
  · rw [h] at hsame
    dsimp only at hsame
    exact hsame ▸ he
  · rw [h] at hmade
    dsimp only at hmade
    exact hmade ▸ (FileTree.adds_makeDirectories t r).entry_of_some he
  · rw [h] at hw
    rw [FileTree.entryAt?_writeBytes hw, he]
    -- a target that leads to the file would be the same entry in the end
    intro hwalk
    obtain ⟨k, hk⟩ := FileTree.find_writeBytes hw
    have hl := hgrown.walk hwalk
    rw [FileTree.walk_of_find hk, Except.ok.injEq] at hl
    obtain ⟨a, ha⟩ := hg.find_file hk
    obtain ⟨b, hb⟩ := (hgrown.trans hg).find_file hf
    exact hi (hs q hq (FileTree.sameEntry_iff.mpr ⟨l, _, _, hb, hl ▸ ha⟩))

/-- **A file that is none of the targets in the end has kept its content.** -/
theorem Done.find_file_of_apart {c : ByteArray} (h : Done t es u)
    (hf : t.find p = .ok (l, .file c))
    (hs : ∀ e ∈ es, ∀ q, e.target? = some q → u.sameEntry p q = true → e.Idle u) :
    u.find p = .ok (l, .file c) := by
  induction es generalizing t with
  | nil => exact done_nil.mp h ▸ hf
  | cons e rest ih =>
    obtain ⟨m, notices, hp, hr⟩ := done_cons.mp h
    obtain ⟨hfirst, hrest⟩ := List.forall_mem_cons.mp hs
    exact ih hr (find_perform_of_apart hp hr.grows hf hfirst) hrest

end IndexerTypes.Effect
