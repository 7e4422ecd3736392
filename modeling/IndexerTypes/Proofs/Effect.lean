import IndexerTypes.Effect
import IndexerTypes.Proofs.FileTree.Growth

/-! # What a run of effects leaves

Whether it fails or not, an effect only lets the tree grow, and a run of effects stays within
what bounds each of them (`growsWithin_performAll`). A run that does not fail is the run of its
first part and then that of the rest (`done_append`). In between, a file keeps its content as
long as no effect's target leads to it, so what an effect wrote is still there at the end if
the later targets lie elsewhere (`holds_of_done`). -/

namespace IndexerTypes.Effect

open FileTree (Grows GrowsWithin Apart)

variable {t u : FileTree} {l k : Location} {p q : Path}

/-- The path of the one file that the effect writes. -/
def target? : Effect → Option Path
  | directory _ => none
  | copy _ _ target => some target
  | write _ target _ => some target

/-! ## One effect -/

theorem perform_copy {what : String} {notices : List Notice}
    (h : (copy what p q).perform t = (u, .ok notices)) :
    (t.sameEntry p q = true ∧ u = t) ∨ (t.sameEntry p q = false ∧ t.copy p q = .ok u) := by
  unfold perform at h
  dsimp only at h
  split at h
  · rename_i hs
    exact .inl ⟨hs, (Prod.mk.inj h).1.symm⟩
  · rename_i hs
    split at h
    · rename_i made hc
      exact .inr ⟨by simpa using hs, by rw [hc, (Prod.mk.inj h).1]⟩
    · simp at h

/-- Behind a copy the target holds what the source held, also if both are one file. -/
theorem readBytes_perform_copy {what : String} {notices : List Notice} {c : ByteArray}
    (hc : t.readBytes p = .ok c) (h : (copy what p q).perform t = (u, .ok notices)) :
    u.readBytes q = .ok c := by
  obtain ⟨l, hl⟩ := FileTree.readBytes_eq_ok.mp hc
  rw [FileTree.readBytes_eq_ok]
  rcases perform_copy h with ⟨hs, rfl⟩ | ⟨-, hcopy⟩
  · obtain ⟨k, e, d, hp, hq⟩ := FileTree.sameEntry_iff.mp hs
    obtain ⟨rfl, rfl⟩ := Prod.mk.inj (Except.ok.inj (hp.symm.trans hl))
    have he := (FileTree.find_eq_file.mp hp).2.1
    cases d with
    | directory =>
      have hd := (FileTree.find_eq_directory.mp hq).2
      rw [he] at hd
      cases hd
    | file d =>
      have hd := (FileTree.find_eq_file.mp hq).2.1
      rw [he, Option.some.injEq, Entry.file.injEq] at hd
      exact ⟨k, hd ▸ hq⟩
  · obtain ⟨k, d, hp, hw⟩ := FileTree.copy_eq_ok.mp hcopy
    have hd := (Prod.mk.inj (Except.ok.inj (hp.symm.trans hl))).2
    rw [Entry.file.injEq] at hd
    exact FileTree.find_writeBytes (hd ▸ hw)

theorem perform_write {what content : String} {notices : List Notice}
    (h : (write what p content).perform t = (u, .ok notices)) :
    t.writeText p content = .ok u := by
  unfold perform at h
  dsimp only at h
  split at h
  · rename_i made hw
    rw [hw, (Prod.mk.inj h).1]
  · simp at h

theorem perform_directory_error {fault : Fault}
    (h : ((directory p).perform t).2 = .error fault) :
    ∃ e, (t.makeDirectories p).2 = .error e ∧ fault = .file p e := by
  unfold perform at h
  dsimp only at h
  split at h
  · cases h
  · rename_i made e hm
    exact ⟨e, by rw [hm], (Except.error.inj h).symm⟩

theorem perform_write_error {what content : String} {fault : Fault}
    (h : ((write what p content).perform t).2 = .error fault) :
    ∃ e, t.writeText p content = .error e ∧ fault = .file p e := by
  unfold perform at h
  dsimp only at h
  split at h
  · cases h
  · rename_i e hw
    exact ⟨e, hw, (Except.error.inj h).symm⟩

theorem perform_copy_error {what : String} {fault : Fault}
    (h : ((copy what p q).perform t).2 = .error fault) :
    ∃ e, t.copy p q = .error e ∧ fault = .file p e := by
  unfold perform at h
  dsimp only at h
  split at h
  · cases h
  split at h
  · cases h
  · rename_i e hc
    exact ⟨e, hc, (Except.error.inj h).symm⟩

/-- The path that a fault of the effect is about. -/
def subject : Effect → Path
  | directory path => path
  | copy _ source _ => source
  | write _ target _ => target

/-- **An effect can only fail on its own file or directory.** -/
theorem perform_error {e : Effect} {fault : Fault} (h : (e.perform t).2 = .error fault) :
    ∃ error, fault = .file e.subject error := by
  cases e with
  | directory p =>
    obtain ⟨error, -, hf⟩ := perform_directory_error h
    exact ⟨error, hf⟩
  | copy what p q =>
    obtain ⟨error, -, hf⟩ := perform_copy_error h
    exact ⟨error, hf⟩
  | write what p content =>
    obtain ⟨error, -, hf⟩ := perform_write_error h
    exact ⟨error, hf⟩

/-- All that an effect can do to a tree, whether it fails or not: nothing, or it makes its
directories, or it writes the file at its target. -/
theorem perform_changes (t : FileTree) (e : Effect) :
    (e.perform t).1 = t ∨
      (∃ p, e = directory p ∧ (e.perform t).1 = (t.makeDirectories p).1) ∨
      ∃ q c, e.target? = some q ∧ t.writeBytes q c = .ok (e.perform t).1 := by
  cases e with
  | directory p =>
    refine .inr (.inl ⟨p, rfl, ?_⟩)
    unfold perform
    dsimp only
    split
    · rename_i made _ hm
      rw [hm]
    · rename_i made _ hm
      rw [hm]
  | copy what p q =>
    unfold perform
    dsimp only
    split
    · exact .inl rfl
    split
    · rename_i made hc
      obtain ⟨_, c, _, hw⟩ := FileTree.copy_eq_ok.mp hc
      exact .inr (.inr ⟨q, c, rfl, hw⟩)
    · exact .inl rfl
  | write what p content =>
    unfold perform
    dsimp only
    split
    · rename_i made hw
      exact .inr (.inr ⟨p, content.toUTF8, rfl, hw⟩)
    · exact .inl rfl

/-- The effect writes and makes only what is admitted. -/
def Within (files directories : Path → Prop) : Effect → Prop
  | directory p => ∀ q ∈ p.ancestors, directories q
  | copy _ _ target => files target
  | write _ target _ => files target

theorem Within.target {files directories : Path → Prop} {e : Effect}
    (h : e.Within files directories) {q : Path} (hq : e.target? = some q) : files q := by
  cases e with
  | directory p => cases hq
  | copy what p r => exact Option.some.inj hq ▸ h
  | write what r content => exact Option.some.inj hq ▸ h

theorem growsWithin_perform {files directories : Path → Prop} (t : FileTree) {e : Effect}
    (h : e.Within files directories) : GrowsWithin files directories t (e.perform t).1 := by
  rcases perform_changes t e with hs | ⟨p, rfl, hm⟩ | ⟨q, c, hq, hw⟩
  · exact hs.symm ▸ .refl t
  · exact hm.symm ▸ FileTree.growsWithin_makeDirectories t h
  · exact FileTree.growsWithin_writeBytes hw (h.target hq)

theorem grows_perform (t : FileTree) (e : Effect) : Grows t (e.perform t).1 := by
  rcases perform_changes t e with hs | ⟨p, -, hm⟩ | ⟨q, c, -, hw⟩
  · exact hs.symm ▸ .refl t
  · exact hm.symm ▸ (FileTree.adds_makeDirectories t p).grows
  · exact FileTree.grows_writeBytes hw

/-- An entry stays as it is under an effect whose target leads elsewhere. -/
theorem entryAt?_perform {d : Entry} {e : Effect} (hd : t.entryAt? k = some d)
    (ht : ∀ q, e.target? = some q → t.walk q ≠ .ok k) :
    (e.perform t).1.entryAt? k = some d := by
  rcases perform_changes t e with hs | ⟨p, -, hm⟩ | ⟨q, c, hq, hw⟩
  · exact hs.symm ▸ hd
  · exact hm.symm ▸ (FileTree.adds_makeDirectories t p).entry_of_some hd
  · exact (FileTree.entryAt?_writeBytes hw (ht q hq)).trans hd

/-- A file keeps its content under a copy that leads elsewhere or is a copy of it. -/
theorem find_perform_copy {r : Path} {what : String} {notices : List Notice} {c : ByteArray}
    (hf : t.find r = .ok (l, .file c)) (h : (copy what p q).perform t = (u, .ok notices))
    (hs : t.walk q = .ok l → t.find p = .ok (l, .file c)) : u.find r = .ok (l, .file c) := by
  obtain ⟨hres, he, hslash⟩ := FileTree.find_eq_file.mp hf
  have hg := grows_perform t (copy what p q)
  have hkeep : t.walk q ≠ .ok l → (perform t (copy what p q)).1.entryAt? l = some (.file c) := by
    intro hw
    refine entryAt?_perform he fun r hr => ?_
    exact Option.some.inj hr ▸ hw
  rw [h] at hg hkeep
  refine FileTree.find_eq_file.mpr ⟨hg.resolve hres, ?_, hslash⟩
  by_cases hw : t.walk q = .ok l
  · have hc := FileTree.readBytes_eq_ok.mpr ⟨l, hs hw⟩
    obtain ⟨k, hk⟩ := FileTree.readBytes_eq_ok.mp (readBytes_perform_copy hc h)
    obtain ⟨hkres, hke, -⟩ := FileTree.find_eq_file.mp hk
    have hwalk := hg.walk hw
    rw [(FileTree.resolve_eq_ok.mp hkres).2, Except.ok.injEq] at hwalk
    exact hwalk ▸ hke
  · exact hkeep hw

/-! ## Runs -/

/-- What bounds each effect bounds a run of them, also one that fails on the way. -/
theorem growsWithin_performAll {files directories : Path → Prop} {es : List Effect}
    (t : FileTree) (h : ∀ e ∈ es, e.Within files directories) :
    GrowsWithin files directories t (performAll t es).tree := by
  induction es generalizing t with
  | nil => exact .refl t
  | cons e rest ih =>
    have hfirst := growsWithin_perform t (h e (by simp))
    have hrest := fun m => ih m fun d hd => h d (by simp [hd])
    rw [performAll]
    split
    · rename_i m fault hp
      rw [hp] at hfirst
      exact hfirst
    · rename_i m notices hp
      rw [hp] at hfirst
      exact hfirst.trans (hrest m)

/-- Nothing is lost, whether the run fails or not. -/
theorem grows_performAll (t : FileTree) (es : List Effect) : Grows t (performAll t es).tree := by
  have hall : ∀ e ∈ es, e.Within (fun _ => True) fun _ => True := by
    intro e _
    cases e <;> simp [Within]
  exact (growsWithin_performAll t hall).grows

/-- What comes of the first effects decides whether the others are tried. -/
theorem performAll_append (t : FileTree) (before after : List Effect) :
    performAll t (before ++ after) =
      match (performAll t before).fault with
      | some _ => performAll t before
      | none =>
        let later := performAll (performAll t before).tree after
        { later with notices := (performAll t before).notices ++ later.notices } := by
  induction before generalizing t with
  | nil => rfl
  | cons e rest ih =>
    rw [List.cons_append, performAll, performAll]
    split
    · rfl
    · rename_i m notices hp
      dsimp only
      rw [ih m]
      split <;> simp

/-- The fault of a run is that of one of its effects. -/
theorem perform_of_fault {es : List Effect} {fault : Fault}
    (h : (performAll t es).fault = some fault) :
    ∃ e ∈ es, ∃ m, Grows t m ∧ (e.perform m).2 = .error fault := by
  induction es generalizing t with
  | nil => cases h
  | cons e rest ih =>
    rw [performAll] at h
    split at h
    · rename_i m found hp
      obtain rfl := Option.some.inj h
      exact ⟨e, by simp, t, .refl t, by rw [hp]⟩
    · rename_i m notices hp
      obtain ⟨d, hd, n, hg, hf⟩ := ih h
      have hm := grows_perform t e
      rw [hp] at hm
      exact ⟨d, by simp [hd], n, hm.trans hg, hf⟩

/-! ## Runs that do not fail -/

/-- All effects are performed, and they give the second tree. -/
def Done (t : FileTree) (es : List Effect) (u : FileTree) : Prop :=
  (performAll t es).fault = none ∧ (performAll t es).tree = u

theorem done_nil : Done t [] u ↔ u = t := by
  simp [Done, performAll, eq_comm]

theorem done_cons {e : Effect} {rest : List Effect} :
    Done t (e :: rest) u ↔ ∃ m notices, e.perform t = (m, .ok notices) ∧ Done m rest u := by
  unfold Done
  rw [performAll]
  split
  · rename_i m fault hp
    simp [hp]
  · rename_i m notices hp
    simp [hp]

theorem done_append {before after : List Effect} :
    Done t (before ++ after) u ↔ ∃ m, Done t before m ∧ Done m after u := by
  induction before generalizing t with
  | nil => simp [done_nil]
  | cons e rest ih =>
    simp only [List.cons_append, done_cons, ih]
    constructor
    · rintro ⟨m, notices, hp, n, hr, ha⟩
      exact ⟨n, ⟨m, notices, hp, hr⟩, ha⟩
    · rintro ⟨n, ⟨m, notices, hp, hr⟩, ha⟩
      exact ⟨m, notices, hp, n, hr, ha⟩

theorem Done.grows {es : List Effect} (h : Done t es u) : Grows t u := by
  induction es generalizing t with
  | nil => exact done_nil.mp h ▸ .refl t
  | cons e rest ih =>
    obtain ⟨m, notices, hp, hr⟩ := done_cons.mp h
    have hg := grows_perform t e
    rw [hp] at hg
    exact hg.trans (ih hr)

/-- No target of the effects ever leads where the path leads. -/
def Spares (es : List Effect) (p : Path) : Prop := ∀ e ∈ es, ∀ q, e.target? = some q → Apart p q

theorem spares_nil : Spares [] p := by simp [Spares]

theorem spares_cons {e : Effect} {rest : List Effect} :
    Spares (e :: rest) p ↔ (∀ q, e.target? = some q → Apart p q) ∧ Spares rest p := by
  simp [Spares]

theorem spares_append {before after : List Effect} :
    Spares (before ++ after) p ↔ Spares before p ∧ Spares after p := by
  simp [Spares, or_imp, forall_and]

/-- A file that a run spares keeps its content. -/
theorem Done.find_file {es : List Effect} {c : ByteArray} (h : Done t es u)
    (hf : t.find p = .ok (l, .file c)) (hs : Spares es p) : u.find p = .ok (l, .file c) := by
  induction es generalizing t with
  | nil => exact done_nil.mp h ▸ hf
  | cons e rest ih =>
    obtain ⟨m, notices, hp, hr⟩ := done_cons.mp h
    obtain ⟨happ, hrest⟩ := spares_cons.mp hs
    obtain ⟨hres, he, hslash⟩ := FileTree.find_eq_file.mp hf
    have hg := grows_perform t e
    have hkeep := entryAt?_perform he fun q hq => happ q hq t l (FileTree.resolve_eq_ok.mp hres).2
    rw [hp] at hg hkeep
    exact ih hr (FileTree.find_eq_file.mpr ⟨hg.resolve hres, hkeep, hslash⟩) hrest

/-- What a write of the run put into a file is there at the end, if the rest spares it. -/
theorem holds_of_done {before after : List Effect} {what content : String}
    (h : Done t (before ++ write what p content :: after) u) (hs : Spares after p) :
    u.readBytes p = .ok content.toUTF8 := by
  obtain ⟨m, -, hr⟩ := done_append.mp h
  obtain ⟨n, notices, hp, hr⟩ := done_cons.mp hr
  obtain ⟨l, hf⟩ := FileTree.find_writeBytes (perform_write hp)
  exact FileTree.readBytes_eq_ok.mpr ⟨l, hr.find_file hf hs⟩

/-- What a copy of the run put into a file is there at the end, if all before it spares the
source and the rest spares the file. -/
theorem readBytes_of_done_copy {before after : List Effect} {what : String} {c : ByteArray}
    (h : Done t (before ++ copy what p q :: after) u) (hf : t.find p = .ok (l, .file c))
    (hb : Spares before p) (ha : Spares after q) : u.readBytes q = .ok c := by
  obtain ⟨m, hm, hr⟩ := done_append.mp h
  obtain ⟨n, notices, hp, hr⟩ := done_cons.mp hr
  have hc := FileTree.readBytes_eq_ok.mpr ⟨l, hm.find_file hf hb⟩
  obtain ⟨k, hk⟩ := FileTree.readBytes_eq_ok.mp (readBytes_perform_copy hc hp)
  exact FileTree.readBytes_eq_ok.mpr ⟨k, hr.find_file hk ha⟩

/-- What a file was copied to is a file, whatever comes later. -/
theorem isFile_of_done_copy {es : List Effect} {what : String} (h : Done t es u)
    (hmem : copy what p q ∈ es) (hf : t.isFile p = true) : u.isFile q = true := by
  obtain ⟨before, after, rfl⟩ := List.append_of_mem hmem
  obtain ⟨m, hm, hr⟩ := done_append.mp h
  obtain ⟨n, notices, hp, hr⟩ := done_cons.mp hr
  obtain ⟨c, hc⟩ := FileTree.readBytes_of_isFile (hm.grows.isFile hf)
  exact hr.grows.isFile (FileTree.isFile_of_readBytes (readBytes_perform_copy hc hp))

end IndexerTypes.Effect
