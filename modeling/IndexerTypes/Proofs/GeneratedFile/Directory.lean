import IndexerTypes.Proofs.Effect.Settled
import IndexerTypes.Proofs.FileTree.Difference
import IndexerTypes.Proofs.FileTree.ModulePath
import IndexerTypes.Proofs.GeneratedFile

/-! # What becomes of a directory of files

To write files into one directory is to make the directory and then to put each file under its
name (`done_files_iff`). Whether all of them can be written is seen from the directory alone,
before the first of them is (`Fits`). So files with names of their own can be written in any
order (`Separate.done_perm`), and a directory that holds the last file of each name can be
written again (`done_files_again`). -/

namespace IndexerTypes

open FileTree (Grows IsSpelled DiffersAt)
open Effect (Done)
open IndexerTypes.Path (IsName)

variable {t u m : FileTree} {place k l : Location} {f : GeneratedFile}
  {files others : List GeneratedFile} {what : String} {directory : Path}

/-! ## Files put into a place -/

/-- Where the file is if its directory is at the place. -/
def GeneratedFile.location (f : GeneratedFile) (place : Location) : Location := place ++ [f.filename]

@[simp]
theorem GeneratedFile.location_ne_nil : f.location place ≠ [] := by simp [location]

theorem GeneratedFile.location_inj {g : GeneratedFile} :
    f.location place = g.location place ↔ f.filename = g.filename := by simp [location]

@[simp]
theorem GeneratedFile.getLast?_location : (f.location place).getLast? = some f.filename := by
  simp [location]

namespace FileTree

def putFile (t : FileTree) (place : Location) (f : GeneratedFile) : FileTree :=
  t.set (f.location place) (.file f.content.toUTF8)

def putFiles (t : FileTree) (place : Location) (files : List GeneratedFile) : FileTree :=
  files.foldl (fun t f => t.putFile place f) t

theorem entryAt?_putFile (t : FileTree) (place : Location) (f : GeneratedFile) (k : Location) :
    (t.putFile place f).entryAt? k =
      if k = f.location place then some (.file f.content.toUTF8) else t.entryAt? k :=
  entryAt?_set t GeneratedFile.location_ne_nil _ k

/-- What is under none of the names stays. -/
theorem entryAt?_putFiles_of_ne (h : ∀ f ∈ files, k ≠ f.location place) :
    (t.putFiles place files).entryAt? k = t.entryAt? k := by
  induction files generalizing t with
  | nil => rfl
  | cons f rest ih =>
    obtain ⟨hfirst, hrest⟩ := List.forall_mem_cons.mp h
    calc ((t.putFile place f).putFiles place rest).entryAt? k
        = (t.putFile place f).entryAt? k := ih hrest
      _ = t.entryAt? k := by rw [entryAt?_putFile, if_neg hfirst]

theorem entryAt?_putFiles_of_mem (hn : (files.map GeneratedFile.filename).Nodup) (hf : f ∈ files) :
    (t.putFiles place files).entryAt? (f.location place) = some (.file f.content.toUTF8) := by
  induction files generalizing t with
  | nil => cases hf
  | cons g rest ih =>
    rw [List.map_cons, List.nodup_cons] at hn
    rcases List.mem_cons.mp hf with rfl | hf
    · have hrest : ∀ g ∈ rest, f.location place ≠ g.location place := by
        intro g hg he
        exact hn.1 (GeneratedFile.location_inj.mp he ▸ List.mem_map_of_mem hg)
      calc ((t.putFile place f).putFiles place rest).entryAt? (f.location place)
          = (t.putFile place f).entryAt? (f.location place) := entryAt?_putFiles_of_ne hrest
        _ = some (.file f.content.toUTF8) := by rw [entryAt?_putFile, if_pos rfl]
    · exact ih hn.2 hf

/-- Trees that differ in one file still do if they get the same files, in whatever order. -/
theorem DiffersAt.putFiles (h : DiffersAt l t u) (hp : files.Perm others)
    (hn : (files.map GeneratedFile.filename).Nodup)
    (hl : ∀ f ∈ files, l ≠ f.location place) :
    DiffersAt l (t.putFiles place files) (u.putFiles place others) := by
  have hl' : ∀ f ∈ others, l ≠ f.location place := fun f hf => hl f (hp.mem_iff.mpr hf)
  have hn' : (others.map GeneratedFile.filename).Nodup := (hp.map _).nodup_iff.mp hn
  refine ⟨?_, fun k hk => ?_, ?_, ?_⟩
  · have hw : ∀ (v : FileTree) fs, (v.putFiles place fs).workingDirectory = v.workingDirectory := by
      intro v fs
      induction fs generalizing v with
      | nil => rfl
      | cons f rest ih => exact ih (v.putFile place f)
    rw [hw, hw, h.workingDirectory]
  · by_cases hm : ∃ f ∈ files, k = f.location place
    · obtain ⟨f, hf, rfl⟩ := hm
      rw [entryAt?_putFiles_of_mem hn hf, entryAt?_putFiles_of_mem hn' (hp.mem_iff.mp hf)]
    · have hne : ∀ f ∈ files, k ≠ f.location place := fun f hf he => hm ⟨f, hf, he⟩
      rw [entryAt?_putFiles_of_ne hne,
        entryAt?_putFiles_of_ne fun f hf => hne f (hp.mem_iff.mpr hf), h.entry k hk]
  · rw [entryAt?_putFiles_of_ne hl]
    exact h.left
  · rw [entryAt?_putFiles_of_ne hl']
    exact h.right

/-- A file is lost if a later one has its name. -/
theorem putFiles_putFile {g : GeneratedFile} (hg : g ∈ files) (hn : g.filename = f.filename)
    (hthere : ∀ f ∈ files, t.entryAt? (f.location place) ≠ none) :
    (t.putFile place f).putFiles place files = t.putFiles place files := by
  induction files generalizing t with
  | nil => cases hg
  | cons r rest ih =>
    show ((t.putFile place f).putFile place r).putFiles place rest = _
    by_cases hr : r.filename = f.filename
    · have hset : (t.putFile place f).putFile place r = t.putFile place r := by
        unfold putFile
        rw [GeneratedFile.location_inj.mpr hr, set_set]
      rw [hset]
      rfl
    · -- the two names differ, so the later file can as well be put first
      have hmem : g ∈ rest := by
        rcases List.mem_cons.mp hg with rfl | hg
        · exact absurd hn hr
        · exact hg
      have hloc : g.location place = f.location place := GeneratedFile.location_inj.mpr hn
      have hset : (t.putFile place f).putFile place r = (t.putFile place r).putFile place f := by
        refine set_comm (fun he => hr (GeneratedFile.location_inj.mp he))
          GeneratedFile.location_ne_nil ?_
        exact hloc ▸ hthere g (List.mem_cons_of_mem _ hmem)
      rw [hset]
      refine ih hmem fun h hh => ?_
      rw [entryAt?_putFile]
      split
      · simp
      · exact hthere h (List.mem_cons_of_mem _ hh)

/-- Files are put for nothing if the tree holds the last one of each name. -/
theorem putFiles_eq_self (hthere : ∀ f ∈ files, t.entryAt? (f.location place) ≠ none)
    (hlast : ∀ before f after, files = before ++ f :: after →
      (∀ g ∈ after, g.filename ≠ f.filename) →
      t.entryAt? (f.location place) = some (.file f.content.toUTF8)) :
    t.putFiles place files = t := by
  induction files with
  | nil => rfl
  | cons f rest ih =>
    obtain ⟨-, hrest⟩ := List.forall_mem_cons.mp hthere
    have hself : t.putFiles place rest = t :=
      ih hrest fun before g after he hg => hlast (f :: before) g after (by rw [he]; rfl) hg
    show (t.putFile place f).putFiles place rest = t
    by_cases hm : ∃ g ∈ rest, g.filename = f.filename
    · obtain ⟨g, hg, hn⟩ := hm
      rw [putFiles_putFile hg hn hrest, hself]
    · have he : t.entryAt? (f.location place) = some (.file f.content.toUTF8) :=
        hlast [] f rest rfl fun g hg hn => hm ⟨g, hg, hn⟩
      have hput : t.putFile place f = t := set_of_entryAt? GeneratedFile.location_ne_nil he
      rw [hput, hself]

end FileTree

namespace GeneratedFile

/-! ## One file -/

/-- The directory is there, at the place, with nothing left to be made above it. -/
structure IsReady (t : FileTree) (directory : Path) (place : Location) : Prop where
  walk : t.walk directory = .ok place
  entry : t.entryAt? place = some .directory
  made : t.HasDirectory directory

/-- The file can be written into the directory at the place. -/
structure Fits (t : FileTree) (directory : Path) (place : Location) (f : GeneratedFile) : Prop where
  spelled : IsSpelled (f.path directory)
  short : f.filename.utf8ByteSize ≤ 255
  free : t.entryAt? (f.location place) ≠ some .directory

theorem IsReady.grows (h : IsReady t directory place) (hg : Grows t u) :
    IsReady u directory place :=
  ⟨hg.walk h.walk, hg.directory place h.entry, hg.hasDirectory h.made⟩

theorem IsReady.differsAt (h : IsReady t directory place) (hd : DiffersAt l t u) :
    IsReady u directory place :=
  ⟨hd.walk_eq.trans h.walk, hd.directory_iff.mpr h.entry, hd.hasDirectory h.made⟩

theorem Fits.differsAt (h : Fits t directory place f) (hd : DiffersAt l t u) :
    Fits u directory place f :=
  ⟨h.spelled, h.short, fun he => h.free (hd.directory_iff.mp he)⟩

theorem walk_path (hn : IsName f.filename) (hr : IsReady t directory place) :
    t.walk (f.path directory) = .ok k ↔ f.filename.utf8ByteSize ≤ 255 ∧ k = f.location place := by
  rw [path, FileTree.walk_join_name hn]
  constructor
  · rintro ⟨b, hb, -, hs, rfl⟩
    rw [hr.walk, Except.ok.injEq] at hb
    exact ⟨hs, hb ▸ rfl⟩
  · rintro ⟨hs, rfl⟩
    exact ⟨place, hr.walk, hr.entry, hs, rfl⟩

theorem writeText_eq_ok (hn : IsName f.filename) (hr : IsReady t directory place) :
    t.writeText (f.path directory) f.content = .ok u ↔
      Fits t directory place f ∧ u = t.putFile place f := by
  have hslash : (f.path directory).endsWithSlash = false := Path.endsWithSlash_join_name _ hn
  simp only [FileTree.writeText, FileTree.writeBytes_eq_ok, FileTree.resolve_eq_ok,
    walk_path hn hr, hslash, true_and]
  constructor
  · rintro ⟨k, ⟨hspelled, hs, rfl⟩, hfree, rfl⟩
    exact ⟨⟨hspelled, hs, hfree⟩, rfl⟩
  · rintro ⟨⟨hspelled, hs, hfree⟩, rfl⟩
    exact ⟨f.location place, ⟨hspelled, hs, rfl⟩, hfree, rfl⟩

/-- Where a file has been written, its directory is. -/
theorem exists_place_of_writeText (hn : IsName f.filename)
    (h : t.writeText (f.path directory) f.content = .ok u) :
    ∃ place, t.walk directory = .ok place ∧ t.entryAt? place = some .directory := by
  obtain ⟨k, hr, -⟩ := FileTree.writeBytes_eq_ok.mp h
  obtain ⟨b, hb, hd, -⟩ := (FileTree.walk_join_name hn).mp (FileTree.resolve_eq_ok.mp hr).2
  exact ⟨b, hb, hd⟩

theorem fits_of_isFile (hn : IsName f.filename) (hr : IsReady t directory place)
    (h : t.isFile (f.path directory) = true) : Fits t directory place f := by
  obtain ⟨k, c, hf⟩ := FileTree.isFile_iff.mp h
  obtain ⟨hres, he, -⟩ := FileTree.find_eq_file.mp hf
  obtain ⟨hspelled, hw⟩ := FileTree.resolve_eq_ok.mp hres
  obtain ⟨hs, rfl⟩ := (walk_path hn hr).mp hw
  exact ⟨hspelled, hs, by simp [he]⟩

/-! ## Many files -/

theorem done_write {path : Path} {content : String} {rest : List Effect} :
    Done t (.write what path content :: rest) u ↔
      ∃ m, t.writeText path content = .ok m ∧ Done m rest u := by
  rw [Effect.done_cons]
  constructor
  · rintro ⟨m, notices, hp, hr⟩
    exact ⟨m, Effect.perform_write hp, hr⟩
  · rintro ⟨m, hw, hr⟩
    refine ⟨m, [pathNotice ("Wrote " ++ what) path], ?_, hr⟩
    rw [Effect.perform, hw]

theorem done_directory {rest : List Effect} :
    Done t (.directory directory :: rest) u ↔
      ∃ m, t.makeDirectories directory = (m, .ok ()) ∧ Done m rest u := by
  rw [Effect.done_cons]
  simp only [Effect.perform_directory]
  constructor
  · rintro ⟨m, notices, ⟨hm, -⟩, hr⟩
    exact ⟨m, hm, hr⟩
  · rintro ⟨m, hm, hr⟩
    exact ⟨m, [], ⟨hm, rfl⟩, hr⟩

/-- A directory that is there need not be made before the files. -/
theorem done_directory_of_hasDirectory {rest : List Effect} (h : t.HasDirectory directory) :
    Done t (.directory directory :: rest) u ↔ Done t rest u := by
  rw [done_directory, FileTree.makeDirectories_of_hasDirectory h]
  simp

/-- Into a directory that is there, files are written just if each of them fits. -/
theorem done_files_of_isReady (hn : ∀ f ∈ files, IsName f.filename)
    (hr : IsReady t directory place) :
    Done t (files.flatMap fun f => f.effects what directory) u ↔
      (∀ f ∈ files, Fits t directory place f) ∧ u = t.putFiles place files := by
  induction files generalizing t with
  | nil => simp [Effect.done_nil, FileTree.putFiles]
  | cons f rest ih =>
    obtain ⟨hname, hnames⟩ := List.forall_mem_cons.mp hn
    rw [List.flatMap_cons, effects, List.cons_append, List.cons_append, List.nil_append,
      done_directory_of_hasDirectory hr.made, done_write, List.forall_mem_cons]
    simp only [writeText_eq_ok hname hr]
    -- a file in the way of no other one: putting it decides nothing about the rest
    have hstep (hf : Fits t directory place f) :
        IsReady (t.putFile place f) directory place ∧
          ∀ g, Fits (t.putFile place f) directory place g ↔ Fits t directory place g := by
      refine ⟨hr.grows (FileTree.grows_set hf.free fun _ _ => ⟨_, rfl⟩), fun g => ?_⟩
      have hfree : (t.putFile place f).entryAt? (g.location place) ≠ some .directory ↔
          t.entryAt? (g.location place) ≠ some .directory := by
        rw [FileTree.entryAt?_putFile]
        split
        · rename_i he
          simp [he, hf.free]
        · rfl
      exact ⟨fun h => ⟨h.spelled, h.short, hfree.mp h.free⟩,
        fun h => ⟨h.spelled, h.short, hfree.mpr h.free⟩⟩
    constructor
    · rintro ⟨m, ⟨hf, rfl⟩, hd⟩
      obtain ⟨hready, hfits⟩ := hstep hf
      obtain ⟨hrest, rfl⟩ := (ih hnames hready).mp hd
      exact ⟨⟨hf, fun g hg => (hfits g).mp (hrest g hg)⟩, rfl⟩
    · rintro ⟨⟨hf, hrest⟩, rfl⟩
      obtain ⟨hready, hfits⟩ := hstep hf
      exact ⟨_, ⟨hf, rfl⟩,
        (ih hnames hready).mpr ⟨fun g hg => (hfits g).mpr (hrest g hg), rfl⟩⟩

/-- **What it takes to write files into one directory, and what comes of it.** The directory can
be made, and then each file fits into it. -/
theorem done_files_iff (hne : files ≠ []) (hn : ∀ f ∈ files, IsName f.filename) :
    Done t (files.flatMap fun f => f.effects what directory) u ↔
      ∃ m place, t.makeDirectories directory = (m, .ok ()) ∧ IsReady m directory place ∧
        (∀ f ∈ files, Fits m directory place f) ∧ u = m.putFiles place files := by
  obtain ⟨f, rest, rfl⟩ := List.exists_cons_of_ne_nil hne
  -- once the directory has been made, it makes no difference to make it again
  have hfirst : Done t ((f :: rest).flatMap fun f => f.effects what directory) u ↔
      ∃ m, t.makeDirectories directory = (m, .ok ()) ∧
        Done m ((f :: rest).flatMap fun f => f.effects what directory) u := by
    rw [List.flatMap_cons, effects, List.cons_append, done_directory]
    refine exists_congr fun m => and_congr_right fun hm => ?_
    rw [done_directory_of_hasDirectory (FileTree.hasDirectory_of_makeDirectories hm)]
  rw [hfirst]
  refine exists_congr fun m => ?_
  constructor
  · rintro ⟨hm, hd⟩
    have hmade := FileTree.hasDirectory_of_makeDirectories hm
    have hwrite := hd
    rw [List.flatMap_cons, effects, List.cons_append, List.cons_append,
      done_directory_of_hasDirectory hmade, done_write] at hwrite
    obtain ⟨n, hw, -⟩ := hwrite
    obtain ⟨place, hwalk, hentry⟩ := exists_place_of_writeText (hn f (by simp)) hw
    have hready : IsReady m directory place := ⟨hwalk, hentry, hmade⟩
    exact ⟨place, hm, hready, (done_files_of_isReady hn hready).mp hd⟩
  · rintro ⟨place, hm, hready, hfits⟩
    exact ⟨hm, (done_files_of_isReady hn hready).mpr hfits⟩

/-! ## Again, and in another order -/

/-- Files can be written again into a directory that holds the last one of each name. -/
theorem done_files_again (hn : ∀ f ∈ files, IsName f.filename) (hd : t.HasDirectory directory)
    (hfile : ∀ f ∈ files, t.isFile (f.path directory) = true)
    (hlast : ∀ before f after, files = before ++ f :: after →
      (∀ g ∈ after, g.filename ≠ f.filename) →
      t.readBytes (f.path directory) = .ok f.content.toUTF8) :
    Done t (files.flatMap fun f => f.effects what directory) t := by
  cases files with
  | nil => exact Effect.done_nil.mpr rfl
  | cons f rest =>
    obtain ⟨k, c, hf⟩ := FileTree.isFile_iff.mp (hfile f (by simp))
    obtain ⟨place, hw, he, -⟩ :=
      (FileTree.walk_join_name (hn f (by simp))).mp (FileTree.walk_of_find hf)
    have hready : IsReady t directory place := ⟨hw, he, hd⟩
    have hentry : ∀ g ∈ f :: rest, ∀ b, t.readBytes (g.path directory) = .ok b →
        t.entryAt? (g.location place) = some (.file b) := by
      intro g hg b hb
      obtain ⟨j, hj⟩ := FileTree.readBytes_eq_ok.mp hb
      obtain ⟨-, rfl⟩ := (walk_path (hn g hg) hready).mp (FileTree.walk_of_find hj)
      exact (FileTree.find_eq_file.mp hj).2.1
    refine (done_files_of_isReady hn hready).mpr ⟨fun g hg => ?_, ?_⟩
    · exact fits_of_isFile (hn g hg) hready (hfile g hg)
    · refine (FileTree.putFiles_eq_self (fun g hg => ?_) fun before g after he hg => ?_).symm
      · obtain ⟨b, hb⟩ := FileTree.readBytes_of_isFile (hfile g hg)
        simp [hentry g hg b hb]
      · exact hentry g (by simp [he]) _ (hlast before g after he hg)

/-- Files with names of their own can be written in any order, and into a tree that differs in
another file: the trees differ no more than before. -/
theorem Separate.done_perm (hs : Separate files) (hne : files ≠ []) (hp : files.Perm others)
    (ht : DiffersAt l t m) (hl : ∀ f ∈ files, l.getLast? ≠ some f.filename)
    (h : Done t (files.flatMap fun f => f.effects what directory) u) :
    ∃ v, Done m (others.flatMap fun f => f.effects what directory) v ∧ DiffersAt l u v := by
  obtain ⟨a, place, ha, hready, hfits, rfl⟩ := (done_files_iff hne hs.names).mp h
  obtain ⟨b, hb, hab⟩ := ht.makeDirectories ha
  have hne' : others ≠ [] := fun he => hne (List.perm_nil.mp (he ▸ hp))
  have hn' : ∀ f ∈ others, IsName f.filename := fun f hf => hs.names f (hp.mem_iff.mpr hf)
  refine ⟨b.putFiles place others, ?_, ?_⟩
  · refine (done_files_iff hne' hn').mpr ⟨b, place, hb, hready.differsAt hab, fun f hf => ?_, rfl⟩
    exact (hfits f (hp.mem_iff.mpr hf)).differsAt hab
  · refine hab.putFiles hp hs.nodup fun f hf he => hl f hf ?_
    rw [he, getLast?_location]

end GeneratedFile

end IndexerTypes
