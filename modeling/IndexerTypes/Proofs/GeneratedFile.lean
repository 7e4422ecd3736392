import IndexerTypes.Proofs.Distinct
import IndexerTypes.Proofs.Effect
import IndexerTypes.Proofs.Text.Word

/-! # Files that are written into one directory

The files of a list are written one after the other, and the directory is made before each of
them. A file keeps its content unless a later one has its name (`holds_of_done_files`), so
nothing is lost of files whose names differ (`Separate.holds`). An identifier with an ending is
such a name, since it leads out of no directory (`isName_append`). -/

namespace IndexerTypes

open FileTree (Apart)
open Effect (Done Spares)
open IndexerTypes.Path (IsName)

/-! ## Names of files -/

namespace Text

/-- An identifier with an ending is the name of a file. -/
theorem isName_append {name ending : String} (h : isIdentifier name = true)
    (hs : '/' ∉ ending.toList) (hl : 2 ≤ ending.toList.length) : IsName (name ++ ending) := by
  have hname : 0 < name.toList.length := List.length_pos_iff.mpr (ne_nil_of_isIdentifier h)
  have hne (other : String) (ho : other.toList.length ≤ 2) : name ++ ending ≠ other := by
    rintro rfl
    rw [String.toList_append, List.length_append] at ho
    omega
  refine ⟨hne _ (by decide), ?_, hne _ (by decide), hne _ (by decide)⟩
  rw [String.toList_append]
  exact List.not_mem_append (not_mem_of_isIdentifier h (by decide)) hs

end Text

namespace GeneratedFile

variable {t u : FileTree} {f : GeneratedFile} {what : String} {directory q : Path}

/-! ## What is written -/

/-- A file that may be written, in a directory that may be made. -/
theorem within_effects {files directories : Path → Prop} (hf : files (f.path directory))
    (hd : ∀ q ∈ directory.ancestors, directories q) :
    ∀ e ∈ f.effects what directory, e.Within files directories := by
  intro e he
  simp only [effects, List.mem_cons, List.not_mem_nil, or_false] at he
  rcases he with rfl | rfl
  · exact hd
  · exact hf

theorem spares_files {files : List GeneratedFile}
    (h : ∀ f ∈ files, Apart q (f.path directory)) :
    Spares (files.flatMap fun f => f.effects what directory) q := by
  intro e he r hr
  obtain ⟨f, hf, he⟩ := List.mem_flatMap.mp he
  simp only [effects, List.mem_cons, List.not_mem_nil, or_false] at he
  rcases he with rfl | rfl
  · cases hr
  · exact Option.some.inj hr ▸ h f hf

/-- A file is there at the end unless a later one has its name or something behind the files
takes its place. -/
theorem holds_of_done_files {first rest : List Effect} {before after : List GeneratedFile}
    (h : Done t (first ++ ((before ++ f :: after).flatMap fun g => g.effects what directory) ++
      rest) u)
    (hf : IsName f.filename) (ha : ∀ g ∈ after, IsName g.filename ∧ g.filename ≠ f.filename)
    (hr : Spares rest (f.path directory)) :
    u.readBytes (f.path directory) = .ok f.content.toUTF8 := by
  have he : first ++ ((before ++ f :: after).flatMap fun g => g.effects what directory) ++ rest =
      (first ++ (before.flatMap fun g => g.effects what directory) ++ [.directory directory]) ++
        .write what (f.path directory) f.content ::
          ((after.flatMap fun g => g.effects what directory) ++ rest) := by
    simp [effects]
  have hafter : ∀ g ∈ after, Apart (f.path directory) (g.path directory) := by
    intro g hg
    obtain ⟨hn, hne⟩ := ha g hg
    exact FileTree.apart_join_name directory hf hn hne.symm
  rw [he] at h
  exact Effect.holds_of_done h (Effect.spares_append.mpr ⟨spares_files hafter, hr⟩)

/-! ## Files that differ in their names -/

/-- Each file of the list has a name for itself. -/
structure Separate (files : List GeneratedFile) : Prop where
  names : ∀ f ∈ files, IsName f.filename
  nodup : (files.map filename).Nodup

namespace Separate

variable {files : List GeneratedFile}

theorem pairwise (h : Separate files) (directory : Path) :
    (files.map fun f => f.path directory).Pairwise fun p q => ¬ Path.Same p q := by
  refine List.pairwise_map.mpr ?_
  refine (List.pairwise_map.mp h.nodup).imp_of_mem fun hf hg hne hsame => ?_
  exact hne ((Path.same_join_name _ (h.names _ hf) (h.names _ hg)).mp hsame)

/-- No file takes the place of another one. -/
theorem holds (h : Separate files)
    (hd : Done t (files.flatMap fun f => f.effects what directory) u) :
    ∀ f ∈ files, u.readBytes (f.path directory) = .ok f.content.toUTF8 := by
  intro f hf
  obtain ⟨before, after, rfl⟩ := List.append_of_mem hf
  have hafter : ∀ g ∈ after, IsName g.filename ∧ g.filename ≠ f.filename := by
    intro g hg
    refine ⟨h.names g (by simp [hg]), ?_⟩
    exact Distinct.key_ne_of_nodup h.nodup g (List.mem_append_right _ hg)
  rw [← List.nil_append (List.flatMap _ _), ← List.append_nil ([] ++ _)] at hd
  exact holds_of_done_files hd (h.names f hf) hafter Effect.spares_nil

end Separate

end GeneratedFile

end IndexerTypes
