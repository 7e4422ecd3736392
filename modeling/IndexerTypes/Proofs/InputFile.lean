import IndexerTypes.InputFile
import IndexerTypes.Proofs.FileTree.Walk

/-! # What can be loaded

Each input is loaded just if its file holds a text that can be read. So nothing but the bytes
of the file counts: a tree that has the same bytes there has the same input. -/

namespace IndexerTypes

variable {t : FileTree} {path root : Path}

/-! ## Texts -/

theorem FileTree.eq_toUTF8_of_decode {c : ByteArray} {s : String}
    (h : String.fromUTF8? c = some s) : c = s.toUTF8 := by
  unfold String.fromUTF8? at h
  split at h
  · obtain rfl := Option.some.inj h
    rfl
  · cases h

theorem FileTree.readText_eq_ok {s : String} :
    t.readText path = .ok s ↔ t.readBytes path = .ok s.toUTF8 := by
  refine ⟨fun h => ?_, readText_of_readBytes⟩
  unfold readText at h
  obtain ⟨c, hc, h⟩ := bind_eq_ok.mp h
  split at h
  · rename_i text hd
    obtain rfl := Except.ok.inj h
    rw [hc, eq_toUTF8_of_decode hd]
  · cases h

namespace InputFile

theorem readText_eq_ok {s : String} :
    readText t path = .ok s ↔ t.readBytes path = .ok s.toUTF8 := by
  rw [readText, mapError_eq_ok, FileTree.readText_eq_ok]

theorem readPresent_eq_ok {s : String} :
    readPresent t path = .ok s ↔ t.readBytes path = .ok s.toUTF8 := by
  unfold readPresent
  split
  · exact readText_eq_ok
  · rename_i hf
    constructor
    · exact nofun
    · exact fun h => absurd (FileTree.isFile_of_readBytes h) hf

end InputFile

/-! ## Inputs -/

/-- What the file holds it still holds in the second tree. -/
def FileTree.Retains (t u : FileTree) (path : Path) : Prop :=
  ∀ c, t.readBytes path = .ok c → u.readBytes path = .ok c

theorem Config.load_eq_ok {c : Config} :
    load t root = .ok c ↔
      ∃ text : String, t.readBytes (root.join ⟨filename⟩) = .ok text.toUTF8 ∧ read text = .ok c := by
  simp only [load, bind_eq_ok, InputFile.readPresent_eq_ok, mapError_eq_ok]

theorem EntitySchema.load_eq_ok {schema : EntitySchema} :
    load t root = .ok schema ↔
      ∃ text : String, t.readBytes (root.join ⟨Config.schemaFilename⟩) = .ok text.toUTF8 ∧
        read text = .ok schema := by
  simp only [load, bind_eq_ok, InputFile.readPresent_eq_ok, mapError_eq_ok]

theorem Abi.load_eq_ok {events : List Event} :
    load t path = .ok events ↔
      ∃ text : String, t.readBytes path = .ok text.toUTF8 ∧ read text = .ok events := by
  simp only [load, bind_eq_ok, InputFile.readText_eq_ok, mapError_eq_ok]

namespace Manifest

theorem load_eq_ok {m : Manifest} :
    load t path = .ok m ↔
      ∃ text : String, t.readBytes path = .ok text.toUTF8 ∧ read? text = some m := by
  rw [load, bind_eq_ok]
  refine exists_congr fun text => and_congr InputFile.readText_eq_ok ?_
  cases read? text <;> simp

/-- The manifest is the first of the candidates that is a file. -/
theorem locate_eq_ok {directory : Path} {candidates : List String} :
    locate t directory candidates = .ok path ↔
      (candidates.map fun name => directory.join ⟨name⟩).find? t.isFile = some path := by
  unfold locate
  split
  · rename_i found hf
    simp [hf]
  · rename_i hn
    simp [hn]

end Manifest

end IndexerTypes
