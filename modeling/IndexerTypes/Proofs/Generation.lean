import IndexerTypes.Proofs.Generation.Writing

/-! # What can go wrong with a generation

A generation reads the configuration, the schema and the ABI files, and then it writes. If
all that it reads is there, then it does not fail for want of a file: a fault about a path
that leads to a file says that this file is no text, or that it is in the way of a directory
(`fits_run`). -/

namespace IndexerTypes

open FileTree (Grows)

variable {t u : FileTree} {path root output : Path} {fault : Fault} {failure : Failure}

/-- The fault is not that something is missing, as far as the tree has it. -/
def Fault.Fits (t : FileTree) : Fault → Prop
  | .config _ _ => False
  | .missingFile _ => False
  | .file path e => t.isFile path = true → e = .notUtf8 ∨ e = .alreadyExists
  | _ => True

theorem Fault.Fits.of_grows (hg : Grows t u) (h : fault.Fits u) : fault.Fits t := by
  cases fault with
  | file path e => exact fun hf => h (hg.isFile hf)
  | config => exact h
  | missingFile => exact h
  | _ => trivial

/-! ## Reading -/

theorem FileTree.readText_eq_error {e : FileError} (hf : t.isFile path = true)
    (h : t.readText path = .error e) : e = .notUtf8 := by
  obtain ⟨c, hb⟩ := readBytes_of_isFile hf
  unfold readText at h
  rcases bind_eq_error.mp h with hb' | ⟨b, -, hd⟩
  · rw [hb] at hb'
    cases hb'
  · split at hd
    · cases hd
    · exact (Except.error.inj hd).symm

namespace InputFile

theorem readText_eq_error (hf : t.isFile path = true) (h : readText t path = .error fault) :
    fault = .file path .notUtf8 := by
  unfold readText at h
  obtain ⟨e, he, rfl⟩ := mapError_eq_error.mp h
  rw [FileTree.readText_eq_error hf he]

theorem readPresent_eq_error (hf : t.isFile path = true)
    (h : readPresent t path = .error fault) : fault = .file path .notUtf8 := by
  rw [readPresent, if_pos hf] at h
  exact readText_eq_error hf h

end InputFile

theorem EntitySchema.fits_load (hf : t.isFile (root.join ⟨Config.schemaFilename⟩) = true)
    (h : load t root = .error fault) : fault.Fits t := by
  unfold load at h
  rcases bind_eq_error.mp h with hr | ⟨text, -, hr⟩
  · rw [InputFile.readPresent_eq_error hf hr]
    exact fun _ => .inl rfl
  · obtain ⟨e, -, rfl⟩ := mapError_eq_error.mp hr
    trivial

theorem Abi.fits_load (hf : t.isFile path = true) (h : load t path = .error fault) :
    fault.Fits t := by
  unfold load at h
  rcases bind_eq_error.mp h with hr | ⟨text, -, hr⟩
  · rw [InputFile.readText_eq_error hf hr]
    exact fun _ => .inl rfl
  · obtain ⟨e, -, rfl⟩ := mapError_eq_error.mp hr
    trivial

namespace Generation

/-! ## Rendering -/

theorem fits_of_obstacle {c : Config} (hc : Config.load t root = .ok c)
    (hf : t.isFile (root.join ⟨Config.schemaFilename⟩) = true)
    (ha : ∀ s ∈ c.sources, t.isFile (s.abiPath root) = true)
    (h : Obstacle t root fault) : fault.Fits t := by
  cases h with
  | config hl =>
    rw [hc] at hl
    cases hl
  | schema hl => exact EntitySchema.fits_load hf hl
  | field => trivial
  | abi hl hs habi =>
    rw [hc] at hl
    obtain rfl := Except.ok.inj hl
    exact Abi.fits_load (ha _ hs) habi

/-! ## Writing -/

theorem fits_perform {e : Effect} {f : GeneratedFile} (he : e ∈ f.effects "types" output)
    (h : (e.perform t).2 = .error fault) : fault.Fits t := by
  simp only [GeneratedFile.effects, List.mem_cons, List.not_mem_nil, or_false] at he
  rcases he with rfl | rfl
  · obtain ⟨e, hm, rfl⟩ := Effect.perform_directory_error h
    exact fun hf => .inr (FileTree.makeDirectories_of_isFile hf hm)
  · obtain ⟨e, hw, rfl⟩ := Effect.perform_write_error h
    intro hf
    obtain ⟨u, hu⟩ := FileTree.writeBytes_of_isFile hf f.content.toUTF8
    rw [FileTree.writeText, hu] at hw
    cases hw

theorem fits_writeFiles {files : List GeneratedFile}
    (h : (writeFiles output t files).failure = some failure) : failure.fault.Fits t := by
  obtain ⟨f, -, e, he, m, fault, hg, hp, rfl⟩ := effect_of_writeFiles h
  exact (fits_perform he hp).of_grows hg

/-- **Where nothing is missing, a generation misses nothing.** -/
theorem fits_run {g : Generation} {c : Config} (hc : Config.load t g.root = .ok c)
    (hf : t.isFile (g.root.join ⟨Config.schemaFilename⟩) = true)
    (ha : ∀ s ∈ c.sources, t.isFile (s.abiPath g.root) = true)
    (h : (g.run t).result = .error failure) : failure.fault.Fits t := by
  rcases run_eq_error h with hr | ⟨r, -, hw⟩
  · exact fits_of_obstacle hc hf ha (obstacle_of_render hr)
  · exact fits_writeFiles hw

end Generation

end IndexerTypes
