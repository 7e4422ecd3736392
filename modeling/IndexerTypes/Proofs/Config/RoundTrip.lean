import IndexerTypes.InputFile
import IndexerTypes.Proofs.Config.Check
import IndexerTypes.Proofs.FileTree.Growth
import IndexerTypes.Proofs.Json.RoundTrip

/-! # A stored configuration loads as it was

The document of a configuration has no floats, so its text reads back as this document, and
the document gives each field of the configuration again. What is left of loading is the
check: a stored configuration loads just if it is in order, and otherwise the fault is about
its first source that is not. -/

namespace IndexerTypes.Config

/-! ## Documents -/

theorem isExact_wordDocument (n : UInt64) : (wordDocument n).IsExact := by
  simpa [wordDocument, Json.IsExact] using n.toNat_lt

theorem isExact_networkDocument (n : Network) : (networkDocument n).IsExact := by
  cases hk : n.kind
  simpa [networkDocument, kindDocument, Json.IsExact, Json.HaveExactValues, hk] using
    isExact_wordDocument n.chainId

theorem isExact_sourceDocument (s : Source) : (sourceDocument s).IsExact := by
  cases hk : s.kind
  cases hb : s.startBlock with
  | none => simp [sourceDocument, startBlockMembers, kindDocument, Json.IsExact,
      Json.HaveExactValues, hb]
  | some block => simpa [sourceDocument, startBlockMembers, kindDocument, Json.IsExact,
      Json.HaveExactValues, hk, hb] using isExact_wordDocument block

theorem isExact_document (c : Config) : c.document.IsExact := by
  simp only [document, Json.IsExact, Json.HaveExactValues, Json.areExact_iff, List.mem_map,
    and_true]
  constructor
  · rintro v ⟨n, -, rfl⟩
    exact isExact_networkDocument n
  · rintro v ⟨s, -, rfl⟩
    exact isExact_sourceDocument s

/-! ## Reading each part -/

theorem readWord?_wordDocument (n : UInt64) : readWord? (wordDocument n) = some n := by
  have := n.toNat_lt
  simp [readWord?, wordDocument, this]

theorem readKind?_kindDocument (k : ChainKind) : readKind? (kindDocument k) = some k := by
  cases k
  rfl

theorem readStartBlock?_wordDocument (n : UInt64) :
    readStartBlock? (wordDocument n) = some (some n) := by
  have := readWord?_wordDocument n
  simp [readStartBlock?, wordDocument] at this ⊢
  simp [this]

theorem readNetwork?_networkDocument (n : Network) :
    readNetwork? (networkDocument n) = some n := by
  simp [readNetwork?, networkDocument, networkOfMembers?, single?, required?, readOr?, readText?,
    readKind?_kindDocument, readWord?_wordDocument]

theorem readSource?_sourceDocument (s : Source) : readSource? (sourceDocument s) = some s := by
  obtain ⟨kind, name, network, abi, address, startBlock⟩ := s
  cases startBlock with
  | none => simp [readSource?, sourceDocument, startBlockMembers, sourceOfMembers?, single?,
      required?, readOr?, readText?, readKind?_kindDocument]
  | some block => simp [readSource?, sourceDocument, startBlockMembers, sourceOfMembers?, single?,
      required?, readOr?, readText?, readKind?_kindDocument, readStartBlock?_wordDocument]

theorem mapM_map_some {α β : Type} {f : α → β} {g : β → Option α} (h : ∀ a, g (f a) = some a)
    (l : List α) : (l.map f).mapM g = some l := by
  induction l with
  | nil => rfl
  | cons a l ih => simp [h, ih]

theorem ofDocument?_document (c : Config) : ofDocument? c.document = some c := by
  have hn := mapM_map_some readNetwork?_networkDocument c.networks
  have hs := mapM_map_some readSource?_sourceDocument c.sources
  simp [ofDocument?, document, ofMembers?, single?, readOr?, readList?, hn, hs]

/-! ## Loading -/

/-- Reading the text of a configuration is checking the configuration. -/
theorem read_text (c : Config) : read c.text = c.check.map fun _ => c := by
  unfold read text
  rw [Json.read?_render (isExact_document c), Option.bind_some, ofDocument?_document]
  dsimp only
  cases c.check <;> rfl

theorem load_eq {t : FileTree} {root : Path} {s : String}
    (h : t.readBytes (root.join ⟨filename⟩) = .ok s.toUTF8) :
    load t root = (read s).mapError (.config (root.join ⟨filename⟩)) := by
  have hf := FileTree.isFile_of_readBytes h
  have ht := FileTree.readText_of_readBytes h
  have hp : InputFile.readPresent t (root.join ⟨filename⟩) = .ok s := by
    rw [InputFile.readPresent, if_pos hf, InputFile.readText, ht]
    rfl
  rw [load, hp]
  rfl

/-- What can be loaded is in order. -/
theorem admissible_of_load {t : FileTree} {root : Path} {c : Config} (h : load t root = .ok c) :
    c.Admissible := by
  unfold load at h
  obtain ⟨s, -, hr⟩ := bind_eq_ok.mp h
  rw [mapError_eq_ok] at hr
  unfold read at hr
  split at hr
  · cases hr
  · rename_i d hd
    split at hr
    · cases hr
    · rename_i hc
      obtain rfl := Except.ok.inj hr
      exact check_eq_ok.mp hc

theorem load_of_holds {t : FileTree} {root : Path} {c : Config}
    (h : t.readBytes (root.join ⟨filename⟩) = .ok c.text.toUTF8) (ha : c.Admissible) :
    load t root = .ok c := by
  rw [load_eq h, read_text, check_eq_ok.mpr ha]
  rfl

/-- **A stored configuration loads as it was, if it is in order.** Otherwise loading refuses
it for the first source that is not. What was loaded once is in order, so storing it and
loading it again changes nothing. -/
theorem load_stored {t u : FileTree} {root : Path} (c : Config)
    (h : t.writeText (root.join ⟨filename⟩) c.text = .ok u) :
    (c.Admissible → load u root = .ok c) ∧
    (¬c.Admissible → ∃ flaw, load u root = .error (.config (root.join ⟨filename⟩) flaw) ∧
      c.FirstFlaw flaw) ∧
    ∀ (v : FileTree) (base : Path), load v base = .ok c → load u root = .ok c := by
  have hread : u.readBytes (root.join ⟨filename⟩) = .ok c.text.toUTF8 :=
    FileTree.readBytes_eq_ok.mpr (FileTree.find_writeBytes h)
  have hok : c.Admissible → load u root = .ok c := load_of_holds hread
  refine ⟨hok, ?_, fun v base hv => hok (admissible_of_load hv)⟩
  intro hn
  rcases check_spec c with ⟨-, ha⟩ | ⟨flaw, he, hf, -⟩
  · exact absurd ha hn
  · refine ⟨flaw, ?_, hf⟩
    rw [load_eq hread, read_text, he]
    rfl

/-- Two sources on one declared network, with texts that need escapes and the largest
chain id. -/
def escapedSample : Config where
  networks := [⟨.evm, "main \"net\"\\", 18446744073709551615, "$\x7bURL\x7d\n\x01\x7f"⟩]
  sources := [
    ⟨.evm, "$A", "main \"net\"\\", "./abis/\t\u2028é😀.json", "0x0", some 18446744073709551615⟩,
    ⟨.evm, "_b1", "main \"net\"\\", "", "/\x1f", none⟩]

theorem load_stored_escapedSample :
    ∃ u, FileTree.writeText ⟨[], []⟩ (Path.join ⟨"."⟩ ⟨filename⟩) escapedSample.text = .ok u ∧
      load u ⟨"."⟩ = .ok escapedSample := by
  have ha : escapedSample.Admissible := ⟨by decide +kernel, by decide +kernel, by decide +kernel⟩
  have hw : (FileTree.writeText ⟨[], []⟩ (Path.join ⟨"."⟩ ⟨filename⟩)
      escapedSample.text).isOk = true := by decide +kernel
  match hu : FileTree.writeText ⟨[], []⟩ (Path.join ⟨"."⟩ ⟨filename⟩) escapedSample.text with
  | .ok u => exact ⟨u, rfl, (load_stored escapedSample hu).1 ha⟩
  | .error e => simp [hu, Except.isOk, Except.toBool] at hw

end IndexerTypes.Config
