import IndexerTypes.FileTree
import IndexerTypes.Proofs.Except
import IndexerTypes.Proofs.Path

/-! # Where paths lead

A path leads where the walk along its segments ends. A name behind a path leads to this name
in the directory that the path leads to (`walk_join_name`), and the file name of a path is
the last name on the way (`getLast?_of_walk`). So paths with different names behind them lead
to different places in every tree. -/

namespace IndexerTypes.FileTree

open IndexerTypes.Path (IsName)

variable {t : FileTree} {p q base : Path} {l place : Location}

/-- Where the walk along a path begins. -/
def startOf (t : FileTree) (p : Path) : Location :=
  if p.startsAtRoot then [] else t.workingDirectory

def walkFrom (t : FileTree) (place : Location) (segments : List String) :
    Except FileError Location := segments.foldlM t.enter place

def walk (t : FileTree) (p : Path) : Except FileError Location :=
  t.walkFrom (t.startOf p) p.segments

/-- What the system takes for a path at all. -/
structure IsSpelled (p : Path) : Prop where
  noNul : '\x00' ∉ p.text.toList
  nonempty : p.text ≠ ""
  short : p.text.utf8ByteSize < 4096

theorem resolve_eq_ok : t.resolve p = .ok l ↔ IsSpelled p ∧ t.walk p = .ok l := by
  unfold resolve
  constructor
  · intro h
    split at h
    · simp at h
    split at h
    · simp at h
    split at h
    · simp at h
    · rename_i hn he hs
      exact ⟨⟨by simpa using hn, by simpa using he, by omega⟩, h⟩
  · rintro ⟨⟨hn, he, hs⟩, h⟩
    rw [if_neg (by simpa using hn), if_neg (by simpa using he), if_neg (by omega)]
    exact h

/-! ## Single steps -/

theorem enter_eq_ok {segment : String} :
    t.enter place segment = .ok l ↔ t.entryAt? place = some .directory ∧
      ((segment = "." ∧ l = place) ∨ (segment = ".." ∧ l = place.dropLast) ∨
        (segment ≠ "." ∧ segment ≠ ".." ∧ segment.utf8ByteSize ≤ 255 ∧
          l = place ++ [segment])) := by
  unfold enter
  cases he : t.entryAt? place with
  | none => simp
  | some entry =>
    cases entry with
    | file c => simp
    | directory =>
      by_cases hh : segment = "."
      · simp [hh, eq_comm]
      · by_cases hu : segment = ".."
        · simp [hu, eq_comm]
        · by_cases hs : segment.utf8ByteSize ≤ 255
          · simp [hh, hu, hs, Nat.not_lt.mpr hs, eq_comm]
          · simp [hh, hu, hs, Nat.not_le.mp hs]

theorem enter_name {name : String} (h : IsName name) :
    t.enter place name = .ok l ↔
      t.entryAt? place = some .directory ∧ name.utf8ByteSize ≤ 255 ∧ l = place ++ [name] := by
  simp [enter_eq_ok, h.notHere, h.notUp]

theorem walkFrom_nil : t.walkFrom place [] = .ok place := rfl

theorem walkFrom_append (a b : List String) :
    t.walkFrom place (a ++ b) = t.walkFrom place a >>= fun m => t.walkFrom m b := by
  simp [walkFrom, List.foldlM_append]

theorem walkFrom_cons (segment : String) (rest : List String) :
    t.walkFrom place (segment :: rest) =
      t.enter place segment >>= fun m => t.walkFrom m rest := by
  simp [walkFrom]

/-! ## Names behind a path -/

theorem walk_join_name {name : String} (h : IsName name) :
    t.walk (base.join ⟨name⟩) = .ok l ↔
      ∃ b, t.walk base = .ok b ∧ t.entryAt? b = some .directory ∧
        name.utf8ByteSize ≤ 255 ∧ l = b ++ [name] := by
  have hstart : t.startOf (base.join ⟨name⟩) = t.startOf base := by
    simp [startOf, Path.startsAtRoot_join_name base h]
  unfold walk
  rw [hstart, Path.segments_join_name base h, walkFrom_append, bind_eq_ok]
  simp [walkFrom_cons, walkFrom_nil, enter_name h, bind_eq_ok]

theorem walkFrom_dots {dots : List String} (hd : ∀ d ∈ dots, d = ".")
    (h : t.walkFrom place dots = .ok l) : l = place := by
  induction dots generalizing place with
  | nil => exact (Except.ok.inj h).symm
  | cons d dots ih =>
    rw [walkFrom_cons, bind_eq_ok] at h
    obtain ⟨m, hm, h⟩ := h
    have hdot := hd d (by simp)
    simp only [enter_eq_ok, hdot, true_and] at hm
    obtain ⟨-, rfl | ⟨he, -⟩ | ⟨hne, -⟩⟩ := hm
    · exact ih (fun e he => hd e (by simp [he])) h
    · exact absurd he (by decide)
    · exact absurd rfl hne

/-- The file name of a path is the name of the place that it leads to. -/
theorem getLast?_of_walk {name : String} (hf : p.fileName? = some name) (h : t.walk p = .ok l) :
    l.getLast? = some name := by
  obtain ⟨hname, front, dots, hs, hd⟩ := Path.segments_of_fileName? hf
  unfold walk at h
  rw [hs, walkFrom_append, bind_eq_ok] at h
  obtain ⟨m, -, h⟩ := h
  rw [walkFrom_cons, bind_eq_ok] at h
  obtain ⟨n, hn, h⟩ := h
  obtain ⟨-, -, rfl⟩ := (enter_name hname).mp hn
  rw [walkFrom_dots hd h]
  simp

/-! ## Paths that never meet -/

/-- In no tree do the two paths lead to one place. -/
def Apart (p q : Path) : Prop := ∀ (t : FileTree) l, t.walk p = .ok l → t.walk q ≠ .ok l

theorem Apart.symm (h : Apart p q) : Apart q p := fun t l hq hp => h t l hp hq

theorem apart_of_fileName? {a b : String} (hp : p.fileName? = some a) (hq : q.fileName? = some b)
    (hne : a ≠ b) : Apart p q := by
  intro t l hl hl'
  have ha := getLast?_of_walk hp hl
  rw [getLast?_of_walk hq hl', Option.some.injEq] at ha
  exact hne ha.symm

/-- The path to some names, each in the directory before it. -/
def under (root : Path) (names : List String) : Path :=
  names.foldl (fun p name => p.join ⟨name⟩) root

theorem walk_under {root : Path} {names : List String} (hn : ∀ name ∈ names, IsName name)
    (h : t.walk (under root names) = .ok l) :
    ∃ b, t.walk root = .ok b ∧ l = b ++ names := by
  induction names generalizing root with
  | nil => exact ⟨l, h, by simp⟩
  | cons name rest ih =>
    obtain ⟨b, hb, rfl⟩ := ih (fun n hm => hn n (by simp [hm])) h
    obtain ⟨c, hc, -, -, rfl⟩ := (walk_join_name (hn name (by simp))).mp hb
    exact ⟨c, hc, by simp⟩

theorem apart_under (root : Path) {names others : List String}
    (hn : ∀ name ∈ names, IsName name) (ho : ∀ name ∈ others, IsName name)
    (hne : names ≠ others) : Apart (under root names) (under root others) := by
  intro t l hl hl'
  obtain ⟨b, hb, rfl⟩ := walk_under hn hl
  obtain ⟨c, hc, he⟩ := walk_under ho hl'
  obtain rfl : b = c := by
    rw [hb] at hc
    exact Except.ok.inj hc
  exact hne (List.append_cancel_left he)

theorem apart_join_name (base : Path) {a b : String} (ha : IsName a) (hb : IsName b)
    (hne : a ≠ b) : Apart (base.join ⟨a⟩) (base.join ⟨b⟩) :=
  apart_of_fileName? (Path.fileName?_join_name base ha) (Path.fileName?_join_name base hb) hne

/-! ## Finding entries -/

theorem find_eq_file {c : ByteArray} :
    t.find p = .ok (l, .file c) ↔
      t.resolve p = .ok l ∧ t.entryAt? l = some (.file c) ∧ p.endsWithSlash = false := by
  unfold find
  rw [bind_eq_ok]
  constructor
  · rintro ⟨k, hk, h⟩
    split at h
    · simp at h
    · simp at h
    · rename_i content he
      split at h
      · simp at h
      · rename_i hs
        simp only [Except.ok.injEq, Prod.mk.injEq, Entry.file.injEq] at h
        obtain ⟨rfl, rfl⟩ := h
        exact ⟨hk, he, by simpa using hs⟩
  · rintro ⟨hr, he, hs⟩
    exact ⟨l, hr, by simp [he, hs]⟩

theorem find_eq_directory :
    t.find p = .ok (l, .directory) ↔ t.resolve p = .ok l ∧ t.entryAt? l = some .directory := by
  unfold find
  rw [bind_eq_ok]
  constructor
  · rintro ⟨k, hk, h⟩
    split at h
    · simp at h
    · rename_i he
      simp only [Except.ok.injEq, Prod.mk.injEq, and_true] at h
      subst h
      exact ⟨hk, he⟩
    · split at h <;> simp at h
  · rintro ⟨hr, he⟩
    exact ⟨l, hr, by simp [he]⟩

theorem walk_of_find {e : Entry} (h : t.find p = .ok (l, e)) : t.walk p = .ok l := by
  cases e with
  | directory => exact (resolve_eq_ok.mp (find_eq_directory.mp h).1).2
  | file c => exact (resolve_eq_ok.mp (find_eq_file.mp h).1).2

/-- A name behind a path leads to this name in the place that the path leads to. -/
theorem eq_of_find_join_name {name : String} {e : Entry} (hn : IsName name)
    (hb : t.walk base = .ok place) (h : t.find (base.join ⟨name⟩) = .ok (l, e)) : l = place ++ [name] := by
  obtain ⟨b, hb', -, -, rfl⟩ := (walk_join_name hn).mp (walk_of_find h)
  rw [Except.ok.inj (hb.symm.trans hb')]

theorem isFile_iff : t.isFile p = true ↔ ∃ l c, t.find p = .ok (l, .file c) := by
  unfold isFile
  split
  · rename_i l c h
    simp [h]
  · rename_i hne
    simp only [Bool.false_eq_true, false_iff]
    rintro ⟨l, c, h⟩
    exact hne l c h

theorem readBytes_eq_ok {c : ByteArray} :
    t.readBytes p = .ok c ↔ ∃ l, t.find p = .ok (l, .file c) := by
  unfold readBytes
  rw [bind_eq_ok]
  constructor
  · rintro ⟨⟨l, e⟩, hf, h⟩
    cases e with
    | directory => simp at h
    | file content =>
      simp only [Except.ok.injEq] at h
      subst h
      exact ⟨l, hf⟩
  · rintro ⟨l, hf⟩
    exact ⟨_, hf, rfl⟩

theorem sameEntry_iff :
    t.sameEntry p q = true ↔ ∃ l e d, t.find p = .ok (l, e) ∧ t.find q = .ok (l, d) := by
  unfold sameEntry
  split
  · rename_i l e k d hp hq
    simp only [decide_eq_true_eq, hp, hq, Except.ok.injEq, Prod.mk.injEq]
    constructor
    · rintro rfl
      exact ⟨l, e, d, ⟨rfl, rfl⟩, rfl, rfl⟩
    · rintro ⟨m, _, _, ⟨rfl, -⟩, rfl, -⟩
      rfl
  · rename_i hne
    simp only [Bool.false_eq_true, false_iff]
    rintro ⟨l, e, d, hp, hq⟩
    exact hne l e l d hp hq

/-- Two paths that lead to the entry of a third one lead to one entry. -/
theorem sameEntry_of_common {r : Path} (hp : t.sameEntry p r = true) (hq : t.sameEntry q r = true) :
    t.sameEntry p q = true := by
  obtain ⟨l, e, d, hpl, hrl⟩ := sameEntry_iff.mp hp
  obtain ⟨k, e', d', hqk, hrk⟩ := sameEntry_iff.mp hq
  obtain rfl : l = k := (Prod.mk.inj (Except.ok.inj (hrl.symm.trans hrk))).1
  exact sameEntry_iff.mpr ⟨l, e, e', hpl, hqk⟩

/-- A file whose bytes are known is there. -/
theorem isFile_of_readBytes {c : ByteArray} (h : t.readBytes p = .ok c) : t.isFile p = true := by
  obtain ⟨l, hf⟩ := readBytes_eq_ok.mp h
  exact isFile_iff.mpr ⟨l, c, hf⟩

theorem readBytes_of_isFile (h : t.isFile p = true) : ∃ c, t.readBytes p = .ok c := by
  obtain ⟨l, c, hf⟩ := isFile_iff.mp h
  exact ⟨c, readBytes_eq_ok.mpr ⟨l, hf⟩⟩

/-- The bytes of a text decode to the text. -/
theorem decode_toUTF8 (s : String) : String.fromUTF8? s.toUTF8 = some s := by
  simp [String.fromUTF8?, String.fromUTF8, s.isValidUTF8]

theorem readText_of_readBytes {s : String} (h : t.readBytes p = .ok s.toUTF8) :
    t.readText p = .ok s := by
  unfold readText
  rw [h]
  simp only [bind, Except.bind, decode_toUTF8]

end IndexerTypes.FileTree
