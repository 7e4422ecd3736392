import IndexerTypes.Proofs.Text.Word
import IndexerTypes.TypeScript
import Mathlib.Data.List.Basic

/-! # Reading a module of aliases

A generated module is read back line by line: the note, and then aliases of object types, each
with one member a line. Names are identifiers and no type goes over the end of its line, so a
module of such aliases reads as these aliases (`readModule?_moduleText`). -/

namespace IndexerTypes.TypeScript

/-- An exported alias of an object type. -/
structure Alias where
  name : String
  members : List Member
  deriving DecidableEq, Repr

namespace Alias

def render (a : Alias) : String := objectAlias a.name a.members

/-- The note, and below it the aliases, each behind an empty line. -/
def moduleText (aliases : List Alias) : String :=
  generatedNote ++ "\n" ++ String.join (aliases.map fun a => "\n" ++ a.render)

/-! ## The reader -/

/-- Whether a member may be absent, and what follows the colon behind its name. -/
def readColon? : List Char → Option (Bool × List Char)
  | '?' :: ':' :: ' ' :: rest => some (true, rest)
  | ':' :: ' ' :: rest => some (false, rest)
  | _ => none

/-- The member on a line of its own. -/
def readMember? : List Char → Option Member
  | ' ' :: ' ' :: line => do
    let (name, rest) := line.span Text.isIdentifierPart
    let (optional, rest) ← readColon? rest
    let type ← [';'].isSuffixOf? rest
    pure ⟨String.ofList name, String.ofList type, optional⟩
  | _ => none

/-- What the first line of an alias begins with. -/
def exportMark : String := "export type "

/-- Behind the name of an alias that has members. -/
def openMark : String := " = \x7b"

/-- Behind the name of an alias without members. -/
def emptyMark : String := " = \x7b\x7d;"

/-- Below the members of an alias. -/
def closeMark : String := "\x7d;"

/-- The name of an alias, and whether members follow. -/
def readHead? (line : List Char) : Option (String × Bool) := do
  let line ← exportMark.toList.isPrefixOf? line
  let (name, rest) := line.span Text.isIdentifierPart
  if rest = openMark.toList then pure (String.ofList name, true)
  else if rest = emptyMark.toList then pure (String.ofList name, false)
  else none

/-- The aliases on some lines, where one may have been begun before. -/
def readLines? : Option Alias → List (List Char) → Option (List Alias)
  | none, [] => some []
  | some _, [] => none
  | none, line :: rest =>
    if line.isEmpty then readLines? none rest
    else
      match readHead? line with
      | none => none
      | some (name, true) => readLines? (some ⟨name, []⟩) rest
      | some (name, false) => (readLines? none rest).map (⟨name, []⟩ :: ·)
  | some a, line :: rest =>
    if line = closeMark.toList then (readLines? none rest).map (a :: ·)
    else
      match readMember? line with
      | none => none
      | some m => readLines? (some ⟨a.name, a.members ++ [m]⟩) rest

/-- The aliases of a module. -/
def readModule? (text : String) : Option (List Alias) :=
  match text.toList.splitOn '\n' with
  | [] => none
  | note :: lines => if note = generatedNote.toList then readLines? none lines else none

/-! ## Lines -/

/-- A member whose type stays on its line. -/
structure IsPlain (m : Member) : Prop where
  name : Text.isIdentifier m.name = true
  type : '\n' ∉ m.type.toList

/-- An alias whose lines can be told apart. -/
structure IsReadable (a : Alias) : Prop where
  name : Text.isIdentifier a.name = true
  members : ∀ m ∈ a.members, IsPlain m

def lineOf (m : Member) : String := "  " ++ m.render

def headOf (name mark : String) : String := exportMark ++ (name ++ mark)

def lines (a : Alias) : List String :=
  if a.members.isEmpty then [headOf a.name emptyMark]
  else headOf a.name openMark :: (a.members.map lineOf ++ [closeMark])

/-- Lines, each with its end. -/
def ofLines (lines : List String) : String := String.join (lines.map (· ++ "\n"))

theorem ofLines_cons (line : String) (lines : List String) :
    ofLines (line :: lines) = line ++ "\n" ++ ofLines lines := String.join_cons

theorem ofLines_append (before after : List String) :
    ofLines (before ++ after) = ofLines before ++ ofLines after := by
  unfold ofLines
  rw [List.map_append, String.join_append]

theorem ofLines_members (members : List Member) :
    ofLines (members.map lineOf) = String.join (members.map memberLine) := by
  unfold ofLines
  rw [List.map_map]
  rfl

theorem render_eq_ofLines (a : Alias) : a.render = ofLines a.lines := by
  unfold render objectAlias lines
  split
  · simp [ofLines, headOf, exportMark, emptyMark, String.append_assoc]
  · rw [ofLines_cons, ofLines_append, ofLines_members]
    simp [ofLines, headOf, exportMark, openMark, closeMark, String.append_assoc]

/-- A module is a list of lines. -/
theorem moduleText_eq_ofLines (aliases : List Alias) :
    moduleText aliases = ofLines (generatedNote :: aliases.flatMap fun a => "" :: a.lines) := by
  have hbelow : String.join (aliases.map fun a => "\n" ++ a.render) =
      ofLines (aliases.flatMap fun a => "" :: a.lines) := by
    induction aliases with
    | nil => rfl
    | cons a aliases ih =>
      rw [List.map_cons, String.join_cons, ih, List.flatMap_cons, ofLines_append, ofLines_cons,
        render_eq_ofLines]
      simp
  rw [moduleText, hbelow, ofLines_cons]

theorem splitOn_ofLines {lines : List String} (h : ∀ line ∈ lines, '\n' ∉ line.toList) :
    (ofLines lines).toList.splitOn '\n' = lines.map String.toList ++ [[]] := Text.splitOn_lines h

/-! ## Members -/

/-- What stands behind the name of a member. -/
def colonOf (m : Member) : List Char :=
  (if m.optional then ['?'] else []) ++ ':' :: ' ' :: (m.type.toList ++ [';'])

theorem toList_memberRender (m : Member) : m.render.toList = m.name.toList ++ colonOf m := by
  cases h : m.optional <;> simp [Member.render, colonOf, h]

theorem toList_lineOf (m : Member) :
    (lineOf m).toList = ' ' :: ' ' :: (m.name.toList ++ colonOf m) := by
  rw [lineOf, String.toList_append, toList_memberRender]
  rfl

theorem readColon?_colonOf (m : Member) :
    readColon? (colonOf m) = some (m.optional, m.type.toList ++ [';']) := by
  cases h : m.optional <;> simp [colonOf, readColon?, h]

theorem endsWord_colonOf (m : Member) : Text.EndsWord (colonOf m) := by
  unfold colonOf
  split
  · exact Text.endsWord_cons (c := '?') _ (by decide)
  · exact Text.endsWord_cons (c := ':') _ (by decide)

theorem readMember?_lineOf {m : Member} (h : IsPlain m) :
    readMember? (lineOf m).toList = some m := by
  have hspan := Text.span_identifier h.name (endsWord_colonOf m)
  rw [toList_lineOf, readMember?, hspan]
  dsimp only
  rw [readColon?_colonOf]
  dsimp only [Option.bind_eq_bind, Option.bind_some]
  rw [Text.isSuffixOf?_append]
  simp

theorem lineOf_ne_closeMark (m : Member) : (lineOf m).toList ≠ closeMark.toList := by
  rw [toList_lineOf]
  intro h
  exact absurd (List.cons.inj h).1 (by decide)

theorem newline_not_mem_lineOf {m : Member} (h : IsPlain m) : '\n' ∉ (lineOf m).toList := by
  have hname := Text.not_mem_of_isIdentifier h.name (c := '\n') (by decide)
  rw [toList_lineOf]
  cases ho : m.optional <;> simp [colonOf, ho, hname, h.type]

/-! ## Aliases -/

theorem readHead?_headOf {name mark : String} (h : Text.isIdentifier name = true)
    (hm : Text.EndsWord mark.toList) : readHead? (headOf name mark).toList =
      if mark.toList = openMark.toList then some (name, true)
      else if mark.toList = emptyMark.toList then some (name, false)
      else none := by
  have hword : exportMark.toList.isPrefixOf? (headOf name mark).toList =
      some (name.toList ++ mark.toList) := by
    rw [headOf, String.toList_append, String.toList_append]
    exact List.isPrefixOf?_eq_some_iff_append_eq.mpr rfl
  rw [readHead?, hword]
  dsimp only [Option.bind_eq_bind, Option.bind_some]
  rw [Text.span_identifier h hm]
  simp

theorem readHead?_openMark {name : String} (h : Text.isIdentifier name = true) :
    readHead? (headOf name openMark).toList = some (name, true) := by
  have hmark : Text.EndsWord openMark.toList := Text.endsWord_cons (c := ' ') _ (by decide)
  rw [readHead?_headOf h hmark, if_pos rfl]

theorem readHead?_emptyMark {name : String} (h : Text.isIdentifier name = true) :
    readHead? (headOf name emptyMark).toList = some (name, false) := by
  have hmark : Text.EndsWord emptyMark.toList := Text.endsWord_cons (c := ' ') _ (by decide)
  rw [readHead?_headOf h hmark, if_neg (by decide), if_pos rfl]

theorem headOf_nonempty (name mark : String) : (headOf name mark).toList.isEmpty = false := by
  rw [headOf, String.toList_append]
  rfl

theorem readLines?_members {name : String} {before members : List Member}
    (h : ∀ m ∈ members, IsPlain m) (rest : List (List Char)) :
    readLines? (some ⟨name, before⟩)
        ((members.map lineOf).map String.toList ++ closeMark.toList :: rest) =
      (readLines? none rest).map (⟨name, before ++ members⟩ :: ·) := by
  induction members generalizing before with
  | nil => simp [readLines?]
  | cons m members ih =>
    obtain ⟨hm, hmembers⟩ := List.forall_mem_cons.mp h
    rw [List.map_cons, List.map_cons, List.cons_append, readLines?,
      if_neg (lineOf_ne_closeMark m), readMember?_lineOf hm]
    dsimp only
    rw [ih hmembers, List.append_assoc, List.singleton_append]

theorem readLines?_lines {a : Alias} (h : a.IsReadable) (rest : List (List Char)) :
    readLines? none (a.lines.map String.toList ++ rest) =
      (readLines? none rest).map (a :: ·) := by
  obtain ⟨name, members⟩ := a
  unfold lines
  split
  · rename_i hempty
    obtain rfl := List.isEmpty_iff.mp hempty
    rw [List.map_singleton, List.singleton_append, readLines?, headOf_nonempty,
      readHead?_emptyMark h.name]
    rfl
  · rw [List.map_cons, List.map_append, List.map_singleton, List.cons_append, List.append_assoc,
      List.singleton_append, readLines?, headOf_nonempty, readHead?_openMark h.name]
    exact readLines?_members h.members rest

theorem newline_not_mem_lines {a : Alias} (h : a.IsReadable) :
    ∀ line ∈ a.lines, '\n' ∉ line.toList := by
  have hname := Text.not_mem_of_isIdentifier h.name (c := '\n') (by decide)
  have hhead : ∀ mark : String, '\n' ∉ mark.toList → '\n' ∉ (headOf a.name mark).toList := by
    intro mark hmark
    have hexport : '\n' ∉ exportMark.toList := by decide
    rw [headOf, String.toList_append, String.toList_append]
    simp [hexport, hname, hmark]
  intro line hline
  unfold lines at hline
  split at hline
  · obtain rfl := List.mem_singleton.mp hline
    exact hhead emptyMark (by decide)
  · rcases List.mem_cons.mp hline with rfl | hline
    · exact hhead openMark (by decide)
    · rcases List.mem_append.mp hline with hline | hline
      · obtain ⟨m, hm, rfl⟩ := List.mem_map.mp hline
        exact newline_not_mem_lineOf (h.members m hm)
      · obtain rfl := List.mem_singleton.mp hline
        decide

/-- A module of readable aliases is read as these aliases, in their order. -/
theorem readModule?_moduleText {aliases : List Alias} (h : ∀ a ∈ aliases, a.IsReadable) :
    readModule? (moduleText aliases) = some aliases := by
  have hlines : ∀ line ∈ generatedNote :: aliases.flatMap (fun a => "" :: a.lines),
      '\n' ∉ line.toList := by
    intro line hline
    rcases List.mem_cons.mp hline with rfl | hline
    · decide
    · obtain ⟨a, ha, hline⟩ := List.mem_flatMap.mp hline
      rcases List.mem_cons.mp hline with rfl | hline
      · decide
      · exact newline_not_mem_lines (h a ha) line hline
  have hread : readLines? none
      ((aliases.flatMap fun a => "" :: a.lines).map String.toList ++ [[]]) = some aliases := by
    clear hlines
    induction aliases with
    | nil => rfl
    | cons a aliases ih =>
      obtain ⟨ha, haliases⟩ := List.forall_mem_cons.mp h
      rw [List.flatMap_cons, List.cons_append, List.map_cons, List.map_append, List.cons_append,
        List.append_assoc, readLines?]
      rw [if_pos (by decide), readLines?_lines ha, ih haliases]
      rfl
  rw [readModule?, moduleText_eq_ofLines, splitOn_ofLines hlines, List.map_cons,
    List.cons_append]
  dsimp only
  rw [if_pos rfl, hread]

end Alias

end IndexerTypes.TypeScript
