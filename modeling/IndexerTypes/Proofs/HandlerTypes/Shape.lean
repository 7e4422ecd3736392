import IndexerTypes.HandlerTypes
import IndexerTypes.Proofs.Pointwise
import IndexerTypes.Proofs.Text.Word
import Mathlib.Data.List.Basic

/-! # Reading a shape from its line

A shape stands on one line, and the blanks of the line tell its pieces apart: braces, names with
their colons, and types. The reader goes through the pieces once, with a stack of the objects that
are not closed yet. Of the separators only the one behind the last member of an object is left
out, so each piece says whether a member follows it, and a shape whose names and types are
identifiers is read as it is (`decode_render`). -/

namespace IndexerTypes.HandlerTypes.Shape

open TypeScript

/-! ## Pieces -/

/-- What stands between two blanks; where `more` holds, with a separator behind it. -/
inductive Piece where
  | opening
  | key (name : String)
  | word (type : String) (more : Bool)
  | empty (more : Bool)
  | closing (more : Bool)
  deriving DecidableEq, Repr

def ending (more : Bool) : String := if more then ";" else ""

namespace Piece

def render : Piece → String
  | opening => "\x7b"
  | key name => name ++ ":"
  | word type more => type ++ ending more
  | empty more => "\x7b\x7d" ++ ending more
  | closing more => "\x7d" ++ ending more

/-- A text without the separator behind it, and whether there is one. -/
def readEnding (text : List Char) : List Char × Bool :=
  match [';'].isSuffixOf? text with
  | some body => (body, true)
  | none => (text, false)

def readValue? (text : List Char) : Option Piece :=
  let (body, more) := readEnding text
  if body = ['{', '}'] then some (empty more)
  else if body = ['}'] then some (closing more)
  else if Text.isIdentifier (String.ofList body) then some (word (String.ofList body) more)
  else none

def read? (text : List Char) : Option Piece :=
  if text = ['{'] then some opening
  else
    match [':'].isSuffixOf? text with
    | some name =>
      if Text.isIdentifier (String.ofList name) then some (key (String.ofList name)) else none
    | none => readValue? text

/-- The names and types in pieces are identifiers. -/
def Named : Piece → Prop
  | key name => Text.isIdentifier name = true
  | word type _ => Text.isIdentifier type = true
  | _ => True

end Piece

mutual

/-- The pieces of a shape, and of a separator behind it. -/
def pieces (more : Bool) : Shape → List Piece
  | .value type => [.word type more]
  | .object members =>
    if members.isEmpty then [.empty more]
    else .opening :: (memberPieces members ++ [.closing more])

def memberPieces : List (String × Shape) → List Piece
  | [] => []
  | (name, shape) :: rest => .key name :: (pieces (!rest.isEmpty) shape ++ memberPieces rest)

end

/-! ## The reader -/

/-- An object that is being read: its members so far, and the name of the next one. -/
structure Open where
  members : List (String × Shape)
  name : String

/-- What is to be read next, inside of some open objects. -/
inductive State where
  | value (outer : List Open)
  | key (outer : List Open) (members : List (String × Shape))
  | closing (outer : List Open) (members : List (String × Shape))
  | done (shape : Shape)

namespace State

/-- A value has been read; if a separator is behind it, another member follows. -/
def finish (shape : Shape) (more : Bool) : List Open → Option State
  | [] => if more then none else some (done shape)
  | o :: outer =>
    let members := o.members ++ [(o.name, shape)]
    some (if more then key outer members else closing outer members)

def step : State → Piece → Option State
  | value outer, .opening => some (key outer [])
  | value outer, .word type more => finish (.value type) more outer
  | value outer, .empty more => finish (.object []) more outer
  | key outer members, .key name => some (value (⟨members, name⟩ :: outer))
  | closing outer members, .closing more => finish (.object members) more outer
  | _, _ => none

def run (s : State) (l : List Piece) : Option State := l.foldlM step s

theorem run_cons (s : State) (p : Piece) (l : List Piece) :
    s.run (p :: l) = (s.step p).bind fun t => t.run l := List.foldlM_cons

theorem run_singleton (s : State) (p : Piece) : s.run [p] = s.step p := by
  rw [run_cons]
  exact Option.bind_fun_some _

theorem run_append (s : State) (l m : List Piece) :
    s.run (l ++ m) = (s.run l).bind fun t => t.run m := List.foldlM_append

end State

def ofPieces? (l : List Piece) : Option Shape :=
  match (State.value []).run l with
  | some (.done shape) => some shape
  | _ => none

/-- The shape on a line. -/
def decode (line : String) : Option Shape :=
  ((line.toList.splitOn ' ').mapM Piece.read?).bind ofPieces?

/-! ## From pieces to shapes -/

mutual

/-- The pieces of a shape are read as this shape, whatever is open around it. -/
theorem run_pieces : (shape : Shape) → (more : Bool) → (outer : List Open) →
    (State.value outer).run (pieces more shape) = State.finish shape more outer
  | .value type, more, outer => by
    rw [pieces, State.run_singleton]
    rfl
  | .object [], more, outer => by
    rw [pieces, if_pos List.isEmpty_nil, State.run_singleton]
    rfl
  | .object (m :: members), more, outer => by
    rw [pieces, if_neg (by simp), State.run_cons, State.step, Option.bind_some, State.run_append,
      run_memberPieces (m :: members) (by simp), Option.bind_some, State.run_singleton]
    rfl

theorem run_memberPieces : (members : List (String × Shape)) → members ≠ [] →
    (outer : List Open) → (before : List (String × Shape)) →
    (State.key outer before).run (memberPieces members) =
      some (.closing outer (before ++ members))
  | [], hne, _, _ => absurd rfl hne
  | [(name, shape)], _, outer, before => by
    rw [memberPieces, State.run_cons, State.step, Option.bind_some, State.run_append,
      run_pieces shape]
    rfl
  | (name, shape) :: next :: rest, _, outer, before => by
    rw [memberPieces, State.run_cons, State.step, Option.bind_some, State.run_append,
      run_pieces shape]
    rw [State.finish, Option.bind_some]
    rw [if_pos (by simp), run_memberPieces (next :: rest) (by simp), List.append_assoc]
    rfl

end

theorem ofPieces?_pieces (shape : Shape) : ofPieces? (pieces false shape) = some shape := by
  rw [ofPieces?, run_pieces]
  rfl

/-! ## From text to pieces -/

namespace Piece

theorem space_not_mem_render {p : Piece} (h : p.Named) : ' ' ∉ p.render.toList := by
  cases p with
  | opening => decide
  | key name =>
    have hname := Text.not_mem_of_isIdentifier h (c := ' ') (by decide)
    simp [render, hname]
  | word type more =>
    have htype := Text.not_mem_of_isIdentifier h (c := ' ') (by decide)
    cases more <;> simp [render, ending, htype]
  | empty more => cases more <;> decide
  | closing more => cases more <;> decide

theorem readEnding_append {body : List Char} (more : Bool) (h : ';' ∉ body) :
    readEnding (body ++ (ending more).toList) = (body, more) := by
  unfold readEnding
  cases more with
  | true =>
    have hmark : (ending true).toList = [';'] := rfl
    rw [hmark, Text.isSuffixOf?_append]
  | false =>
    have hempty : (ending false).toList = [] := rfl
    rw [hempty, List.append_nil, Text.isSuffixOf?_eq_none (List.mem_singleton_self ';') h]

theorem read?_key {name : String} (h : Text.isIdentifier name = true) :
    read? (name.toList ++ [':']) = some (key name) := by
  have hopen : name.toList ++ [':'] ≠ ['{'] := by
    intro he
    have hlast := congrArg List.getLast? he
    simp at hlast
  rw [read?, if_neg hopen, Text.isSuffixOf?_append]
  simp [h]

/-- What is not an opening brace and shows no colon is read as a value. -/
theorem read?_value {text : List Char} (hopen : text ≠ ['{']) (hcolon : ':' ∉ text) :
    read? text = readValue? text := by
  rw [read?, if_neg hopen, Text.isSuffixOf?_eq_none (List.mem_singleton_self ':') hcolon]

theorem read?_word {type : String} (more : Bool) (h : Text.isIdentifier type = true) :
    read? (type.toList ++ (ending more).toList) = some (word type more) := by
  have hno : ∀ c, Text.isIdentifierPart c = false → c ∉ type.toList :=
    fun c => Text.not_mem_of_isIdentifier h
  have hbrace := hno '{' (by decide)
  have hclose := hno '}' (by decide)
  have hopen : type.toList ++ (ending more).toList ≠ ['{'] := by
    obtain ⟨c, rest, hl, -⟩ := Text.isIdentifier_iff.mp h
    rw [hl] at hbrace ⊢
    intro he
    obtain ⟨rfl, -⟩ := List.cons.inj he
    simp at hbrace
  have hcolon : ':' ∉ type.toList ++ (ending more).toList := by
    have htype := hno ':' (by decide)
    cases more <;> simp [ending, htype]
  have hempty : type.toList ≠ ['{', '}'] := fun he => by simp [he] at hbrace
  have hclosing : type.toList ≠ ['}'] := fun he => by simp [he] at hclose
  rw [read?_value hopen hcolon, readValue?, readEnding_append more (hno ';' (by decide))]
  dsimp only
  rw [if_neg hempty, if_neg hclosing, String.ofList_toList, if_pos h]

theorem read?_render {p : Piece} (h : p.Named) : read? p.render.toList = some p := by
  cases p with
  | opening => decide
  | key name =>
    rw [render, String.toList_append]
    exact read?_key h
  | word type more =>
    rw [render, String.toList_append]
    exact read?_word more h
  | empty more => cases more <;> decide
  | closing more => cases more <;> decide

end Piece

/-- Pieces with blanks between them. -/
def joined (l : List Piece) : String := " ".intercalate (l.map Piece.render)

theorem joined_cons {l : List Piece} (p : Piece) (hl : l ≠ []) :
    joined (p :: l) = p.render ++ " " ++ joined l := by
  have hmap : l.map Piece.render ≠ [] := by simpa using hl
  exact String.intercalate_cons_of_ne_nil hmap

theorem joined_append {l m : List Piece} (hl : l ≠ []) (hm : m ≠ []) :
    joined (l ++ m) = joined l ++ " " ++ joined m := by
  have hmap : l.map Piece.render ≠ [] := by simpa using hl
  have hother : m.map Piece.render ≠ [] := by simpa using hm
  rw [joined, List.map_append, String.intercalate_append_of_ne_nil hmap hother]
  rfl

/-- Blanks tell pieces apart. -/
theorem decode_joined {l : List Piece} (hl : l ≠ []) (h : ∀ p ∈ l, p.Named) :
    decode (joined l) = ofPieces? l := by
  have hsplit : (joined l).toList.splitOn ' ' = l.map fun p => p.render.toList := by
    rw [joined, String.toList_intercalate, List.map_map]
    refine List.splitOn_intercalate ' ' ?_ (by simpa using hl)
    intro text htext
    obtain ⟨p, hp, rfl⟩ := List.mem_map.mp htext
    exact Piece.space_not_mem_render (h p hp)
  have hread : (l.map fun p => p.render.toList).mapM Piece.read? = some l := by
    refine Pointwise.mapM_eq_some (List.forall₂_map_left_iff.mpr ?_)
    exact List.forall₂_same.mpr fun p hp => Piece.read?_render (h p hp)
  rw [decode, hsplit, hread, Option.bind_some]

/-! ## From shapes to text -/

mutual

/-- The names and types in a shape are identifiers, at every depth. -/
def Named : Shape → Prop
  | .value type => Text.isIdentifier type = true
  | .object members => MembersNamed members

def MembersNamed : List (String × Shape) → Prop
  | [] => True
  | (name, shape) :: rest =>
    Text.isIdentifier name = true ∧ shape.Named ∧ MembersNamed rest

end

mutual

theorem named_pieces : (shape : Shape) → shape.Named → (more : Bool) →
    ∀ p ∈ pieces more shape, p.Named
  | .value type, h, more => by
    rw [pieces]
    exact List.forall_mem_singleton.mpr h
  | .object members, h, more => by
    have hmembers := named_memberPieces members h
    rw [pieces]
    split
    · exact List.forall_mem_singleton.mpr trivial
    · refine List.forall_mem_cons.mpr ⟨trivial, List.forall_mem_append.mpr ⟨hmembers, ?_⟩⟩
      exact List.forall_mem_singleton.mpr trivial

theorem named_memberPieces : (members : List (String × Shape)) → MembersNamed members →
    ∀ p ∈ memberPieces members, p.Named
  | [], _ => by simp [memberPieces]
  | (name, shape) :: rest, ⟨hname, hshape, hrest⟩ => by
    rw [memberPieces]
    refine List.forall_mem_cons.mpr ⟨hname, List.forall_mem_append.mpr ⟨?_, ?_⟩⟩
    · exact named_pieces shape hshape _
    · exact named_memberPieces rest hrest

end

theorem pieces_ne_nil (more : Bool) (shape : Shape) : pieces more shape ≠ [] := by
  cases shape with
  | value type => simp [pieces]
  | object members =>
    rw [pieces]
    split <;> simp

/-- The text does not end with a separator. -/
def EndsBare (text : String) : Prop :=
  ∃ before last, text.toList = before ++ [last] ∧ last ≠ ';'

theorem endsBare_append (before : String) {text : String} (h : EndsBare text) :
    EndsBare (before ++ text) := by
  obtain ⟨inner, last, hl, hne⟩ := h
  refine ⟨before.toList ++ inner, last, ?_, hne⟩
  rw [String.toList_append, hl, List.append_assoc]

theorem endsBare_of_isIdentifier {name : String} (h : Text.isIdentifier name = true) :
    EndsBare name := by
  have hne := Text.ne_nil_of_isIdentifier h
  refine ⟨name.toList.dropLast, name.toList.getLast hne, ?_, ?_⟩
  · exact (List.dropLast_append_getLast hne).symm
  · intro he
    have hsemicolon := Text.not_mem_of_isIdentifier h (c := ';') (by decide)
    exact hsemicolon (he ▸ List.getLast_mem hne)

theorem render_required (name type : String) :
    (Member.required name type).render = name ++ ": " ++ (type ++ ";") := by
  simp [Member.required, Member.render, String.append_assoc]

theorem joined_key {l : List Piece} (name : String) (hl : l ≠ []) :
    joined (.key name :: l) = name ++ ": " ++ joined l := by
  have hcolon : ": " = ":" ++ " " := rfl
  rw [joined_cons _ hl, Piece.render, hcolon]
  simp only [String.append_assoc]

/-- Only the separator behind the last member is left out. -/
theorem inlineObject_eq {members : List Member} {body : String} (hne : members ≠ [])
    (h : " ".intercalate (members.map Member.render) = body ++ ";") (hb : EndsBare body) :
    inlineObject members = "\x7b " ++ body ++ " \x7d" := by
  obtain ⟨before, last, hl, hlast⟩ := hb
  have hdrop : Text.dropTrailing ';' (body ++ ";").toList = body.toList := by
    have hsemicolon : ";".toList = [';'] := rfl
    rw [String.toList_append, hsemicolon, Text.dropTrailing_concat, hl,
      Text.dropTrailing_of_getLast hlast]
  rw [inlineObject, if_neg (by simpa using hne), h]
  dsimp only
  rw [hdrop, String.ofList_toList]

theorem endsBare_inlineObject (members : List Member) : EndsBare (inlineObject members) := by
  unfold inlineObject
  split
  · exact ⟨['{'], '}', rfl, by decide⟩
  · exact endsBare_append _ ⟨[' '], '}', rfl, by decide⟩

theorem endsBare_render {shape : Shape} (h : shape.Named) : EndsBare shape.render := by
  cases shape with
  | value type => exact endsBare_of_isIdentifier h
  | object members => exact endsBare_inlineObject _

mutual

theorem joined_pieces : (shape : Shape) → shape.Named → (more : Bool) →
    joined (pieces more shape) = shape.render ++ ending more
  | .value type, _, more => by
    rw [pieces, render]
    exact String.intercalate_singleton
  | .object [], _, more => by
    rw [pieces, if_pos List.isEmpty_nil]
    exact String.intercalate_singleton
  | .object (m :: members), h, more => by
    obtain ⟨hbody, hbare⟩ := joined_memberPieces (m :: members) h (by simp)
    have hpieces : memberPieces (m :: members) ≠ [] := by simp [memberPieces]
    have hrendered : renderMembers (m :: members) ≠ [] := by simp [renderMembers]
    rw [pieces, if_neg (by simp), render, inlineObject_eq hrendered hbody hbare,
      joined_cons _ (by simp), joined_append hpieces (by simp)]
    have hopen : "\x7b " = "\x7b" ++ " " := rfl
    have hclose : " \x7d" = " " ++ "\x7d" := rfl
    rw [hopen, hclose]
    simp only [joined, Piece.render, List.map_singleton, String.intercalate_singleton,
      String.append_assoc]

theorem joined_memberPieces : (members : List (String × Shape)) → MembersNamed members →
    members ≠ [] →
    " ".intercalate ((renderMembers members).map Member.render) =
        joined (memberPieces members) ++ ";" ∧
      EndsBare (joined (memberPieces members))
  | [], _, hne => absurd rfl hne
  | [(name, shape)], ⟨_, hshape, _⟩, _ => by
    have hjoined : joined (memberPieces [(name, shape)]) = name ++ ": " ++ shape.render := by
      rw [memberPieces, memberPieces, List.append_nil, joined_key name (pieces_ne_nil _ shape),
        joined_pieces shape hshape]
      simp [ending]
    refine ⟨?_, hjoined ▸ endsBare_append _ (endsBare_render hshape)⟩
    rw [hjoined, renderMembers, renderMembers, List.map_singleton, String.intercalate_singleton,
      render_required]
    simp only [String.append_assoc]
  | (name, shape) :: next :: rest, ⟨_, hshape, hrest⟩, _ => by
    obtain ⟨hbody, hbare⟩ := joined_memberPieces (next :: rest) hrest (by simp)
    have hpieces : memberPieces (next :: rest) ≠ [] := by simp [memberPieces]
    have hrendered : (renderMembers (next :: rest)).map Member.render ≠ [] := by
      simp [renderMembers]
    have hjoined : joined (memberPieces ((name, shape) :: next :: rest)) =
        name ++ ": " ++ (shape.render ++ ";") ++ " " ++ joined (memberPieces (next :: rest)) := by
      rw [memberPieces, joined_key name (by simp [pieces_ne_nil]),
        joined_append (pieces_ne_nil _ shape) hpieces, joined_pieces shape hshape]
      simp [ending, String.append_assoc]
    refine ⟨?_, hjoined ▸ endsBare_append _ hbare⟩
    rw [hjoined, renderMembers, List.map_cons, String.intercalate_cons_of_ne_nil hrendered, hbody,
      render_required]
    simp only [String.append_assoc]

end

/-- A shape is read from its line as it is, with all names, all types and all nesting. -/
theorem decode_render {shape : Shape} (h : shape.Named) : decode shape.render = some shape := by
  have hline : joined (pieces false shape) = shape.render := by
    rw [joined_pieces shape h]
    simp [ending]
  rw [← hline, decode_joined (pieces_ne_nil false shape) (named_pieces shape h false),
    ofPieces?_pieces]

/-- Shapes that are written alike are alike. -/
theorem render_inj {shape other : Shape} (h : shape.Named) (ho : other.Named) :
    shape.render = other.render ↔ shape = other := by
  constructor
  · intro he
    have hread := decode_render h
    rw [he, decode_render ho] at hread
    exact (Option.some.inj hread).symm
  · rintro rfl
    rfl

end IndexerTypes.HandlerTypes.Shape
