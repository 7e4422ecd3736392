import IndexerTypes.Proofs.Abi.Declarations
import IndexerTypes.Proofs.Abi.Names
import IndexerTypes.Proofs.HandlerTypes.Declarations

/-! # Parameters without a counterpart

The parameters of an event form trees: a tuple has its components below it, and every other
parameter is a leaf. A leaf is mapped if its type is of one of the families, with or without a
width. Any other leaf is `unknown`, and it is reported once, with its path (`reports_generate`). -/

namespace IndexerTypes.HandlerTypes

open Abi

/-! ## Families -/

/-- The type is the name of a family, perhaps with digits behind it. -/
def HasFamily (type : String) : Prop :=
  ∃ name ∈ ["bool", "address", "string", "int", "uint", "bytes"], ∃ digits : List Char,
    (∀ c ∈ digits, c.isDigit = true) ∧ type = name ++ String.ofList digits

/-- What is left without the width is a type without the digits at its end. -/
theorem exists_digits (type : String) : ∃ digits : List Char,
    (∀ c ∈ digits, c.isDigit = true) ∧ type = TypeTable.family type ++ String.ofList digits := by
  refine ⟨(type.toList.reverse.takeWhile Char.isDigit).reverse, ?_, ?_⟩
  · intro c hc
    exact List.mem_takeWhile_imp (List.mem_reverse.mp hc)
  · rw [TypeTable.family, ← String.ofList_append, ← List.reverse_append,
      List.takeWhile_append_dropWhile, List.reverse_reverse, String.ofList_toList]

theorem isSome_abiType?_iff {type : String} :
    (TypeTable.abiType? type).isSome = true ↔ HasFamily type := by
  have hnames : TypeTable.families.map Prod.fst =
      ["bool", "address", "string", "int", "uint", "bytes"] := rfl
  rw [TypeTable.abiType?, List.lookup_isSome_iff, HasFamily, ← hnames]
  constructor
  · rintro ⟨entry, hentry, he⟩
    obtain ⟨digits, hdigits, htype⟩ := exists_digits type
    rw [eq_of_beq he] at htype
    exact ⟨entry.1, List.mem_map_of_mem hentry, digits, hdigits, htype⟩
  · rintro ⟨name, hname, digits, hdigits, rfl⟩
    obtain ⟨entry, hentry, rfl⟩ := List.mem_map.mp hname
    have hself : ∀ entry ∈ TypeTable.families, TypeTable.family entry.1 = entry.1 := by decide
    rw [TypeTable.family_append_digits _ hdigits, hself entry hentry]
    exact ⟨entry, hentry, beq_self_eq_true _⟩

/-- No array is of a family. -/
theorem not_hasFamily_of_bracket {type : String} (h : type.toList.getLast? = some ']') :
    ¬ HasFamily type := by
  rintro ⟨name, hname, digits, hdigits, rfl⟩
  rw [String.toList_append, String.toList_ofList, List.getLast?_append] at h
  cases hlast : digits.getLast? with
  | some c =>
    rw [hlast] at h
    obtain rfl : c = ']' := Option.some.inj h
    exact absurd (hdigits _ (List.mem_of_getLast? hlast)) (by decide)
  | none =>
    rw [hlast] at h
    have hnone : ∀ name ∈ ["bool", "address", "string", "int", "uint", "bytes"],
        name.toList.getLast? ≠ some ']' := by decide
    exact hnone name hname h

theorem abiType?_baseType_eq_none {name type : String} :
    TypeTable.abiType? (Param.value name type).baseType = none ↔ ¬ HasFamily type := by
  rw [Param.baseType]
  by_cases h : type.toList.getLast? = some ']'
  · rw [if_pos h]
    exact iff_of_true (by decide) (not_hasFamily_of_bracket h)
  · rw [if_neg h, ← isSome_abiType?_iff, Bool.not_eq_true, Option.isSome_eq_false_iff,
      Option.isNone_iff_eq_none]

instance (type : String) : Decidable (HasFamily type) := decidable_of_iff _ isSome_abiType?_iff

example : HasFamily "uint256" ∧ ¬ HasFamily "uint256[]" ∧ ¬ HasFamily "fixed" := by decide

def isUnmapped (type : String) : Bool := ¬ HasFamily type

/-! ## Leaves -/

/-- A parameter that is not a tuple. -/
structure Leaf where
  /-- The names of the tuples around it, the outermost first, and its own name. -/
  names : List String
  type : String
  deriving DecidableEq, Repr

namespace Leaf

def path (l : Leaf) : String := ".".intercalate l.names

/-- Its type has no counterpart. -/
def isUnknown (l : Leaf) : Bool := isUnmapped l.type

def below (name : String) (l : Leaf) : Leaf := ⟨name :: l.names, l.type⟩

/-- The leaf as the module shows it. -/
def shown (l : Leaf) : Leaf :=
  ⟨l.names, (TypeTable.abiType? (Param.value "" l.type).baseType).getD TypeTable.unknown⟩

def report (source event : String) (l : Leaf) : Unmapped := ⟨source, event, l.path, l.type⟩

theorem isUnknown_below (name : String) : isUnknown ∘ below name = isUnknown := by
  funext l
  rw [Function.comp_apply, isUnknown, isUnknown, below]

theorem names_shown (l : Leaf) : l.shown.names = l.names := by
  rw [shown]

end Leaf

mutual

/-- The leaves of a parameter, from left to right. -/
def leavesOf : Param → List Leaf
  | .tuple name components => (leavesIn components).map (Leaf.below name)
  | .value name type => [⟨[name], type⟩]

def leavesIn : List Param → List Leaf
  | [] => []
  | p :: rest => leavesOf p ++ leavesIn rest

end

def unknownLeaves (params : List Param) : List Leaf := (leavesIn params).filter Leaf.isUnknown

theorem path_below {l : Leaf} (name : String) (h : l.names ≠ []) :
    (l.below name).path = name ++ "." ++ l.path := String.intercalate_cons_of_ne_nil h

mutual

theorem names_leavesOf : (p : Param) → ∀ l ∈ leavesOf p, l.names ≠ []
  | .tuple name components => by
    intro l hl
    obtain ⟨inner, -, rfl⟩ := List.mem_map.mp hl
    exact List.cons_ne_nil _ _
  | .value name type => by simp [leavesOf]

theorem names_leavesIn : (params : List Param) → ∀ l ∈ leavesIn params, l.names ≠ []
  | [] => by simp [leavesIn]
  | p :: rest => by
    rw [leavesIn, List.forall_mem_append]
    exact ⟨names_leavesOf p, names_leavesIn rest⟩

end

/-! ## Paths -/

theorem pathBelow_pathBelow {above name rest : String} (hn : name ≠ "") :
    pathBelow (pathBelow above name) rest = pathBelow above (name ++ "." ++ rest) := by
  by_cases ha : above = "" <;> simp [pathBelow, ha, hn, String.append_assoc]

/-- A tuple without a name would be left out of the paths of its components. -/
theorem unmapped_eq (params : List Param) (above : String)
    (h : ∀ l ∈ leavesIn params, "" ∉ l.names) :
    unmappedIn above params =
      (unknownLeaves params).map fun l => (pathBelow above l.path, l.type) := by
  match params with
  | [] => rfl
  | .value name type :: rest =>
    rw [leavesIn, leavesOf, List.forall_mem_append] at h
    have hrest := unmapped_eq rest above h.2
    rw [unmappedIn, unmappedOf, unknownLeaves, leavesIn, leavesOf, List.filter_append,
      List.map_append, ← unknownLeaves, ← hrest]
    cases hmapped : TypeTable.abiType? (Param.value name type).baseType with
    | none =>
      have hno := abiType?_baseType_eq_none.mp hmapped
      simp [Leaf.isUnknown, isUnmapped, hno, Leaf.path]
    | some found =>
      have hyes : HasFamily type := by
        by_contra hno
        rw [abiType?_baseType_eq_none.mpr hno] at hmapped
        cases hmapped
      simp [Leaf.isUnknown, isUnmapped, hyes]
  | .tuple name components :: rest =>
    rw [leavesIn, leavesOf, List.forall_mem_append] at h
    have hrest := unmapped_eq rest above h.2
    have hinner : ∀ l ∈ leavesIn components, name ≠ "" ∧ "" ∉ l.names := by
      intro l hl
      have hnames := h.1 (l.below name) (List.mem_map_of_mem hl)
      rw [Leaf.below, List.mem_cons, not_or] at hnames
      exact ⟨Ne.symm hnames.1, hnames.2⟩
    have hcomponents := unmapped_eq components (pathBelow above name) fun l hl => (hinner l hl).2
    rw [unmappedIn, unmappedOf, unknownLeaves, leavesIn, leavesOf, List.filter_append,
      List.map_append, ← unknownLeaves, ← hrest, hcomponents, List.filter_map,
      Leaf.isUnknown_below, ← unknownLeaves, List.map_map]
    congr 1
    refine List.map_congr_left fun l hl => ?_
    have hleaf := (List.mem_filter.mp hl).1
    rw [Function.comp_apply, path_below name (names_leavesIn components l hleaf),
      pathBelow_pathBelow (hinner l hleaf).1]
    rfl

/-! ## Events of a document -/

/-- The declarations of the leaves, from left to right. -/
def leafDeclarations : List Declared → List Declared
  | [] => []
  | .mk name type components :: rest =>
    (if type = "tuple" then leafDeclarations components else [.mk name type components]) ++
      leafDeclarations rest

/-- The type of a leaf is the one that its declaration has in signatures. -/
theorem types_paramsFrom (declared : List Declared) (index : Nat) :
    (leavesIn (paramsFrom index declared)).map Leaf.type =
      (leafDeclarations declared).map Declared.canonicalType := by
  match declared with
  | [] => simp [paramsFrom, leavesIn, leafDeclarations]
  | .mk name type components :: rest =>
    have hrest := types_paramsFrom rest (index + 1)
    rw [paramsFrom, leavesIn, leafDeclarations, List.map_append, List.map_append, hrest,
      Param.ofDeclared]
    congr 1
    split
    · rw [leavesOf, List.map_map, ← types_paramsFrom components 0]
      rfl
    · rfl

/-- Parameters without names are named after their positions, so no name is empty. -/
theorem names_paramsFrom (declared : List Declared) (index : Nat) :
    ∀ l ∈ leavesIn (paramsFrom index declared), "" ∉ l.names := by
  match declared with
  | [] => simp [paramsFrom, leavesIn]
  | .mk name type components :: rest =>
    rw [paramsFrom, leavesIn, List.forall_mem_append, Param.ofDeclared]
    refine ⟨?_, names_paramsFrom rest (index + 1)⟩
    have hname := (nameAt_ne_empty index name).symm
    split
    · rw [leavesOf, List.forall_mem_map]
      intro l hl
      rw [Leaf.below, List.mem_cons, not_or]
      exact ⟨hname, names_paramsFrom components 0 l hl⟩
    · simpa [leavesOf] using hname

theorem exists_inputs_of_read {text : String} {events : List Event}
    (h : Abi.read text = .ok events) :
    ∀ e ∈ events, ∃ declared, e.inputs = paramsFrom 0 declared := by
  obtain ⟨declared, -, rfl⟩ := read_eq_ok.mp h
  exact List.forall_mem_map.mpr fun d _ => ⟨d.inputs, rfl⟩

/-! ## Shapes -/

namespace Shape

mutual

/-- The types that a shape shows, from left to right, with the names on the way to them. -/
def leaves : Shape → List Leaf
  | .value type => [⟨[], type⟩]
  | .object members => memberLeaves members

def memberLeaves : List (String × Shape) → List Leaf
  | [] => []
  | (name, shape) :: rest => shape.leaves.map (Leaf.below name) ++ memberLeaves rest

end

theorem below_shown (name : String) (l : Leaf) : l.shown.below name = (l.below name).shown := by
  simp only [Leaf.below, Leaf.shown]

theorem shown_leaf (name type : String) :
    (Leaf.mk [] ((TypeTable.abiType? (Param.value name type).baseType).getD
      TypeTable.unknown)).below name = (Leaf.mk [name] type).shown := by
  simp only [Leaf.below, Leaf.shown, Param.baseType]

mutual

/-- A parameter is shown by a shape with the same leaves. -/
theorem leaves_ofParam : (p : Param) →
    (ofParam p).leaves.map (Leaf.below p.name) = (leavesOf p).map Leaf.shown
  | .value name type => by
    rw [ofParam, leaves, leavesOf, Param.name, List.map_singleton, List.map_singleton, shown_leaf]
  | .tuple name components => by
    rw [ofParam, leaves, leavesOf, Param.name, leaves_membersOf components, List.map_map,
      List.map_map]
    exact List.map_congr_left fun l _ => below_shown name l

theorem leaves_membersOf : (params : List Param) →
    memberLeaves (membersOf params) = (leavesIn params).map Leaf.shown
  | [] => rfl
  | p :: rest => by
    rw [membersOf, memberLeaves, leavesIn, List.map_append, leaves_ofParam p,
      leaves_membersOf rest]

end

end Shape

theorem type_shown (l : Leaf) : l.shown.type = "unknown" ↔ ¬ HasFamily l.type := by
  have hmapped : ∀ entry ∈ TypeTable.families, entry.2 ≠ "unknown" := by decide
  rw [← @abiType?_baseType_eq_none "", Leaf.shown]
  cases h : TypeTable.abiType? (Param.value "" l.type).baseType with
  | none => simp [TypeTable.unknown]
  | some found =>
    obtain ⟨before, after, he, -⟩ := List.lookup_eq_some_iff.mp h
    have hne := hmapped (_, found) (he ▸ List.mem_append_right before (List.mem_cons_self ..))
    simp [hne]

/-! ## The report -/

/-- What a declaration module does with the parameters of its events. -/
structure ReportsUnmapped (source : String) (events : List Event) (r : Result) : Prop where
  /-- The leaves of all events come from the document, with the types of their declarations. -/
  canonical : ∀ e ∈ events, ∃ declared, e.inputs = paramsFrom 0 declared ∧
    (leavesIn e.inputs).map Leaf.type = (leafDeclarations declared).map Declared.canonicalType
  /-- All names on the way to a leaf are in its path. -/
  named : ∀ e ∈ events, ∀ l ∈ leavesIn e.inputs, "" ∉ l.names
  listed : r.unmapped = (Distinct.firsts eventKey events).flatMap fun e =>
    (unknownLeaves e.inputs).map (Leaf.report source (eventKey e))
  warned : r.saying [unmappedMessage] = r.unmapped.map Decision.unmappedNotice
  content : r.file.content =
    opening ++ String.join ((Distinct.firsts eventKey events).map fun e =>
        block (eventKey e) (Shape.object (Shape.membersOf e.inputs)).render) ++
      gap (keys events) ++ setText source (keys events)
  /-- The payload of an event shows its leaves, and as `unknown` just those that are reported. -/
  shown : ∀ e ∈ Distinct.firsts eventKey events,
    List.Forall₂ (fun l s => s.names = l.names ∧ (s.type = "unknown" ↔ ¬ HasFamily l.type))
      (leavesIn e.inputs) (Shape.memberLeaves (Shape.membersOf e.inputs))

variable {source : String} {events : List Event}

theorem unmapped_generate (h : ∀ e ∈ events, ∀ l ∈ leavesIn e.inputs, "" ∉ l.names) :
    (generate source events).unmapped = (Distinct.firsts eventKey events).flatMap fun e =>
      (unknownLeaves e.inputs).map (Leaf.report source (eventKey e)) := by
  refine (flatMap_declared fun _ => rfl).trans (List.flatMap_congr fun e he => ?_)
  have hnames := h e ((Distinct.firsts_sublist eventKey events).subset he)
  rw [Decision.unmapped, unmapped_eq e.inputs "" hnames, List.map_map]
  rfl

theorem saying_unmapped (source : String) (events : List Event) :
    (generate source events).saying [unmappedMessage] =
      (generate source events).unmapped.map Decision.unmappedNotice := by
  refine List.filter_flatMap.trans (.trans ?_ List.map_flatMap.symm)
  refine List.flatMap_congr fun d _ => ?_
  have hall : ∀ n ∈ (d.unmapped source).map Decision.unmappedNotice,
      decide (n.message ∈ [unmappedMessage]) = true := by
    simp [Decision.unmappedNotice, unmappedMessage]
  have hrecord : (d.record source).message ∉ [unmappedMessage] := by
    cases d <;> simp [Decision.record, generating, skipping, unmappedMessage]
  rw [Decision.notices_eq, List.filter_cons_of_neg (by simpa using hrecord),
    List.filter_eq_self.mpr hall]

theorem forall₂_shown (params : List Param) :
    List.Forall₂ (fun l s => s.names = l.names ∧ (s.type = "unknown" ↔ ¬ HasFamily l.type))
      (leavesIn params) (Shape.memberLeaves (Shape.membersOf params)) := by
  rw [Shape.leaves_membersOf, List.forall₂_map_right_iff, List.forall₂_same]
  exact fun l _ => ⟨l.names_shown, type_shown l⟩

/-- **Each parameter without a counterpart is reported once.** Of the events that a document
declares first under their names, the leaves that are of no family are listed, in order, with the
source, the event, the path and the type; the warnings say the same, and just these leaves are
shown as `unknown`. Events that are skipped have no part in it. -/
theorem reports_generate {text : String} (h : Abi.read text = .ok events) (source : String) :
    ReportsUnmapped source events (generate source events) := by
  have hinputs := exists_inputs_of_read h
  have hnames : ∀ e ∈ events, ∀ l ∈ leavesIn e.inputs, "" ∉ l.names := by
    intro e he
    obtain ⟨declared, hd⟩ := hinputs e he
    exact hd ▸ names_paramsFrom declared 0
  refine ⟨fun e he => ?_, hnames, unmapped_generate hnames, saying_unmapped source events,
    content_generate source events, fun e _ => forall₂_shown e.inputs⟩
  obtain ⟨declared, hd⟩ := hinputs e he
  exact ⟨declared, hd, hd ▸ types_paramsFrom declared 0⟩

/-- An event with a tuple in a tuple, parameters without names and a list of tuples, and another
event of its name. -/
def overloadedText : String :=
  "[\x7b\"type\":\"event\",\"name\":\"Fill\",\"inputs\":[" ++
  "[\"a\",\"tuple\",[[\"\",\"tuple\",[[\"\",\"fixed\"]]],[\"ids\",\"int8[]\"]]]," ++
  "[\"to\",\"address\"],[\"\",\"tuple[2]\",[[\"\",\"bool\"]]]]\x7d," ++
  "\x7b\"type\":\"event\",\"name\":\" Fill\",\"inputs\":[[\"\",\"fixed\"]]\x7d]"

/-- Its paths go through the tuples, and the other event adds nothing. -/
theorem reports_generate_overloaded : ∃ events, Abi.read overloadedText = .ok events ∧
    ReportsUnmapped "Shop" events (generate "Shop" events) ∧
    (generate "Shop" events).unmapped = [
      ⟨"Shop", "Fill", "a.param0.param0", "fixed"⟩, ⟨"Shop", "Fill", "a.ids", "int8[]"⟩,
      ⟨"Shop", "Fill", "param2", "(bool)[2]"⟩] := by
  have hread : (Abi.read overloadedText).toOption.map (fun events =>
      (generate "Shop" events).unmapped) = some [
        ⟨"Shop", "Fill", "a.param0.param0", "fixed"⟩, ⟨"Shop", "Fill", "a.ids", "int8[]"⟩,
        ⟨"Shop", "Fill", "param2", "(bool)[2]"⟩] := by decide +kernel
  cases h : Abi.read overloadedText with
  | error e =>
    rw [h] at hread
    cases hread
  | ok events =>
    rw [h] at hread
    exact ⟨events, rfl, reports_generate h "Shop", Option.some.inj hread⟩

end IndexerTypes.HandlerTypes
