import IndexerTypes.Proofs.HandlerTypes.Shape

/-! # Parameters of events, as they are written

The payload of an event shows the event's parameters as a shape on one line. If all names among the
parameters are identifiers, the line says which parameters they are: their names in order, the
tuples around them, and the types that they are mapped to (`decode_paramsType`). -/

namespace IndexerTypes.Abi

mutual

/-- The names of a parameter are identifiers, at every depth. -/
def Param.Named : Param → Prop
  | .tuple name components => Text.isIdentifier name = true ∧ AllNamed components
  | .value name _ => Text.isIdentifier name = true

def AllNamed : List Param → Prop
  | [] => True
  | p :: rest => p.Named ∧ AllNamed rest

end

/-- The one list is the other with a tuple, at any depth, in another form: with its components in
its place, or without its only component. -/
inductive Reshaped : List Param → List Param → Prop
  | flat (before : List Param) (name : String) (components after : List Param) :
      Reshaped (before ++ .tuple name components :: after) (before ++ components ++ after)
  | emptied (before : List Param) (name : String) (p : Param) (after : List Param) :
      Reshaped (before ++ .tuple name [p] :: after) (before ++ .tuple name [] :: after)
  | inside (before : List Param) (name : String) {components others : List Param}
      (after : List Param) : Reshaped components others →
      Reshaped (before ++ .tuple name components :: after) (before ++ .tuple name others :: after)

end IndexerTypes.Abi

namespace IndexerTypes.HandlerTypes

open Abi

variable {params others : List Param}

/-! ## Mapped trees -/

namespace Shape

/-- The members show the parameters: one after the other, under their names, a tuple as an object
that shows its components, and any other parameter by the type that its own is mapped to. -/
inductive Shows : List Param → List (String × Shape) → Prop
  | nil : Shows [] []
  | tuple {name : String} {components rest : List Param} {inner members : List (String × Shape)} :
      Shows components inner → Shows rest members →
      Shows (.tuple name components :: rest) ((name, .object inner) :: members)
  | mapped {name type found : String} {rest : List Param} {members : List (String × Shape)} :
      TypeTable.abiType? (Param.value name type).baseType = some found → Shows rest members →
      Shows (.value name type :: rest) ((name, .value found) :: members)
  | unknown {name type : String} {rest : List Param} {members : List (String × Shape)} :
      TypeTable.abiType? (Param.value name type).baseType = none → Shows rest members →
      Shows (.value name type :: rest) ((name, .value "unknown") :: members)

theorem shows_membersOf : (params : List Param) → Shows params (membersOf params)
  | [] => .nil
  | .tuple _ components :: rest => .tuple (shows_membersOf components) (shows_membersOf rest)
  | .value name type :: rest => by
    rw [membersOf, ofParam]
    cases h : TypeTable.abiType? (Param.value name type).baseType with
    | none => exact .unknown h (shows_membersOf rest)
    | some found => exact .mapped h (shows_membersOf rest)

/-- Only one list of members shows a list of parameters. -/
theorem Shows.eq_membersOf {members : List (String × Shape)} (h : Shows params members) :
    members = membersOf params := by
  induction h with
  | nil => rfl
  | tuple _ _ ihinner ihrest => rw [membersOf, ofParam, ← ihinner, ← ihrest, Param.name]
  | mapped hmapped _ ih => rw [membersOf, ofParam, hmapped, ← ih, Option.getD_some, Param.name]
  | unknown hmapped _ ih =>
    rw [membersOf, ofParam, hmapped, ← ih, Option.getD_none, Param.name, TypeTable.unknown]

theorem membersOf_append (params others : List Param) :
    membersOf (params ++ others) = membersOf params ++ membersOf others := by
  induction params with
  | nil => rfl
  | cons p params ih => rw [List.cons_append, membersOf, membersOf, ih, List.cons_append]

theorem isIdentifier_leaf (base : String) :
    Text.isIdentifier ((TypeTable.abiType? base).getD TypeTable.unknown) = true := by
  have hall : ∀ entry ∈ TypeTable.families, Text.isIdentifier entry.2 = true := by decide
  cases h : TypeTable.abiType? base with
  | none => decide
  | some type =>
    obtain ⟨before, after, he, -⟩ := List.lookup_eq_some_iff.mp h
    exact hall (TypeTable.family base, type) (by simp [he])

mutual

theorem named_ofParam : (p : Param) → p.Named → (ofParam p).Named
  | .tuple _ components, h => by
    rw [ofParam]
    exact membersNamed_membersOf components h.2
  | .value name type, _ => by
    rw [ofParam]
    exact isIdentifier_leaf _

theorem membersNamed_membersOf : (params : List Param) → AllNamed params →
    MembersNamed (membersOf params)
  | [], _ => trivial
  | p :: rest, ⟨hp, hrest⟩ => by
    have hname : Text.isIdentifier p.name = true := by
      cases p with
      | tuple name components => exact hp.1
      | value name type => exact hp
    rw [membersOf]
    exact ⟨hname, named_ofParam p hp, membersNamed_membersOf rest hrest⟩

end

/-- No object is a member of itself alone. -/
theorem ne_singleton_object (members : List (String × Shape)) (name : String) :
    members ≠ [(name, .object members)] := by
  intro h
  have hsize := congrArg sizeOf h
  simp at hsize
  omega

theorem membersOf_ne_of_reshaped (h : Reshaped params others) :
    membersOf params ≠ membersOf others := by
  induction h with
  | flat before name components after =>
    intro he
    rw [List.append_assoc] at he
    simp only [membersOf_append, membersOf, ofParam] at he
    have hfront := List.append_cancel_left he
    have hsingle : [(name, .object (membersOf components))] ++ membersOf after =
        membersOf components ++ membersOf after := hfront
    exact ne_singleton_object _ _ (List.append_cancel_right hsingle).symm
  | emptied before name p after =>
    intro he
    simp [membersOf_append, membersOf, ofParam] at he
  | inside before name after _ ih =>
    intro he
    simp only [membersOf_append, membersOf, ofParam] at he
    have hmember := (List.cons.inj (List.append_cancel_left he)).1
    exact ih (Shape.object.inj (Prod.mk.inj hmember).2)

end Shape

/-! ## Written parameters -/

theorem decode_members (h : AllNamed params) :
    Shape.decode (paramsType params) = some (.object (Shape.membersOf params)) :=
  Shape.decode_render (Shape.membersNamed_membersOf params h)

theorem paramsType_inj (h : AllNamed params) (ho : AllNamed others) :
    paramsType params = paramsType others ↔ Shape.membersOf params = Shape.membersOf others := by
  have hnamed : (Shape.object (Shape.membersOf params)).Named :=
    Shape.membersNamed_membersOf params h
  have hother : (Shape.object (Shape.membersOf others)).Named :=
    Shape.membersNamed_membersOf others ho
  exact (Shape.render_inj hnamed hother).trans (by simp)

/-- What stands in front of the parameters of an event. -/
def payloadStart (event : String) : String :=
  "export interface " ++ Decision.payloadName event ++ " extends EventLog \x7b\n  name: \"" ++
    event ++ "\";\n  params: "

/-- What stands behind the parameters of an event, from the separator on. -/
def payloadEnd (event : String) : String :=
  ";\n  block: Block;\n  transaction: Transaction;\n\x7d\nexport type " ++
    Decision.handlerName event ++ " = (event: " ++ Decision.payloadName event ++
    ", context: Context) => void;\n"

theorem declaration_eq (name : String) (event : Event) :
    (Decision.declared name event).declaration =
      payloadStart name ++ paramsType event.inputs ++ payloadEnd name := by
  unfold Decision.declaration payloadStart payloadEnd
  simp only [String.append_assoc]

theorem content_eq (source : String) (events : List Event) :
    ∃ tail, (generate source events).file.content = header ++ "\n" ++
      String.join ((decisionsFrom [] events).map Decision.declaration) ++ tail :=
  ⟨_, String.append_assoc⟩

/-- Each declared event is in the module, with its parameters in their place. -/
theorem content_of_declared {source : String} {events : List Event} {name : String}
    {event : Event} (h : .declared name event ∈ decisionsFrom [] events) :
    ∃ before after, (generate source events).file.content =
      before ++ (payloadStart name ++ paramsType event.inputs ++ payloadEnd name) ++ after := by
  obtain ⟨earlier, later, hsplit⟩ := List.append_of_mem h
  obtain ⟨tail, hcontent⟩ := content_eq source events
  rw [hsplit, List.map_append, List.map_cons, String.join_append, String.join_cons,
    declaration_eq] at hcontent
  refine ⟨header ++ "\n" ++ String.join (earlier.map Decision.declaration),
    String.join (later.map Decision.declaration) ++ tail, ?_⟩
  rw [hcontent]
  simp only [String.append_assoc]

/-- **The parameters of an event can be read from its payload.** The module of a source shows them
on one line, and if their names are identifiers, that line gives back all names in their order, all
tuples, and the type of each value. So lines are equal just if the mapped parameters are, and no
other form of a tuple is written like it. -/
theorem decode_paramsType (h : AllNamed params) :
    (∀ source events name event, .declared name event ∈ decisionsFrom [] events →
      event.inputs = params → ∃ before after, (generate source events).file.content =
        before ++ (payloadStart name ++ paramsType params ++ payloadEnd name) ++ after) ∧
    (∃ members, Shape.Shows params members ∧
      Shape.decode (paramsType params) = some (.object members)) ∧
    ∀ others, AllNamed others →
      (paramsType params = paramsType others ↔
        ∃ members, Shape.Shows params members ∧ Shape.Shows others members) ∧
      (Reshaped params others → paramsType params ≠ paramsType others) := by
  refine ⟨?_, ⟨_, Shape.shows_membersOf params, decode_members h⟩, fun others ho => ⟨?_, ?_⟩⟩
  · rintro source events name event hdeclared rfl
    exact content_of_declared hdeclared
  · rw [paramsType_inj h ho]
    constructor
    · intro he
      exact ⟨_, Shape.shows_membersOf params, he ▸ Shape.shows_membersOf others⟩
    · rintro ⟨members, hp, hothers⟩
      exact hp.eq_membersOf.symm.trans hothers.eq_membersOf
  · intro hr he
    exact Shape.membersOf_ne_of_reshaped hr ((paramsType_inj h ho).mp he)

/-- Tuples in a tuple, one of them empty, and a list. -/
def nestedParams : List Param := [
  .tuple "order" [.value "maker" "address", .tuple "none" [], .tuple "meta" [.value "flag" "bool"]],
  .value "ids" "uint256[]"]

/-- Its line keeps the nesting, down to the tuple without components. -/
theorem decode_paramsType_nested : AllNamed nestedParams ∧
    paramsType nestedParams = "\x7b order: \x7b maker: string; none: \x7b\x7d; " ++
      "meta: \x7b flag: boolean \x7d \x7d; ids: unknown \x7d" ∧
    Shape.decode (paramsType nestedParams) = some (.object [
      ("order", .object [("maker", .value "string"), ("none", .object []),
        ("meta", .object [("flag", .value "boolean")])]),
      ("ids", .value "unknown")]) := by
  have hnamed : AllNamed nestedParams := by
    simp only [nestedParams, AllNamed, Param.Named]
    decide
  obtain ⟨-, ⟨members, hshows, hdecode⟩, -⟩ := decode_paramsType hnamed
  obtain rfl := hshows.eq_membersOf
  exact ⟨hnamed, by decide +kernel, hdecode⟩

end IndexerTypes.HandlerTypes
