import IndexerTypes.Proofs.Abi.Declarations
import IndexerTypes.Proofs.Abi.Names
import IndexerTypes.Proofs.HandlerTypes.Params

/-! # The keys of a payload

The parameters of an event are the keys of its payload, and a tuple is an object with keys of its
own. So a payload has no key twice in one object just if the given names differ on each level and no
given name is the one of a position without a name (`keyed_generate`). -/

namespace IndexerTypes.HandlerTypes

open Abi

namespace Shape

mutual

/-- The keys of each object in a shape, at every depth. -/
def keys : Shape → List (List String)
  | .value _ => []
  | .object members => members.map Prod.fst :: memberKeys members

def memberKeys : List (String × Shape) → List (List String)
  | [] => []
  | (_, shape) :: rest => shape.keys ++ memberKeys rest

end

theorem map_fst_membersOf (params : List Param) :
    (membersOf params).map Prod.fst = params.map Param.name := by
  induction params with
  | nil => rfl
  | cons p rest ih => rw [membersOf, List.map_cons, List.map_cons, ih]

mutual

theorem keys_ofParam : (p : Param) → (ofParam p).keys = p.tuples.map (List.map Param.name)
  | .value .. => by rw [ofParam, keys, Param.tuples, List.map_nil]
  | .tuple _ components => by
    rw [ofParam, keys, Param.tuples, List.map_cons, map_fst_membersOf, memberKeys_membersOf]

theorem memberKeys_membersOf : (params : List Param) →
    memberKeys (membersOf params) = (paramTuples params).map (List.map Param.name)
  | [] => rfl
  | p :: rest => by
    rw [membersOf, memberKeys, paramTuples, List.map_append, keys_ofParam p,
      memberKeys_membersOf rest]

end

end Shape

/-- What the payload of an event shows of its parameters. -/
def payload (e : Event) : Shape := .object (Shape.membersOf e.inputs)

theorem keys_payload (e : Event) :
    (payload e).keys = (paramLevels e.inputs).map (List.map Param.name) := by
  rw [payload, Shape.keys, Shape.map_fst_membersOf, Shape.memberKeys_membersOf, paramLevels,
    List.map_cons]

/-- The names that an event has for its parameters, by its declaration. -/
structure Keyed (d : DeclaredEvent) (e : Event) : Prop where
  /-- Each level of declarations is a level of parameters, with a name for each of them. -/
  levels : paramLevels e.inputs = (declaredLevels d.inputs).map (paramsFrom 0)
  named : ∀ level ∈ paramLevels e.inputs, ∀ p ∈ level, p.name ≠ ""
  /-- The names are the keys of the payload, object by object. -/
  keys : (payload e).keys = (paramLevels e.inputs).map (List.map Param.name)
  /-- No key is there twice just if given names differ and none is the name of a position. -/
  distinct : (∀ names ∈ (payload e).keys, names.Nodup) ↔
    ∀ level ∈ declaredLevels d.inputs,
      GivenApart (level.map Declared.name) ∧ ¬ Clashes (level.map Declared.name)

theorem keyed_event (d : DeclaredEvent) : Keyed d d.event := by
  have hlevels : paramLevels d.event.inputs = (declaredLevels d.inputs).map (paramsFrom 0) :=
    paramLevels_paramsFrom d.inputs
  refine ⟨hlevels, ?_, keys_payload d.event, ?_⟩
  · rw [hlevels, List.forall_mem_map]
    exact fun level _ p hp => name_ne_empty_of_mem_paramsFrom hp
  · rw [keys_payload, hlevels, List.map_map, List.forall_mem_map]
    exact forall₂_congr fun level _ => nodup_name_paramsFrom level

/-- **A payload has a key twice just if a given name stands for a position too.** Each event of a
document has a name for every parameter. If the names that the document gives differ on each level,
the payload that the module shows has different keys in each of its objects, unless a parameter is
called like the position of one without a name next to it. -/
theorem keyed_generate {text : String} {events : List Event} (h : Abi.read text = .ok events)
    (source : String) :
    (∃ declared, DeclaresAll text declared ∧ List.Forall₂ Keyed declared events) ∧
    ∀ key e, .declared key e ∈ decisionsFrom [] events →
      ∃ before after, (generate source events).file.content =
        before ++ (payloadStart key ++ (payload e).render ++ payloadEnd key) ++ after := by
  have hkeyed := exists_declared_of_read h keyed_event
  exact ⟨hkeyed, fun key e he => content_of_declared he⟩

/-- The second parameter has no name, and the first one is called like its position. -/
def clashing : DeclaredEvent := ⟨"Paid", [.mk "param1" "uint8" [], .mk "" "uint8" []]⟩

def clashingText : String :=
  "[\x7b\"type\":\"event\",\"name\":\"Paid\",\"inputs\":[" ++
  "\x7b\"name\":\"param1\",\"type\":\"uint8\"\x7d,\x7b\"name\":\"\",\"type\":\"uint8\"\x7d]\x7d]"

theorem declaresAll_clashing : DeclaresAll clashingText [clashing] := by
  refine ⟨.array [.object [("type", .text "event"), ("name", .text "Paid"), ("inputs", .array [
    .object [("name", .text "param1"), ("type", .text "uint8")],
    .object [("name", .text ""), ("type", .text "uint8")]])]], _, by cbv, rfl, ?_⟩
  exact .cons ⟨rfl, rfl⟩ .nil

/-- All given names differ, and still the payload has one key twice. -/
theorem keyed_generate_clashing :
    (∀ level ∈ declaredLevels clashing.inputs, GivenApart (level.map Declared.name)) ∧
    ∃ events, Abi.read clashingText = .ok events ∧
      (∃ declared, DeclaresAll clashingText declared ∧ List.Forall₂ Keyed declared events) ∧
      events.map (fun e => (payload e).keys) = [[["param1", "param1"]]] ∧
      ∃ before after, (generate "Shop" events).file.content = before ++ (payloadStart "Paid" ++
        "\x7b param1: BigNumber; param1: BigNumber \x7d" ++ payloadEnd "Paid") ++ after := by
  have hread : Abi.read clashingText = .ok [clashing.event] :=
    read_eq_ok.mpr ⟨[clashing], declaresAll_clashing, rfl⟩
  obtain ⟨hkeyed, hcontent⟩ := keyed_generate hread "Shop"
  refine ⟨by decide, _, hread, hkeyed, by decide, ?_⟩
  have hkey : eventKey clashing.event = "Paid" := by decide
  have hrender : (payload clashing.event).render =
      "\x7b param1: BigNumber; param1: BigNumber \x7d" := by decide
  rw [← hrender]
  refine hcontent "Paid" clashing.event ?_
  rw [decisionsFrom, hkey]
  exact List.mem_cons_self ..

end IndexerTypes.HandlerTypes
