import IndexerTypes.Proofs.Abi.Items
import Mathlib.Logic.Relation

/-! # What an ABI may hold besides its events

Items of other types, keys that no event and no parameter has, and the object around the items have
no part in the result. Each edit of this kind leaves every reading as it is, also one that fails
(`eventsOf_of_edit`), and so does any number of them, there and back (`settled_eventsOf`). -/

namespace IndexerTypes.Abi

/-- The second parameter has one key more, of no meaning, perhaps inside its components. -/
inductive Widens : Json → Json → Prop where
  | key {key : String} (before after : List (String × Json)) (v : Json)
      (hkey : key ∉ ["name", "type", "components"]) :
      Widens (.object (before ++ after)) (.object (before ++ (key, v) :: after))
  | component {c d : Json} (before after : List (String × Json)) (front back : List Json)
      (hinner : Widens c d) :
      Widens (.object (before ++ ("components", .array (front ++ c :: back)) :: after))
        (.object (before ++ ("components", .array (front ++ d :: back)) :: after))
  | listed {c d : Json} (name type : Json) (front back rest : List Json) (hinner : Widens c d) :
      Widens (.array (name :: type :: .array (front ++ c :: back) :: rest))
        (.array (name :: type :: .array (front ++ d :: back) :: rest))

/-- The second item has one key more, of no meaning, perhaps inside its inputs. -/
inductive WidensItem : Json → Json → Prop where
  | key {key : String} (before after : List (String × Json)) (v : Json)
      (hkey : key ∉ ["type", "name", "inputs"]) :
      WidensItem (.object (before ++ after)) (.object (before ++ (key, v) :: after))
  | input {c d : Json} (before after : List (String × Json)) (front back : List Json)
      (hinner : Widens c d) :
      WidensItem (.object (before ++ ("inputs", .array (front ++ c :: back)) :: after))
        (.object (before ++ ("inputs", .array (front ++ d :: back)) :: after))

/-- One item that is no event is put in, or one item gets one key more. -/
inductive Edit : List Json → List Json → Prop where
  | insert {v : Json} (front back : List Json) (hv : ¬ IsEvent v) :
      Edit (front ++ back) (front ++ v :: back)
  | widen {v w : Json} (front back : List Json) (hitem : WidensItem v w) :
      Edit (front ++ v :: back) (front ++ w :: back)

/-- The document is the list of the items, or an object with this list. -/
inductive Carries : Json → List Json → Prop where
  | list {items : List Json} : Carries (.array items) items
  | artifact {members : List (String × Json)} {items : List Json}
      (habi : Json.get? members "abi" = some (.array items)) : Carries (.object members) items

variable {v w document : Json} {items others : List Json}

/-! ## One edit -/

theorem readParamItems_congr (front back : List Json) (h : readParam v = readParam w) :
    readParamItems (front ++ v :: back) = readParamItems (front ++ w :: back) := by
  induction front with
  | nil => rw [List.nil_append, List.nil_append, readParamItems, readParamItems, h]
  | cons first rest ih =>
    rw [List.cons_append, List.cons_append, readParamItems, readParamItems, ih]

/-- A key is the last of its name, or its value does not count. -/
theorem readParams_get?_congr {key : String} {before after : List (String × Json)}
    (h : readParams v = readParams w) :
    readParams ((Json.get? (before ++ (key, v) :: after) key).getD (.array [])) =
      readParams ((Json.get? (before ++ (key, w) :: after) key).getD (.array [])) := by
  rw [Json.get?_middle, Json.get?_middle]
  cases Json.get? after key with
  | none => exact h
  | some found => rfl

theorem readTextField?_congr {members others : List (String × Json)} {key : String}
    (h : Json.get? members key = Json.get? others key) :
    readTextField? members key = readTextField? others key := by
  rw [readTextField?, readTextField?, h]

theorem readParam_object_congr {members others : List (String × Json)}
    (hcomponents : readParams ((Json.get? members "components").getD (.array [])) =
      readParams ((Json.get? others "components").getD (.array [])))
    (hname : Json.get? members "name" = Json.get? others "name")
    (htype : Json.get? members "type" = Json.get? others "type") :
    readParam (.object members) = readParam (.object others) := by
  rw [readParam_object, readParam_object, hcomponents, readTextField?_congr hname,
    readTextField?_congr htype]

theorem readParam_of_widens (h : Widens v w) : readParam v = readParam w := by
  induction h with
  | @key key before after v hkey =>
    simp only [List.mem_cons, List.not_mem_nil, or_false, not_or] at hkey
    obtain ⟨hname, htype, hcomponents⟩ := hkey
    have hsame : Json.get? (before ++ (key, v) :: after) "components" =
        Json.get? (before ++ after) "components" := Json.get?_insert hcomponents
    exact readParam_object_congr (by rw [hsame]) (Json.get?_insert hname).symm
      (Json.get?_insert htype).symm
  | @component c d before after front back _ ih =>
    have hinner : readParams (.array (front ++ c :: back)) =
        readParams (.array (front ++ d :: back)) := readParamItems_congr front back ih
    exact readParam_object_congr (readParams_get?_congr hinner) (Json.get?_congr (by decide))
      (Json.get?_congr (by decide))
  | @listed c d name type front back rest _ ih =>
    have hinner : readParams (.array (front ++ c :: back)) =
        readParams (.array (front ++ d :: back)) := readParamItems_congr front back ih
    rw [readParam, readParam, hinner]

/-- What is read of an item; nothing, if it is no event. -/
def readItem? (v : Json) : Option (Except Mismatch Event) := (eventMembers? v).map readEvent

theorem readItem?_congr {members others : List (String × Json)}
    (htype : Json.get? members "type" = Json.get? others "type")
    (hinputs : readParams ((Json.get? members "inputs").getD (.array [])) =
      readParams ((Json.get? others "inputs").getD (.array [])))
    (hname : Json.get? members "name" = Json.get? others "name") :
    readItem? (.object members) = readItem? (.object others) := by
  have hevent : readEvent members = readEvent others := by
    rw [readEvent_eq, readEvent_eq, hinputs, readTextField?_congr hname]
  rw [readItem?, readItem?, eventMembers?, eventMembers?, htype]
  split
  · split <;> simp [hevent]
  · rfl

theorem readItem?_of_widensItem (h : WidensItem v w) : readItem? v = readItem? w := by
  cases h with
  | @key key before after v hkey =>
    simp only [List.mem_cons, List.not_mem_nil, or_false, not_or] at hkey
    obtain ⟨htype, hname, hinputs⟩ := hkey
    have hsame : Json.get? (before ++ (key, v) :: after) "inputs" =
        Json.get? (before ++ after) "inputs" := Json.get?_insert hinputs
    exact readItem?_congr (Json.get?_insert htype).symm (by rw [hsame])
      (Json.get?_insert hname).symm
  | @input c d before after front back hinner =>
    have hinputs : readParams (.array (front ++ c :: back)) =
        readParams (.array (front ++ d :: back)) :=
      readParamItems_congr front back (readParam_of_widens hinner)
    exact readItem?_congr (Json.get?_congr (by decide)) (readParams_get?_congr hinputs)
      (Json.get?_congr (by decide))

theorem readItem?_of_not_isEvent (h : ¬ IsEvent v) : readItem? v = none := by
  rw [← isEvent_iff, Bool.not_eq_true, Option.isSome_eq_false_iff, Option.isNone_iff_eq_none] at h
  rw [readItem?, h, Option.map_none]

theorem eventsOf_items (items : List Json) : eventsOf (.array items) =
    (items.filterMap readItem?).mapM fun event => event.mapError .badEvent := by
  have hitems : items.filterMap readItem? = (items.filterMap eventMembers?).map readEvent := by
    rw [List.map_filterMap]
    rfl
  rw [eventsOf_array, hitems, List.mapM_map]
  rfl

/-- One edit leaves the result as it is. -/
theorem eventsOf_of_edit (h : Edit items others) :
    eventsOf (.array items) = eventsOf (.array others) := by
  rw [eventsOf_items, eventsOf_items]
  cases h with
  | insert front back hv =>
    rw [List.filterMap_append, List.filterMap_append,
      List.filterMap_cons_none (readItem?_of_not_isEvent hv)]
  | widen front back hitem =>
    rw [List.filterMap_append, List.filterMap_append, List.filterMap_cons, List.filterMap_cons,
      readItem?_of_widensItem hitem]

/-! ## Any number of edits -/

theorem eventsOf_of_edits (h : Relation.EqvGen Edit items others) :
    eventsOf (.array items) = eventsOf (.array others) := by
  induction h with
  | rel _ _ hedit => exact eventsOf_of_edit hedit
  | refl _ => rfl
  | symm _ _ _ ih => exact ih.symm
  | trans _ _ _ _ _ ihfirst ihsecond => exact ihfirst.trans ihsecond

theorem eventsOf_of_carries (h : Carries document items) :
    eventsOf document = eventsOf (.array items) := by
  cases h with
  | list => rfl
  | artifact habi => rw [eventsOf, itemsOf, habi, eventsOf, itemsOf]

/-- **The events of a document are those of its event items.** All documents with these items have
the same events or the same error, be it with other items between them, with other keys in them, or
with an object around them. There is one event for each event item, in order and with its
parameters, unless one of these items is malformed: then there are no events. -/
theorem settled_eventsOf (hedits : Relation.EqvGen Edit items others)
    (hcarries : Carries document others) :
    eventsOf document = eventsOf (.array items) ∧ Settles items (eventsOf document) ∧
    ∀ text, Json.readStrict? text = some document → Abi.read text = eventsOf document := by
  have hsame : eventsOf document = eventsOf (.array items) :=
    (eventsOf_of_carries hcarries).trans (eventsOf_of_edits hedits).symm
  refine ⟨hsame, hsame ▸ settles_eventsOf items, fun text htext => ?_⟩
  rw [Abi.read, htext]

/-- An event whose only input is a tuple. Each list of members is in front of the ones that count:
of the item, of the input and of its second component. -/
def fillItem (item input component : List (String × Json)) : Json :=
  .object (item ++ [("type", .text "event"), ("name", .text "Fill"), ("inputs", .array [
    .object (input ++ [("type", .text "tuple"), ("components", .array [
      .array [.text "a", .text "uint8"],
      .object (component ++ [("type", .text "bool")])])])])])

def anonymousMember : String × Json := ("anonymous", .bool false)

def internalTypeMember : String × Json := ("internalType", .text "struct Order")

def indexedMember : String × Json := ("indexed", .bool true)

def artifactItems : List Json :=
  [.number (.natural 3), fillItem [anonymousMember] [internalTypeMember] [indexedMember],
    .object [("type", .text "function"), ("name", .text "fill")]]

def artifact : Json :=
  .object [("contractName", .text "Shop"), ("abi", .array artifactItems), ("bytecode", .text "0x")]

theorem edits_artifactItems : Relation.EqvGen Edit [fillItem [] [] []] artifactItems := by
  have hitem : Edit [fillItem [] [] []] [fillItem [anonymousMember] [] []] :=
    .widen [] [] (.key [] _ _ (by decide))
  have hinput : Edit [fillItem [anonymousMember] [] []]
      [fillItem [anonymousMember] [internalTypeMember] []] :=
    .widen [] [] (.input [_, _, _] [] [] [] (.key [] _ _ (by decide)))
  have hcomponent : Edit [fillItem [anonymousMember] [internalTypeMember] []]
      [fillItem [anonymousMember] [internalTypeMember] [indexedMember]] :=
    .widen [] [] (.input [_, _, _] [] [] []
      (.component [_, _] [] [_] [] (.key [] _ _ (by decide))))
  have hbefore : Edit [fillItem [anonymousMember] [internalTypeMember] [indexedMember]]
      [.number (.natural 3), fillItem [anonymousMember] [internalTypeMember] [indexedMember]] :=
    .insert [] _ (by decide)
  have hbehind : Edit
      [.number (.natural 3), fillItem [anonymousMember] [internalTypeMember] [indexedMember]]
      artifactItems := .insert [_, _] [] (by decide)
  exact .trans _ _ _ (.rel _ _ hitem) (.trans _ _ _ (.rel _ _ hinput)
    (.trans _ _ _ (.rel _ _ hcomponent) (.trans _ _ _ (.rel _ _ hbefore) (.rel _ _ hbehind))))

/-- The artifact has the event of the bare item. -/
theorem settled_eventsOf_artifact : Relation.EqvGen Edit [fillItem [] [] []] artifactItems ∧
    Carries artifact artifactItems ∧ eventsOf artifact = eventsOf (.array [fillItem [] [] []]) ∧
    Settles [fillItem [] [] []] (eventsOf artifact) ∧
    (eventsOf artifact).toOption.map (List.map Event.signature) = some ["Fill((uint8,bool))"] := by
  have hcarries : Carries artifact artifactItems := .artifact rfl
  obtain ⟨hsame, hsettles, -⟩ := settled_eventsOf edits_artifactItems hcarries
  exact ⟨edits_artifactItems, hcarries, hsame, hsettles, by decide +kernel⟩

end IndexerTypes.Abi
