import IndexerTypes.Abi.Reader
import IndexerTypes.Config.Reader
import IndexerTypes.Proofs.Config.Check
import IndexerTypes.Proofs.Json.Members
import IndexerTypes.Proofs.Pointwise

/-! # Configurations with their sources in another order

Two documents may differ in nothing but the order of the sources (`Reorders`). If one of them
is a configuration, so is the other, with the same networks and with its sources in that order
(`read_of_reorders`): a source is checked against those before it, but what is in order does
not depend on the order (`Admissible.perm`).

Nothing keeps a source from naming the configuration as its ABI file. Read as an ABI, both
documents have the same events, since the items of a list of sources are none
(`Abi.read_of_reorders`). -/

namespace IndexerTypes

/-! ## Documents -/

namespace Json

variable {v w : Json} {items others : List Json} {before after : List (String × Json)}
  {key : String} {n : Nat}

theorem areReadable_iff : areReadable items = true ↔ ∀ v ∈ items, v.isReadable = true := by
  induction items with
  | nil => simp [areReadable]
  | cons v rest ih => simp [areReadable, ih]

theorem depthOfItems_le : depthOfItems items ≤ n ↔ ∀ v ∈ items, v.depth ≤ n := by
  induction items with
  | nil => simp [depthOfItems]
  | cons v rest ih => rw [depthOfItems, Nat.max_le, ih, List.forall_mem_cons]

theorem isReadable_of_perm (h : items.Perm others) :
    (array others).isReadable = (array items).isReadable := by
  rw [isReadable, isReadable, Bool.eq_iff_iff, areReadable_iff, areReadable_iff]
  simp only [h.mem_iff]

theorem depth_of_perm (h : items.Perm others) : (array others).depth = (array items).depth := by
  have hle (a b : List Json) (hab : a.Perm b) : depthOfItems a ≤ depthOfItems b :=
    depthOfItems_le.mpr fun v hv => depthOfItems_le.mp (Nat.le_refl _) v (hab.mem_iff.mp hv)
  rw [depth, depth, Nat.le_antisymm (hle _ _ h.symm) (hle _ _ h)]

theorem haveReadableValues_congr (h : v.isReadable = w.isReadable) :
    haveReadableValues (before ++ (key, v) :: after) =
      haveReadableValues (before ++ (key, w) :: after) := by
  induction before with
  | nil => simp [haveReadableValues, h]
  | cons m rest ih => simp [haveReadableValues, ih]

theorem depthOfMembers_congr (h : v.depth = w.depth) :
    depthOfMembers (before ++ (key, v) :: after) =
      depthOfMembers (before ++ (key, w) :: after) := by
  induction before with
  | nil => simp [depthOfMembers, h]
  | cons m rest ih => simp [depthOfMembers, ih]

end Json

namespace Config

variable {d e : Json} {c c' : Config}

/-- The second document has the sources of the first in another order, and else it is the
same. -/
inductive Reorders : Json → Json → Prop
  | object {before after : List (String × Json)} {items others : List Json} :
      items.Perm others →
      Reorders (.object (before ++ ("sources", .array items) :: after))
        (.object (before ++ ("sources", .array others) :: after))
  | list {networks : Json} {items others : List Json} : items.Perm others →
      Reorders (.array [networks, .array items]) (.array [networks, .array others])

theorem Reorders.symm (h : Reorders d e) : Reorders e d := by
  cases h with
  | object hp => exact .object hp.symm
  | list hp => exact .list hp.symm

theorem Reorders.isReadable_eq (h : Reorders d e) : d.isReadable = e.isReadable := by
  cases h with
  | object hp =>
    rw [Json.isReadable, Json.isReadable,
      Json.haveReadableValues_congr (Json.isReadable_of_perm hp.symm)]
  | @list networks items others hp =>
    show (networks.isReadable && ((Json.array items).isReadable && true)) =
      (networks.isReadable && ((Json.array others).isReadable && true))
    rw [Json.isReadable_of_perm hp]

theorem Reorders.depth_eq (h : Reorders d e) : d.depth = e.depth := by
  cases h with
  | object hp =>
    rw [Json.depth, Json.depth, Json.depthOfMembers_congr (Json.depth_of_perm hp.symm)]
  | @list networks items others hp =>
    show max networks.depth (max (Json.array items).depth 0) + 1 =
      max networks.depth (max (Json.array others).depth 0) + 1
    rw [Json.depth_of_perm hp]

/-! ## Reading a configuration -/

section

variable {before after : List (String × Json)} {key other : String} {v w : Json}

theorem single?_congr (hne : key ≠ other) :
    single? (before ++ (key, v) :: after) other = single? (before ++ (key, w) :: after) other := by
  simp [single?, List.filter_append, hne]

/-- A key is read if it stands at no other place, whatever its value is. -/
theorem single?_eq_or (before after : List (String × Json)) (key : String) :
    (∀ v, single? (before ++ (key, v) :: after) key = some (some v)) ∨
      ∀ v, single? (before ++ (key, v) :: after) key = none := by
  have hfilter (v : Json) : (before ++ (key, v) :: after).filter (fun m => m.1 = key) =
      before.filter (fun m => m.1 = key) ++ (key, v) :: after.filter fun m => m.1 = key := by
    simp [List.filter_append]
  simp only [single?, hfilter]
  generalize before.filter (fun m => m.1 = key) = b
  generalize after.filter (fun m => m.1 = key) = a
  match b, a with
  | [], [] => exact .inl fun v => rfl
  | [], _ :: _ => exact .inr fun v => rfl
  | [_], _ => exact .inr fun v => rfl
  | _ :: _ :: _, _ => exact .inr fun v => rfl

end

theorem readList?_of_perm {α : Type} {item? : Json → Option α} {items others : List Json}
    {l : List α} (hp : items.Perm others) (h : readList? item? (.array items) = some l) :
    ∃ l', readList? item? (.array others) = some l' ∧ l.Perm l' := by
  obtain ⟨l', hl, hp⟩ := Pointwise.exists_perm (Pointwise.of_mapM_eq_some h) hp
  exact ⟨l', Pointwise.mapM_eq_some hl, hp⟩

theorem ofDocument?_of_reorders (h : Reorders d e) (hc : ofDocument? d = some c) :
    ∃ c', ofDocument? e = some c' ∧ c'.networks = c.networks ∧ c.sources.Perm c'.sources := by
  cases h with
  | @object before after items others hp =>
    have hn : single? (before ++ ("sources", .array items) :: after) "networks" =
        single? (before ++ ("sources", .array others) :: after) "networks" :=
      single?_congr (by decide)
    rcases single?_eq_or before after "sources" with hs | hs
    · simp only [ofDocument?, ofMembers?, hs, hn, Option.bind_eq_bind, Option.bind_some,
        Option.bind_eq_some_iff, readOr?] at hc ⊢
      obtain ⟨value, hvalue, networks, hnetworks, sources, hsources, hc⟩ := hc
      obtain rfl := Option.some.inj hc
      obtain ⟨sources', hsources', hp⟩ := readList?_of_perm hp hsources
      exact ⟨⟨networks, sources'⟩,
        ⟨value, hvalue, networks, hnetworks, sources', hsources', rfl⟩, rfl, hp⟩
    · simp [ofDocument?, ofMembers?, hs] at hc
  | @list networks items others hp =>
    simp only [ofDocument?, Option.bind_eq_bind, Option.bind_eq_some_iff] at hc ⊢
    obtain ⟨networks, hnetworks, sources, hsources, hc⟩ := hc
    obtain rfl := Option.some.inj hc
    obtain ⟨sources', hsources', hp⟩ := readList?_of_perm hp hsources
    exact ⟨⟨networks, sources'⟩, ⟨networks, hnetworks, sources', hsources', rfl⟩, rfl, hp⟩

/-- What is in order does not depend on the order. -/
theorem Admissible.perm (h : c.Admissible) (hn : c'.networks = c.networks)
    (hp : c.sources.Perm c'.sources) : c'.Admissible := by
  constructor
  case identifiers => exact fun s hs => h.identifiers s (hp.mem_iff.mpr hs)
  case distinct => exact (hp.map _).nodup_iff.mp h.distinct
  case declared =>
    rw [hn]
    exact fun hne s hs => h.declared hne s (hp.mem_iff.mpr hs)

theorem read_eq_ok {text : String} :
    read text = .ok c ↔ (Json.read? text).bind ofDocument? = some c ∧ c.Admissible := by
  rw [← check_eq_ok]
  unfold read
  split
  · rename_i hn
    simp [hn]
  · rename_i found hf
    rw [hf, Option.some.injEq]
    split
    · rename_i flaw hflaw
      constructor
      · exact nofun
      · rintro ⟨rfl, hok⟩
        rw [hflaw] at hok
        cases hok
    · rename_i hok
      constructor
      · intro h
        obtain rfl := Except.ok.inj h
        exact ⟨rfl, hok⟩
      · rintro ⟨rfl, -⟩
        rfl

/-- **The order of the sources does not decide whether a configuration is read.** -/
theorem read_of_reorders {text other : String} (hd : Json.read? text = some d)
    (he : Json.read? other = some e) (h : Reorders d e) (hc : read text = .ok c) :
    ∃ c', read other = .ok c' ∧ c'.networks = c.networks ∧ c.sources.Perm c'.sources := by
  obtain ⟨hdoc, ha⟩ := read_eq_ok.mp hc
  rw [hd, Option.bind_some] at hdoc
  obtain ⟨c', hdoc', hn, hp⟩ := ofDocument?_of_reorders h hdoc
  refine ⟨c', read_eq_ok.mpr ⟨?_, ha.perm hn hp⟩, hn, hp⟩
  rw [he, Option.bind_some, hdoc']

end Config

/-! ## Reading an ABI -/

namespace Abi

variable {d e : Json}

/-- A list of lists has no events. -/
theorem eventsOf_of_reorders (h : Config.Reorders d e) : eventsOf d = eventsOf e := by
  cases h with
  | object hp =>
    have hget : "sources" ≠ "abi" := by decide
    rw [eventsOf, eventsOf, itemsOf, itemsOf, Json.get?_congr hget]
  | list hp => rfl

theorem read_of_reorders {text other : String} (hd : Json.read? text = some d)
    (he : Json.read? other = some e) (h : Config.Reorders d e) : read text = read other := by
  unfold read Json.readStrict?
  rw [hd, he, Option.filter_some, Option.filter_some, h.isReadable_eq, h.depth_eq]
  split
  · rename_i hn
    split at hn
    · cases hn
    · rename_i hno
      simp [hno]
  · rename_i doc hs
    split at hs
    · rename_i hyes
      obtain rfl := Option.some.inj hs
      simp [hyes, eventsOf_of_reorders h]
    · cases hs

end Abi

end IndexerTypes
