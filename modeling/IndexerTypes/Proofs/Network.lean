import IndexerTypes.Network
import IndexerTypes.Proofs.Distinct
import IndexerTypes.Proofs.Text.Word
import Mathlib.Data.List.Forall2

/-! # Networks and their environment

A network that leaves its endpoint to the environment refers to a variable, and no two chains
have one variable (`rpcUrlVariable_inj`). So the environment of such networks, with one line for
each chain, has one line for each variable that they refer to (`describes_environment`). -/

namespace IndexerTypes.Network

variable {n m : Network} {networks : List Network} {name v : String} {number : UInt64}

/-- The table has one chain for each of its names. -/
theorem chainId?_eq_some : chainId? name = some number ↔ (name, number) ∈ chainIds := by
  have hnames : (chainIds.map Prod.fst).Nodup := by decide
  rw [chainId?, List.lookup_eq_some_iff]
  constructor
  · rintro ⟨before, after, he, -⟩
    simp [he]
  · intro hmem
    obtain ⟨before, after, he⟩ := List.append_of_mem hmem
    refine ⟨before, after, he, fun entry hentry => ?_⟩
    have hother := Distinct.key_ne_of_nodup (he ▸ hnames) entry (List.mem_append_left _ hentry)
    simpa using Ne.symm hother

theorem rpcUrlVariable_inj {a b : UInt64} : rpcUrlVariable a = rpcUrlVariable b ↔ a = b := by
  rw [rpcUrlVariable, rpcUrlVariable, Text.numbered_inj, UInt64.toNat_inj]

/-! ## References -/

/-- The endpoint of the network is the value of this variable. -/
def RefersTo (n : Network) (v : String) : Prop := n.rpcUrl = "$\x7b" ++ v ++ "\x7d"

/-- The endpoint of the network comes from the environment. -/
def IsOpen (n : Network) : Prop := n.rpcUrl = rpcUrlPlaceholder n.chainId

theorem refersTo_iff (h : n.IsOpen) : n.RefersTo v ↔ rpcUrlVariable n.chainId = v := by
  rw [RefersTo, h, rpcUrlPlaceholder, String.append_left_inj, String.append_right_inj]

/-! ## Environments -/

/-- The entry of a variable that has no value yet. -/
def entryOf (v : String) : String := v ++ "=\"\""

/-- The text has one entry on a line for each variable that the networks refer to, in their order,
and nothing else. Just the networks of one chain refer to the same variable. -/
structure Describes (text : String) (networks : List Network) (names : List String) : Prop where
  referred : List.Forall₂ RefersTo networks names
  content : text = String.join ((names.eraseDups.map entryOf).map (· ++ "\n"))
  lines : text.toList.splitOn '\n' = (names.eraseDups.map entryOf).map String.toList ++ [[]]
  distinct : names.eraseDups.Nodup
  shared : ∀ n ∈ networks, ∀ v, n.RefersTo v → ∀ m ∈ networks,
    m.RefersTo v ↔ m.chainId = n.chainId

theorem newline_not_mem_entryOf (number : UInt64) :
    '\n' ∉ (entryOf (rpcUrlVariable number)).toList := by
  have hdigits := Text.not_mem_toString (c := '\n') (by decide) number.toNat
  simp only [entryOf, rpcUrlVariable, String.toList_append, List.mem_append, not_or]
  exact ⟨⟨by decide, hdigits⟩, by decide⟩

/-- The variables of the networks, in their order. -/
def variablesOf (networks : List Network) : List String :=
  networks.map fun n => rpcUrlVariable n.chainId

/-- Different chains have different variables, so it is all one which of them are not repeated. -/
theorem eraseDups_variablesOf (networks : List Network) :
    (variablesOf networks).eraseDups =
      (Distinct.firsts id (networks.map chainId)).map rpcUrlVariable := by
  have hinjective : Function.Injective rpcUrlVariable := fun _ _ => rpcUrlVariable_inj.mp
  rw [← Distinct.firsts_of_injective hinjective, Distinct.map_firsts, List.map_map,
    ← Distinct.firsts_eq_eraseDups]
  rfl

theorem environment_eq (networks : List Network) : environment networks =
    String.join (((variablesOf networks).eraseDups.map entryOf).map (· ++ "\n")) := by
  rw [eraseDups_variablesOf, List.map_map, List.map_map, environment]
  congr 1
  refine List.map_congr_left fun number _ => ?_
  simp [environmentLine, entryOf, String.append_assoc]

theorem describes_environment (h : ∀ n ∈ networks, n.IsOpen) :
    Describes (environment networks) networks (variablesOf networks) := by
  constructor
  case referred =>
    rw [variablesOf, List.forall₂_map_right_iff, List.forall₂_same]
    exact fun n hn => (refersTo_iff (h n hn)).mpr rfl
  case content => exact environment_eq networks
  case lines =>
    rw [environment_eq]
    refine Text.splitOn_lines ?_
    rw [eraseDups_variablesOf, List.map_map, List.forall_mem_map]
    exact fun number _ => newline_not_mem_entryOf number
  case distinct =>
    rw [← Distinct.firsts_eq_eraseDups]
    simpa using Distinct.nodup_firsts id (variablesOf networks)
  case shared =>
    intro n hn v hv m hm
    rw [refersTo_iff (h n hn)] at hv
    rw [refersTo_iff (h m hm), ← hv, rpcUrlVariable_inj]

end IndexerTypes.Network
