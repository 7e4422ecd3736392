import IndexerTypes.Proofs.Network

/-! # Networks collected one by one

A set of networks answers for each network whether it is new. What has been collected are the first
networks of each name, in order. If networks of one name are on one chain, those that are left out
bring no chain of their own, so the environment is the one of all networks (`collected`). -/

namespace IndexerTypes.NetworkSet

open IndexerTypes.Network (environment entryOf rpcUrlVariable)

variable {s : NetworkSet} {n : Network} {given : List Network}

/-- The set of the networks that are added one after the other. -/
def collect (given : List Network) : NetworkSet := given.foldl (fun s n => (s.add n).1) empty

/-- Networks of one name are on one chain. -/
def NamesChains (given : List Network) : Prop :=
  ∀ n ∈ given, ∀ m ∈ given, n.name = m.name → n.chainId = m.chainId

instance (given : List Network) : Decidable (NamesChains given) :=
  inferInstanceAs (Decidable (∀ n ∈ given, ∀ m ∈ given, _))

/-- A line for each chain of the networks, in the order in which the chains are first used. -/
def chainLines (given : List Network) : List String :=
  (given.map Network.chainId).eraseDups.map fun number => entryOf (rpcUrlVariable number)

/-- The text has one line for each chain of the networks, and no other ones. -/
structure ListsChains (text : String) (given : List Network) : Prop where
  lines : text.toList.splitOn '\n' = (chainLines given).map String.toList ++ [[]]
  distinct : (chainLines given).Nodup

/-- What the set has to do with the networks that were added to it. -/
structure Collected (given : List Network) (s : NetworkSet) : Prop where
  /-- The next network is new just if none of the given ones has its name. -/
  added : ∀ n, (s.add n).2 = true ↔ ∀ m ∈ given, m.name ≠ n.name
  networks : s.networks = ((Distinct.withEarlier [] given).filter fun p =>
    ¬ Distinct.Repeats Network.name p).map Prod.snd
  names : (s.networks.map Network.name).Nodup
  chains : NamesChains given → environment s.networks = environment given
  lines : ListsChains (environment given) given

/-! ## The networks of the set -/

theorem networks_foldl (s : NetworkSet) (given : List Network) :
    (given.foldl (fun s n => (s.add n).1) s).networks =
      given.foldl (Distinct.insertNew Network.name) s.networks := by
  induction given generalizing s with
  | nil => rfl
  | cons n rest ih => exact ih (s.add n).1

theorem networks_collect (given : List Network) :
    (collect given).networks = Distinct.firsts Network.name given :=
  networks_foldl empty given

theorem add_snd : (s.add n).2 = true ↔ n.name ∉ s.networks.map Network.name := by
  rw [← Distinct.hasKey_iff, add, contains, Bool.not_eq_true']
  simp

theorem added_collect :
    ((collect given).add n).2 = true ↔ ∀ m ∈ given, m.name ≠ n.name := by
  rw [add_snd, networks_collect, Distinct.mem_map_firsts]
  simp

/-! ## The chains of the set -/

theorem environment_collect (h : NamesChains given) :
    environment (collect given).networks = environment given := by
  rw [environment, environment, networks_collect, Distinct.firsts_map_firsts h]

theorem entries_variablesOf (given : List Network) :
    (Network.variablesOf given).eraseDups.map entryOf = chainLines given := by
  rw [Network.eraseDups_variablesOf, Distinct.firsts_eq_eraseDups, List.map_map]
  rfl

theorem listsChains_environment (given : List Network) :
    ListsChains (environment given) given := by
  constructor
  case lines =>
    rw [Network.environment_eq, entries_variablesOf]
    refine Text.splitOn_lines (List.forall_mem_map.mpr ?_)
    exact fun number _ => Network.newline_not_mem_entryOf number
  case distinct =>
    have hchains := Distinct.nodup_firsts id (given.map Network.chainId)
    rw [List.map_id, Distinct.firsts_eq_eraseDups] at hchains
    refine hchains.map fun a b he => ?_
    exact Network.rpcUrlVariable_inj.mp ((String.append_left_inj _).mp he)

/-- **A set holds the first network of each name, and with it each chain.** The answer to a network
tells whether its name is new. The networks that are left out have no line of their own in the
environment, as long as a name stands for one chain. -/
theorem collected (given : List Network) : Collected given (collect given) := by
  constructor
  case added => exact fun n => added_collect
  case networks => rw [networks_collect, Distinct.firsts_eq]
  case names => exact (collect given).distinct
  case chains => exact environment_collect
  case lines => exact listsChains_environment given

/-- Two names of one chain, and one of them twice. -/
def sharedChain : List Network :=
  [.ofChain "xdai" 100, .ofChain "mainnet" 1, .ofChain "gnosis" 100, .ofChain "xdai" 100]

theorem collected_sharedChain : NamesChains sharedChain ∧
    Collected sharedChain (collect sharedChain) ∧
    (collect sharedChain).networks.map Network.name = ["xdai", "mainnet", "gnosis"] ∧
    environment (collect sharedChain).networks = environment sharedChain ∧
    environment sharedChain = "PONDER_RPC_URL_100=\"\"\nPONDER_RPC_URL_1=\"\"\n" := by
  have hnames : NamesChains sharedChain := by decide
  have h := collected sharedChain
  exact ⟨hnames, h, by decide, h.chains hnames, by decide⟩

/-- Else the chain of a network that is left out may be missing. -/
example : environment (collect [.ofChain "main" 1, .ofChain "main" 5]).networks =
    "PONDER_RPC_URL_1=\"\"\n" := by decide

end IndexerTypes.NetworkSet
