import IndexerTypes.Proofs.Import.Rejection
import IndexerTypes.Proofs.Network

/-! # The networks of an import

A data source is on the network that it names, or else on the default one. Each network is taken
up when the first data source is on it (`takesUp_planSources`), with its chain from the table, and
the environment has a line for each variable that the networks refer to (`covered_plan`). -/

namespace IndexerTypes.Import

variable {i : Import} {t : FileTree} {p : Plan} {dataSources done : List DataSource}
  {d : DataSource}

/-- The networks are those that the data sources are on, each taken up once, in the order of their
first use, with its chain from the table. -/
structure TakesUp (i : Import) (done : List DataSource) (networks : List Network) : Prop where
  names : networks.map Network.name = Distinct.firsts id (done.map i.networkOf)
  known : ∀ n ∈ networks, ∃ chainId, Network.chainId? n.name = some chainId ∧
    n = Network.ofChain n.name chainId

theorem takesUp_start : TakesUp i [] Progress.start.networks.networks :=
  ⟨rfl, by simp [Progress.start, NetworkSet.empty]⟩

/-- Neither the ABI file nor the source has a part in it. -/
theorem networks_planSource {g g' : Progress} (h : i.planSource t d g = (g', none)) :
    ∃ chainId, Network.chainId? (i.networkOf d) = some chainId ∧
      g'.networks = g.networks.insert (Network.ofChain (i.networkOf d) chainId) := by
  obtain ⟨chainId, path, name, added, hchain, -, ha, rfl⟩ := planSource_eq_none h
  refine ⟨chainId, hchain, ?_⟩
  rcases addAbi_eq_ok ha with ⟨rfl, -⟩ | ⟨rfl, -⟩
  · rfl
  · rfl

theorem takesUp_planSource {g g' : Progress} (hg : TakesUp i done g.networks.networks)
    (h : i.planSource t d g = (g', none)) : TakesUp i (done ++ [d]) g'.networks.networks := by
  obtain ⟨chainId, hchain, hnetworks⟩ := networks_planSource h
  rw [hnetworks]
  constructor
  case names =>
    rw [NetworkSet.insert, Distinct.map_insertNew, hg.names, List.map_append, List.map_singleton,
      Distinct.firsts_concat]
    rfl
  case known =>
    intro n hn
    rcases Distinct.mem_of_mem_insertNew hn with hn | rfl
    · exact hg.known n hn
    · exact ⟨chainId, hchain, rfl⟩

theorem takesUp_planSources {g : Progress}
    (h : i.planSources t .start dataSources = (g, none)) :
    TakesUp i dataSources g.networks.networks :=
  planSources_induction (P := fun done g => TakesUp i done g.networks.networks)
    takesUp_planSource takesUp_start h

/-! ## The networks of a configuration -/

/-- Each source is on the network of its data source, and the networks are those of the sources,
each once, in the order of their first use, with the chain of its name and a reference to the
endpoint of this chain. -/
structure CoversNetworks (i : Import) (dataSources : List DataSource) (c : Config) : Prop where
  used : c.sources.map Source.network = dataSources.map fun d => d.network.getD i.defaultNetwork
  names : c.networks.map Network.name = (c.sources.map Source.network).eraseDups
  distinct : (c.networks.map Network.name).Nodup
  complete : ∀ name, (∃ n ∈ c.networks, n.name = name) ↔ ∃ s ∈ c.sources, s.network = name
  chains : ∀ n ∈ c.networks, ∀ chainId,
    (n.name, chainId) ∈ Network.chainIds ↔ chainId = n.chainId
  endpoints : ∀ n ∈ c.networks,
    n.rpcUrl = "$\x7bPONDER_RPC_URL_" ++ toString n.chainId.toNat ++ "\x7d"

theorem TakesUp.isOpen {networks : List Network} (h : TakesUp i done networks) :
    ∀ n ∈ networks, n.IsOpen := by
  intro n hn
  obtain ⟨chainId, -, he⟩ := h.known n hn
  rw [he]
  rfl

theorem networks_of_bound {abis : List AbiCopy} {sources : List Source}
    (h : List.Forall₂ (Bound i abis) dataSources sources) :
    sources.map Source.network = dataSources.map i.networkOf := by
  refine (Pointwise.map_eq h fun d s hb => ?_).symm
  obtain ⟨a, -, file, -, -, rfl⟩ := hb
  rfl

theorem coversNetworks_of_takesUp {c : Config} (h : TakesUp i dataSources c.networks)
    (hs : c.sources.map Source.network = dataSources.map i.networkOf) :
    CoversNetworks i dataSources c := by
  have hnames : c.networks.map Network.name = Distinct.firsts id (c.sources.map Source.network) :=
    hs ▸ h.names
  constructor
  case used => exact hs
  case names => rw [hnames, Distinct.firsts_eq_eraseDups]
  case distinct =>
    rw [hnames]
    simpa using Distinct.nodup_firsts id (c.sources.map Source.network)
  case complete =>
    intro name
    have hmem : name ∈ (Distinct.firsts id (c.sources.map Source.network)).map id ↔
        name ∈ (c.sources.map Source.network).map id := Distinct.mem_map_firsts
    rw [List.map_id, List.map_id, ← hnames] at hmem
    simpa using hmem
  case chains =>
    intro n hn chainId
    obtain ⟨own, hown, he⟩ := h.known n hn
    have hchain : n.chainId = own := by
      rw [he]
      rfl
    rw [← Network.chainId?_eq_some, hown, Option.some.injEq, hchain, eq_comm]
  case endpoints =>
    intro n hn
    exact (h.isOpen n hn).trans (by
      rw [Network.rpcUrlPlaceholder, Network.rpcUrlVariable, ← String.append_assoc]
      rfl)

theorem environmentPath_of_plan (hp : (i.plan t).result = .ok p) :
    p.environmentPath = i.root.join ⟨".env.local"⟩ := by
  obtain ⟨dataSources, h⟩ := isPlanOf_plan hp
  rw [Plan.environmentPath, h.root]
  rfl

/-- **Networks are complete and unique, and the environment has their endpoints.** The networks of
a plan are those that its sources are on, each once, in the order of their first use. Where the
plan is carried out, the environment file has a line for each variable that the networks refer to,
in the order of the networks: one for each chain, and nothing else. -/
theorem covered_plan (hp : (i.plan t).result = .ok p) :
    ∃ m dataSources, i.Reads t m ∧ m.sources = .ok dataSources ∧
      CoversNetworks i dataSources p.config ∧
      ∃ text names, Network.Describes text p.config.networks names ∧
        ∀ u o, (p.apply u).result = .ok o →
          (p.apply u).tree.readBytes (i.root.join ⟨".env.local"⟩) = .ok text.toUTF8 := by
  obtain ⟨path, content, g, hpath, hcontent, hplanned, he⟩ := progress_of_plan hp
  obtain ⟨m, hm, -, hd⟩ := readContent_eq_ok hcontent
  have ht : TakesUp i content.dataSources p.config.networks := he ▸ takesUp_planSources hplanned
  have hs : p.config.sources.map Source.network = content.dataSources.map i.networkOf :=
    he ▸ networks_of_bound (gathered_planSources hplanned).sources
  refine ⟨m, content.dataSources, ⟨path, hpath, hm⟩, hd, coversNetworks_of_takesUp ht hs,
    Network.environment p.config.networks, _, Network.describes_environment ht.isOpen, ?_⟩
  intro u o hu
  rw [← environmentPath_of_plan hp]
  exact Plan.environment_holds (Plan.apply_eq_ok.mp hu).1

/-- Two data sources, of which the second names no network. -/
def sharedTree : FileTree where
  workingDirectory := []
  entries := [
    (["m"], .file (
      "schema:\n  file: s\ndataSources:\n" ++
      "- name: A\n  network: xdai\n  source: &s\n    address: x\n    abi: T\n" ++
      "  mapping: &m\n    abis:\n    - name: T\n      file: T\n" ++
      "- name: B\n  source: *s\n  mapping: *m\n").toUTF8),
    (["s"], .file "type A".toUTF8),
    (["T"], .file "[]".toUTF8)]

/-- The default network has the chain of the other one. -/
def sharedSample : Import := { sample with defaultNetwork := "gnosis" }

/-- The names of the networks of a plan that can be carried out, and the environment of it. -/
def networksIn? (t : FileTree) : Except Fault Plan → Option (List String × String)
  | .error _ => none
  | .ok p =>
    if (p.apply t).result.isOk then
      some (p.config.networks.map Network.name, Network.environment p.config.networks)
    else none

/-- The two networks have one line. -/
theorem covered_plan_shared : ∃ p m dataSources names,
    (sharedSample.plan sharedTree).result = .ok p ∧ sharedSample.Reads sharedTree m ∧
    m.sources = .ok dataSources ∧ CoversNetworks sharedSample dataSources p.config ∧
    p.config.networks.map Network.name = ["xdai", "gnosis"] ∧
    Network.Describes "PONDER_RPC_URL_100=\"\"\n" p.config.networks names := by
  have hs : networksIn? sharedTree (sharedSample.plan sharedTree).result =
      some (["xdai", "gnosis"], "PONDER_RPC_URL_100=\"\"\n") := by decide +kernel
  cases hp : (sharedSample.plan sharedTree).result with
  | error fault =>
    rw [hp] at hs
    cases hs
  | ok p =>
    rw [hp, networksIn?] at hs
    split at hs
    · rename_i hok
      obtain ⟨o, ho⟩ := exists_of_isOk hok
      obtain ⟨hnames, htext⟩ := Prod.mk.inj (Option.some.inj hs)
      obtain ⟨m, dataSources, hm, hd, hcovers, text, names, hdescribes, hfile⟩ := covered_plan hp
      have hholds := Plan.environment_holds (Plan.apply_eq_ok.mp ho).1
      rw [environmentPath_of_plan hp, hfile sharedTree o ho, Except.ok.injEq] at hholds
      rw [String.toByteArray_inj.mp hholds, htext] at hdescribes
      exact ⟨p, m, dataSources, names, rfl, hm, hd, hcovers, hnames, hdescribes⟩
    · cases hs

end IndexerTypes.Import
