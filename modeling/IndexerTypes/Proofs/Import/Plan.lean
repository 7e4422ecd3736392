import IndexerTypes.Import
import IndexerTypes.Proofs.Config.Check
import IndexerTypes.Proofs.Except
import IndexerTypes.Proofs.Manifest

/-! # What a plan is made of

Planning takes up the data sources of a manifest one by one. What it has gathered so far
belongs to the data sources so far (`Gathered`): each source is bound to its own ABI file,
each ABI file has a name that no other one has, and each network is taken up. One data source
keeps this (`gathered_planSource`), and so a whole plan has it (`isPlanOf_plan`). -/

namespace IndexerTypes.Import

variable {i : Import} {t : FileTree}

/-- The source stands for the data source, and its ABI for the file that this one names. -/
def Bound (i : Import) (abis : List AbiCopy) (d : DataSource) (s : Source) : Prop :=
  ∃ a ∈ abis, ∃ file, d.abiFile? = some file ∧ Path.Same a.source (i.directory.join ⟨file⟩) ∧
    s = ⟨.evm, d.name, i.networkOf d, "./" ++ abisDirectory ++ "/" ++ a.name, d.address,
      d.startBlock⟩

/-- The file is there, and it is copied under its own name. -/
def AbiCopy.IsThere (t : FileTree) (a : AbiCopy) : Prop :=
  t.isFile a.source = true ∧ a.source.fileName? = some a.name

structure Gathered (i : Import) (t : FileTree) (done : List DataSource) (g : Progress) : Prop where
  sources : List.Forall₂ (Bound i g.abis) done g.sources
  stubs : g.stubs = done.map fun d => Stub.file d.name d.eventNames
  names : (g.abis.map AbiCopy.name).Nodup
  abis : ∀ a ∈ g.abis, a.IsThere t
  networks : ∀ s ∈ g.sources, s.network ∈ g.networks.networks.map Network.name

theorem gathered_start : Gathered i t [] .start :=
  ⟨.nil, rfl, by simp [Progress.start], by simp [Progress.start], by simp [Progress.start]⟩

theorem Bound.mono {abis more : List AbiCopy} {d : DataSource} {s : Source}
    (hm : ∀ a ∈ abis, a ∈ more) (h : Bound i abis d s) : Bound i more d s := by
  obtain ⟨a, ha, rest⟩ := h
  exact ⟨a, hm a ha, rest⟩

theorem Bound.name_eq {abis : List AbiCopy} {d : DataSource} {s : Source}
    (h : Bound i abis d s) : s.name = d.name := by
  obtain ⟨a, -, file, -, -, rfl⟩ := h
  rfl

/-! ## One data source -/

theorem findAbi_eq_ok {d : DataSource} {path : Path} {name : String}
    (h : i.findAbi t d = .ok (path, name)) :
    ∃ file, d.abiFile? = some file ∧ path = i.directory.join ⟨file⟩ ∧
      AbiCopy.IsThere t ⟨path, name⟩ := by
  unfold findAbi at h
  split at h
  · cases h
  · rename_i file hfile
    dsimp only at h
    split at h
    · rename_i hf
      split at h
      · rename_i found hn
        obtain ⟨rfl, rfl⟩ := Prod.mk.inj (Except.ok.inj h)
        exact ⟨file, hfile, rfl, hf, hn⟩
      · cases h
    · cases h

/-- An ABI file is taken up as a new one, or it is one that has been taken up. -/
theorem addAbi_eq_ok {g g' : Progress} {path : Path} {name : String}
    (h : g.addAbi path name = .ok g') :
    (g' = { g with abis := g.abis ++ [⟨path, name⟩] } ∧ ∀ a ∈ g.abis, a.name ≠ name) ∨
      (g' = g ∧ ∃ a ∈ g.abis, a.name = name ∧ Path.Same a.source path) := by
  unfold Progress.addAbi at h
  split at h
  · rename_i hnone
    obtain rfl := Except.ok.inj h
    exact .inl ⟨rfl, by simpa using hnone⟩
  · rename_i other hsome
    split at h
    · rename_i hsame
      obtain rfl := Except.ok.inj h
      have hname := List.find?_some hsome
      exact .inr ⟨rfl, other, List.mem_of_find?_eq_some hsome, of_decide_eq_true hname, hsame⟩
    · cases h

theorem planSource_eq_none {d : DataSource} {g g' : Progress}
    (h : i.planSource t d g = (g', none)) :
    ∃ chainId path name added, Network.chainId? (i.networkOf d) = some chainId ∧
      i.findAbi t d = .ok (path, name) ∧
      (g.addNetwork (i.networkOf d) chainId).addAbi path name = .ok added ∧
      g' = added.addSource d (i.networkOf d) name := by
  unfold planSource at h
  split at h
  · simp at h
  · rename_i chainId hchain
    dsimp only at h
    split at h
    · simp at h
    · rename_i made hmade
      obtain rfl := (Prod.mk.inj h).1
      unfold planContract at hmade
      obtain ⟨⟨path, name⟩, hf, hrest⟩ := bind_eq_ok.mp hmade
      obtain ⟨added, ha, he⟩ := bind_eq_ok.mp hrest
      exact ⟨chainId, path, name, added, hchain, hf, ha, (Except.ok.inj he).symm⟩

theorem mem_networks_addNetwork {g : Progress} {name other : String} {chainId : UInt64} :
    other ∈ (g.addNetwork name chainId).networks.networks.map Network.name ↔
      other ∈ g.networks.networks.map Network.name ∨ other = name :=
  Distinct.mem_map_insertNew

theorem gathered_planSource {done : List DataSource} {d : DataSource} {g g' : Progress}
    (hg : Gathered i t done g) (h : i.planSource t d g = (g', none)) :
    Gathered i t (done ++ [d]) g' := by
  obtain ⟨chainId, path, name, added, -, hf, ha, rfl⟩ := planSource_eq_none h
  obtain ⟨file, hfile, rfl, hthere⟩ := findAbi_eq_ok hf
  have hnetworks : ∀ s ∈ g.sources ++ [⟨.evm, d.name, i.networkOf d,
      "./" ++ abisDirectory ++ "/" ++ name, d.address, d.startBlock⟩],
      s.network ∈ (g.addNetwork (i.networkOf d) chainId).networks.networks.map Network.name := by
    intro s hs
    rw [mem_networks_addNetwork]
    rcases List.mem_append.mp hs with hs | hs
    · exact .inl (hg.networks s hs)
    · rw [List.mem_singleton.mp hs]
      exact .inr rfl
  rcases addAbi_eq_ok ha with ⟨rfl, hnew⟩ | ⟨rfl, a, hmem, rfl, hsame⟩
  · -- a new ABI file stands behind the others, which keep their sources
    refine ⟨?_, by simp [Progress.addSource, Progress.addNetwork, hg.stubs], ?_, ?_, hnetworks⟩
    · have hkeep : ∀ a ∈ g.abis, a ∈ g.abis ++ [⟨i.directory.join ⟨file⟩, name⟩] :=
        fun a hmem => List.mem_append_left _ hmem
      refine List.rel_append (hg.sources.imp fun e s hs => hs.mono hkeep) (.cons ?_ .nil)
      exact ⟨_, List.mem_append_right _ (List.mem_singleton_self _), file, hfile, rfl, rfl⟩
    · exact Distinct.nodup_concat hg.names hnew
    · intro a hmem
      rcases List.mem_append.mp hmem with hmem | hmem
      · exact hg.abis a hmem
      · exact List.mem_singleton.mp hmem ▸ hthere
  · -- the ABI files stay, and one of them is this one
    refine ⟨?_, by simp [Progress.addSource, Progress.addNetwork, hg.stubs], hg.names, hg.abis,
      hnetworks⟩
    refine List.rel_append hg.sources (.cons ?_ .nil)
    exact ⟨a, hmem, file, hfile, hsame, rfl⟩

/-! ## All data sources -/

/-- What each data source keeps of the data sources so far and of what they have come to, a plan
keeps of all of them. -/
theorem planSources_induction {P : List DataSource → Progress → Prop}
    (hstep : ∀ {done d g g'}, P done g → i.planSource t d g = (g', none) → P (done ++ [d]) g')
    {rest done : List DataSource} {g g' : Progress} (hg : P done g)
    (h : i.planSources t g rest = (g', none)) : P (done ++ rest) g' := by
  induction rest generalizing done g with
  | nil =>
    obtain rfl := (Prod.mk.inj h).1
    simpa using hg
  | cons d rest ih =>
    unfold planSources at h
    split at h
    · rename_i made hd
      simpa using ih (hstep hg hd) h
    · simp at h

theorem gathered_planSources {dataSources : List DataSource} {g : Progress}
    (h : i.planSources t .start dataSources = (g, none)) : Gathered i t dataSources g :=
  planSources_induction gathered_planSource gathered_start h

/-- The plan stands for the data sources. -/
structure IsPlanOf (i : Import) (t : FileTree) (dataSources : List DataSource) (p : Plan) :
    Prop where
  root : p.root = i.root
  accepted : Manifest.Accepted dataSources
  schema : t.isFile p.schema = true
  sources : List.Forall₂ (Bound i p.abis) dataSources p.config.sources
  stubs : p.stubs = dataSources.map fun d => Stub.file d.name d.eventNames
  index : p.index = Stub.index (p.config.sources.map Source.name)
  names : (p.abis.map AbiCopy.name).Nodup
  abis : ∀ a ∈ p.abis, a.IsThere t
  networks : ∀ s ∈ p.config.sources, s.network ∈ p.config.networks.map Network.name

theorem findSchema_eq_ok {m : Manifest} {schema : Path} (h : i.findSchema t m = .ok schema) :
    ∃ file, m.schemaFile = some file ∧ schema = i.directory.join ⟨file⟩ ∧
      t.isFile schema = true := by
  unfold findSchema at h
  split at h
  · cases h
  · rename_i file hfile
    dsimp only at h
    split at h
    · rename_i hf
      obtain rfl := Except.ok.inj h
      exact ⟨file, hfile, rfl, hf⟩
    · cases h

theorem readContent_eq_ok {path : Path} {content : Content}
    (h : i.readContent t path = .ok content) :
    ∃ m, Manifest.load t path = .ok m ∧ i.findSchema t m = .ok content.schema ∧
      m.sources = .ok content.dataSources := by
  unfold readContent at h
  obtain ⟨m, hm, h⟩ := bind_eq_ok.mp h
  obtain ⟨schema, hs, h⟩ := bind_eq_ok.mp h
  obtain ⟨dataSources, hd, h⟩ := bind_eq_ok.mp h
  obtain rfl := Except.ok.inj h
  exact ⟨m, hm, hs, mapError_eq_ok.mp hd⟩

/-- Behind a plan stands what the data sources of the manifest have come to. -/
theorem progress_of_plan {p : Plan} (h : (i.plan t).result = .ok p) :
    ∃ path content g, Manifest.locate t i.directory i.candidates = .ok path ∧
      i.readContent t path = .ok content ∧
      i.planSources t .start content.dataSources = (g, none) ∧
      p = i.planOf content.schema g := by
  unfold plan at h
  split at h
  · cases h
  rename_i path hpath
  dsimp only at h
  split at h
  · cases h
  rename_i content hcontent
  dsimp only at h
  split at h
  · cases h
  rename_i hnone
  exact ⟨path, content, _, hpath, hcontent, Prod.ext rfl hnone, (Except.ok.inj h).symm⟩

/-- The manifest behind a plan, with its schema file and its data sources. -/
theorem manifest_of_plan {p : Plan} (h : (i.plan t).result = .ok p) :
    ∃ path m dataSources, Manifest.locate t i.directory i.candidates = .ok path ∧
      Manifest.load t path = .ok m ∧ i.findSchema t m = .ok p.schema ∧
      m.sources = .ok dataSources ∧ IsPlanOf i t dataSources p := by
  obtain ⟨path, content, g, hpath, hcontent, hplanned, rfl⟩ := progress_of_plan h
  obtain ⟨m, hm, hs, hd⟩ := readContent_eq_ok hcontent
  have hg := gathered_planSources hplanned
  obtain ⟨_, _, _, hfile⟩ := findSchema_eq_ok hs
  exact ⟨path, m, _, hpath, hm, hs, hd, rfl, Manifest.accepted_of_sources hd, hfile,
    hg.sources, hg.stubs, rfl, hg.names, hg.abis, hg.networks⟩

theorem isPlanOf_plan {p : Plan} (h : (i.plan t).result = .ok p) :
    ∃ dataSources, IsPlanOf i t dataSources p := by
  obtain ⟨_, _, dataSources, _, _, _, _, hp⟩ := manifest_of_plan h
  exact ⟨dataSources, hp⟩

theorem names_of_bound {abis : List AbiCopy} {dataSources : List DataSource}
    {sources : List Source} (h : List.Forall₂ (Bound i abis) dataSources sources) :
    sources.map Source.name = dataSources.map DataSource.name :=
  (Pointwise.map_eq h fun _ _ hb => hb.name_eq.symm).symm

/-- Each source stands for one of the data sources. -/
theorem exists_bound {abis : List AbiCopy} {dataSources : List DataSource}
    {sources : List Source} {s : Source} (h : List.Forall₂ (Bound i abis) dataSources sources)
    (hs : s ∈ sources) : ∃ d ∈ dataSources, Bound i abis d s :=
  Pointwise.exists_of_mem_right h hs

/-- The configuration of a plan is in order. -/
theorem IsPlanOf.admissible {dataSources : List DataSource} {p : Plan}
    (h : IsPlanOf i t dataSources p) : p.config.Admissible := by
  have hn := names_of_bound h.sources
  refine ⟨?_, hn ▸ h.accepted.distinct, ?_⟩
  · intro s hs
    have hmem : s.name ∈ dataSources.map DataSource.name := hn ▸ List.mem_map_of_mem hs
    obtain ⟨d, hd, he⟩ := List.mem_map.mp hmem
    exact he ▸ DataSource.isIdentifier_of_check (h.accepted.checked d hd)
  · intro _ s hs
    exact List.mem_map.mp (h.networks s hs)

end IndexerTypes.Import
