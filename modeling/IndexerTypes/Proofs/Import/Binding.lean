import IndexerTypes.Proofs.Import.Rejection

/-! # Each source is bound to its own ABI file

ABI files are kept in one directory, so two files of one name cannot both be taken up, and one
file that several data sources name is taken up once. What has been taken up has been named by
some data source (`Drawn`); with what each data source is bound to (`Gathered`) this says that
sources and ABI files fit together without a gap (`binding_of_plan`). Two data sources with
different files of one name are the only thing that can be in the way once each of them is in
order by itself (`bound_plan`). -/

namespace IndexerTypes

/-- What is told as an invalid manifest. -/
inductive Fault.IsInvalidManifest : Fault → Prop
  | noSchemaFile : IsInvalidManifest .noSchemaFile
  | abiNameTaken {first second : Path} {name : String} :
      IsInvalidManifest (.abiNameTaken first second name)

theorem Path.Same.fileName?_eq {p q : Path} (h : Path.Same p q) : p.fileName? = q.fileName? := by
  unfold Path.fileName?
  rw [show p.components = q.components from h]

namespace Import

open IndexerTypes.Path (IsName)

variable {i : Import} {t : FileTree} {p : Plan} {dataSources done : List DataSource}
  {d : DataSource}

/-- Where an import looks for the ABI file of a data source. -/
def abiPath? (i : Import) (d : DataSource) : Option Path :=
  d.abiFile?.map fun file => i.directory.join ⟨file⟩

/-- Two data sources name different ABI files that go by one name. An import compares the paths by
`Path.Same`, for which a `.` in front counts, unlike for `Path.Alike`. Both paths start from the
directory of the import, so this makes a difference for an empty directory only, and no options
have one. -/
def Clash (i : Import) (dataSources : List DataSource) : Prop :=
  ∃ d ∈ dataSources, ∃ e ∈ dataSources, ∃ p q name, i.abiPath? d = some p ∧
    i.abiPath? e = some q ∧ p.fileName? = some name ∧ q.fileName? = some name ∧ ¬ Path.Same p q

/-- The source names the ABI file under the name of its copy. -/
def AbiCopy.IsNamedBy (a : AbiCopy) (s : Source) : Prop :=
  s.abi = "./" ++ abisDirectory ++ "/" ++ a.name

/-- The source is made of the data source, and the one ABI file that it names is the one that
the data source names. -/
structure BindsAbi (i : Import) (abis : List AbiCopy) (d : DataSource) (s : Source) : Prop where
  source : s = ⟨.evm, d.name, i.networkOf d, s.abi, d.address, d.startBlock⟩
  abi : ∃ a ∈ abis, a.IsNamedBy s ∧ (∀ b ∈ abis, b.IsNamedBy s → b = a) ∧
    ∃ path, i.abiPath? d = some path ∧ Path.Same a.source path

/-- The sources, stubs and ABI files of a plan are those of the data sources, in their order. -/
structure Binding (i : Import) (dataSources : List DataSource) (p : Plan) : Prop where
  sources : List.Forall₂ (BindsAbi i p.abis) dataSources p.config.sources
  stubs : p.stubs = dataSources.map fun d => Stub.file d.name d.eventNames
  lengths : p.config.sources.length = dataSources.length ∧ p.stubs.length = dataSources.length
  names : (p.abis.map AbiCopy.name).Nodup
  single : ∀ a ∈ p.abis, IsName a.name
  used : ∀ a ∈ p.abis, ∃ s ∈ p.config.sources, a.IsNamedBy s

/-- The manifest is in order, and so is each of its data sources by itself. -/
structure InOrder (i : Import) (t : FileTree) (dataSources : List DataSource) : Prop where
  manifest : ∃ m schema, i.Reads t m ∧ i.findSchema t m = .ok schema ∧
    m.sources = .ok dataSources
  networks : ∀ d ∈ dataSources, Network.chainId? (i.networkOf d) ≠ none
  abis : ∀ d ∈ dataSources, ∃ found, i.findAbi t d = .ok found

/-! ## Where ABI files come from -/

/-- Each ABI file is the one that some data source names, under its own name. -/
def Drawn (i : Import) (done : List DataSource) (g : Progress) : Prop :=
  ∀ a ∈ g.abis, a.source.fileName? = some a.name ∧ ∃ d ∈ done, i.abiPath? d = some a.source

theorem abiPath?_of_findAbi {path : Path} {name : String}
    (h : i.findAbi t d = .ok (path, name)) :
    i.abiPath? d = some path ∧ path.fileName? = some name := by
  obtain ⟨file, hfile, rfl, hthere⟩ := findAbi_eq_ok h
  exact ⟨by rw [abiPath?, hfile]; rfl, hthere.2⟩

theorem drawn_planSource {g g' : Progress} (hg : Drawn i done g)
    (h : i.planSource t d g = (g', none)) : Drawn i (done ++ [d]) g' := by
  obtain ⟨chainId, path, name, added, -, hf, ha, rfl⟩ := planSource_eq_none h
  have hkeep : ∀ a ∈ g.abis, a.source.fileName? = some a.name ∧
      ∃ e ∈ done ++ [d], i.abiPath? e = some a.source := by
    intro a hmem
    obtain ⟨hname, e, he, hpath⟩ := hg a hmem
    exact ⟨hname, e, List.mem_append_left _ he, hpath⟩
  rcases addAbi_eq_ok ha with ⟨rfl, -⟩ | ⟨rfl, -⟩
  · intro a hmem
    rcases List.mem_append.mp hmem with hmem | hmem
    · exact hkeep a hmem
    · obtain rfl := List.mem_singleton.mp hmem
      obtain ⟨hpath, hname⟩ := abiPath?_of_findAbi hf
      exact ⟨hname, d, by simp, hpath⟩
  · exact hkeep

theorem drawn_start : Drawn i [] .start := by
  intro a hmem
  cases hmem

theorem drawn_planSources {g : Progress} (h : i.planSources t .start dataSources = (g, none)) :
    Drawn i dataSources g := planSources_induction drawn_planSource drawn_start h

/-! ## What a plan binds -/

theorem name_eq_of_isNamedBy {a b : AbiCopy} {s : Source} (ha : a.IsNamedBy s)
    (hb : b.IsNamedBy s) : a.name = b.name := by
  have h := ha.symm.trans hb
  exact (String.append_right_inj _).mp h

/-- The ABI file of a data source has one and the same name in its own path and in the plan. -/
theorem IsPlanOf.exists_copy (h : IsPlanOf i t dataSources p) (hd : d ∈ dataSources) {path : Path}
    (hp : i.abiPath? d = some path) :
    ∃ a ∈ p.abis, Path.Same a.source path ∧ path.fileName? = some a.name ∧
      ∃ s ∈ p.config.sources, a.IsNamedBy s := by
  obtain ⟨s, hs, a, ha, file, hfile, hsame, he⟩ := Pointwise.exists_of_mem_left h.sources hd
  obtain rfl : i.directory.join ⟨file⟩ = path := by
    rw [abiPath?, hfile] at hp
    exact Option.some.inj hp
  exact ⟨a, ha, hsame, hsame.fileName?_eq ▸ (h.abis a ha).2, s, hs, by rw [he]; rfl⟩

theorem IsPlanOf.bindsAbi (h : IsPlanOf i t dataSources p) {s : Source}
    (hb : Bound i p.abis d s) : BindsAbi i p.abis d s := by
  obtain ⟨a, ha, file, hfile, hsame, rfl⟩ := hb
  refine ⟨rfl, a, ha, rfl, ?_, _, by rw [abiPath?, hfile]; rfl, hsame⟩
  intro b hmem hname
  exact List.inj_on_of_nodup_map h.names hmem ha (name_eq_of_isNamedBy hname rfl)

/-- Behind a plan stands a manifest, and each source is bound to what its data source names. -/
theorem binding_of_plan (h : (i.plan t).result = .ok p) :
    ∃ m dataSources, i.Reads t m ∧ m.sources = .ok dataSources ∧ Binding i dataSources p := by
  obtain ⟨path, content, g, hl, hc, hg, rfl⟩ := progress_of_plan h
  obtain ⟨m, hm, -, hsources⟩ := readContent_eq_ok hc
  obtain ⟨_, _, _, hl', hm', -, hd, hi⟩ := manifest_of_plan h
  obtain rfl := Except.ok.inj (hl.symm.trans hl')
  obtain rfl := Except.ok.inj (hm.symm.trans hm')
  obtain rfl := Except.ok.inj (hsources.symm.trans hd)
  refine ⟨m, _, ⟨path, hl, hm⟩, hd, ?_⟩
  constructor
  case sources => exact hi.sources.imp fun e s hb => hi.bindsAbi hb
  case stubs => exact hi.stubs
  case lengths => exact ⟨hi.sources.length_eq.symm, by rw [hi.stubs, List.length_map]⟩
  case names => exact hi.names
  case single => exact fun a ha => Plan.isName_of_fileName? (hi.abis a ha).2
  case used =>
    intro a ha
    obtain ⟨hname, e, he, hpath⟩ := drawn_planSources hg a ha
    obtain ⟨b, hb, -, hcopied, s, hs, hnamed⟩ := hi.exists_copy he hpath
    have hsame : b.name = a.name := Option.some.inj (hcopied.symm.trans hname)
    obtain rfl := List.inj_on_of_nodup_map hi.names hb ha hsame
    exact ⟨s, hs, hnamed⟩

/-! ## When there is no plan -/

theorem not_clash_of_isPlanOf (h : IsPlanOf i t dataSources p) : ¬ i.Clash dataSources := by
  rintro ⟨d, hd, e, he, path, other, name, hpath, hother, hname, hsecond, hdiffer⟩
  obtain ⟨a, ha, hsame, hfirst, -⟩ := h.exists_copy hd hpath
  obtain ⟨b, hb, hsame', hlast, -⟩ := h.exists_copy he hother
  have hab : a.name = b.name := by
    rw [hname] at hfirst
    rw [hsecond] at hlast
    exact (Option.some.inj hfirst).symm.trans (Option.some.inj hlast)
  obtain rfl := List.inj_on_of_nodup_map h.names ha hb hab
  exact hdiffer (hsame.symm.trans hsame')

theorem Reads.unique {m n : Manifest} (hm : i.Reads t m) (hn : i.Reads t n) : m = n := by
  obtain ⟨path, hl, hm⟩ := hm
  obtain ⟨other, hl', hn⟩ := hn
  obtain rfl := Except.ok.inj (hl.symm.trans hl')
  exact Except.ok.inj (hm.symm.trans hn)

/-- A data source that is in order by itself clashes with one before it. -/
theorem clash_of_rejectsSource {before after : List DataSource} {g : Progress} {fault : Fault}
    (hi : InOrder i t (before ++ d :: after)) (hg : Drawn i before g)
    (h : RejectsSource i t g d fault) :
    i.Clash (before ++ d :: after) ∧ fault.IsInvalidManifest := by
  have hd : d ∈ before ++ d :: after := by simp
  cases h with
  | network hnone => exact absurd hnone (hi.networks d hd)
  | abi herror =>
    obtain ⟨found, hok⟩ := hi.abis d hd
    rw [hok] at herror
    cases herror
  | @name path name other hf hmem hname hdiffer =>
    obtain ⟨hpath, hfile⟩ := abiPath?_of_findAbi hf
    obtain ⟨hother, e, he, hsource⟩ := hg other hmem
    rw [hname] at hother
    exact ⟨⟨e, List.mem_append_left _ he, d, hd, other.source, path, name, hsource, hpath, hother,
      hfile, hdiffer⟩, .abiNameTaken⟩

theorem clash_of_plan_eq_error {fault : Fault} (hi : InOrder i t dataSources)
    (h : (i.plan t).result = .error fault) : i.Clash dataSources ∧ fault.IsInvalidManifest := by
  obtain ⟨m, schema, hm, hs, hd⟩ := hi.manifest
  have ⟨path, hl, hload⟩ := hm
  cases rejects_of_plan h with
  | missing hmissing =>
    rw [hl] at hmissing
    cases hmissing
  | manifest hl' herror =>
    obtain rfl := Except.ok.inj (hl.symm.trans hl')
    rw [hload] at herror
    cases herror
  | schema hn herror =>
    rw [hm.unique hn, herror] at hs
    cases hs
  | dataSources hn herror =>
    rw [hm.unique hn, herror] at hd
    cases hd
  | source hn hsources hbefore hr =>
    obtain rfl := hm.unique hn
    obtain rfl := Except.ok.inj (hd.symm.trans hsources)
    exact clash_of_rejectsSource hi (drawn_planSources hbefore) hr

theorem plan_ne_ok_of_clash (hi : InOrder i t dataSources) (h : i.Clash dataSources) :
    (i.plan t).result ≠ .ok p := by
  intro hp
  obtain ⟨m, _, hm, -, hd⟩ := hi.manifest
  obtain ⟨path, n, _, hl, hn, -, hsources, hplan⟩ := manifest_of_plan hp
  obtain rfl := hm.unique ⟨path, hl, hn⟩
  obtain rfl := Except.ok.inj (hd.symm.trans hsources)
  exact not_clash_of_isPlanOf hplan h

/-- **Every source is bound to its own ABI file.** A plan has a source and a stub for each data
source; the ABI files have names of their own, and each source names one of them alone: the one
that its data source names. No file is taken up that no source names. Data sources that are in
order by themselves are refused, as an invalid manifest, just if two of them name different
files of one name; otherwise there is a plan. -/
theorem bound_plan (i : Import) (t : FileTree) :
    (∀ p, (i.plan t).result = .ok p → ∃ m dataSources, i.Reads t m ∧
      m.sources = .ok dataSources ∧ Binding i dataSources p) ∧
    ∀ dataSources, InOrder i t dataSources →
      ((∃ fault, (i.plan t).result = .error fault ∧ fault.IsInvalidManifest) ↔
        i.Clash dataSources) ∧
      ((∃ p, (i.plan t).result = .ok p) ↔ ¬ i.Clash dataSources) := by
  refine ⟨fun p hp => binding_of_plan hp, fun dataSources hi => ?_⟩
  cases hp : (i.plan t).result with
  | error fault =>
    obtain ⟨hclash, hinvalid⟩ := clash_of_plan_eq_error hi hp
    refine ⟨⟨fun _ => hclash, fun _ => ⟨fault, rfl, hinvalid⟩⟩, ?_, fun hno => absurd hclash hno⟩
    rintro ⟨p, he⟩
    cases he
  | ok p =>
    have hno : ¬ i.Clash dataSources := fun hclash => plan_ne_ok_of_clash hi hclash hp
    refine ⟨⟨?_, fun hclash => absurd hclash hno⟩, fun _ => hno, fun _ => ⟨p, rfl⟩⟩
    rintro ⟨fault, he, -⟩
    cases he

/-- A project whose data sources name two ABI files of one name. -/
def clashTree : FileTree where
  workingDirectory := []
  entries := [
    (["m"], .file (
      "schema:\n  file: s\ndataSources:\n" ++
      "- name: A\n  source:\n    address: x\n    abi: T\n" ++
      "  mapping:\n    abis:\n    - name: T\n      file: old/T\n" ++
      "- name: B\n  source:\n    address: y\n" ++
      "  mapping:\n    abis:\n    - name: B\n      file: new/./T\n").toUTF8),
    (["s"], .file "type A".toUTF8),
    (["old"], .directory),
    (["old", "T"], .file "[]".toUTF8),
    (["new"], .directory),
    (["new", "T"], .file "[]".toUTF8)]

def clashSources : List DataSource := [
  ⟨"A", none, "x", some "T", none, [⟨"T", "old/T"⟩], []⟩,
  ⟨"B", none, "y", none, none, [⟨"B", "new/./T"⟩], []⟩]

/-- The data sources of an import whose manifest names a schema. -/
def contentSources? (i : Import) (t : FileTree) : Option (List DataSource) :=
  match Manifest.locate t i.directory i.candidates with
  | .error _ => none
  | .ok path => (i.readContent t path).toOption.map Content.dataSources

theorem exists_manifest_of_contentSources? (h : i.contentSources? t = some dataSources) :
    ∃ m schema, i.Reads t m ∧ i.findSchema t m = .ok schema ∧ m.sources = .ok dataSources := by
  unfold contentSources? at h
  split at h
  · cases h
  · rename_i path hl
    cases hc : i.readContent t path with
    | error fault =>
      rw [hc] at h
      cases h
    | ok content =>
      rw [hc] at h
      obtain rfl := Option.some.inj h
      obtain ⟨m, hm, hs, hd⟩ := readContent_eq_ok hc
      exact ⟨m, content.schema, ⟨path, hl, hm⟩, hs, hd⟩

theorem inOrder_clashSources : InOrder sample clashTree clashSources := by
  constructor
  case manifest => exact exists_manifest_of_contentSources? (by decide +kernel)
  case networks => decide +kernel
  case abis =>
    intro d hd
    have hfound : ∀ d ∈ clashSources, (sample.findAbi clashTree d).isOk = true := by
      decide +kernel
    specialize hfound d hd
    cases hf : sample.findAbi clashTree d with
    | error fault =>
      rw [hf] at hfound
      cases hfound
    | ok found => exact ⟨found, rfl⟩

theorem clash_clashSources : sample.Clash clashSources :=
  ⟨_, .head _, _, .tail _ (.head _), ⟨"./old/T"⟩, ⟨"./new/./T"⟩, "T", by decide +kernel⟩

/-- The sample has a plan that binds its source; the clash of the other project is refused. -/
theorem bound_plan_sample :
    (∃ p m dataSources, (sample.plan sampleTree).result = .ok p ∧ sample.Reads sampleTree m ∧
      m.sources = .ok dataSources ∧ Binding sample dataSources p) ∧
    InOrder sample clashTree clashSources ∧ sample.Clash clashSources ∧
    ∃ fault, (sample.plan clashTree).result = .error fault ∧ fault.IsInvalidManifest := by
  obtain ⟨p, o, hp, -⟩ := exists_sample
  obtain ⟨m, dataSources, hm, hd, hb⟩ := (bound_plan sample sampleTree).1 p hp
  obtain ⟨hrefused, -⟩ := (bound_plan sample clashTree).2 clashSources inOrder_clashSources
  exact ⟨⟨p, m, dataSources, hp, hm, hd, hb⟩, inOrder_clashSources, clash_clashSources,
    hrefused.mpr clash_clashSources⟩

end Import

end IndexerTypes
