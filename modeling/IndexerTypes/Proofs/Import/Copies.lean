import IndexerTypes.Proofs.Import.Layout

/-! # What an import copies

The files that an import copies may lie where it copies to. An ABI file keeps its name, and
no two have one name, so no copy of an ABI file is put over another one that is still to be
copied. Only the copy of the schema may be put over an ABI file, and only if that one lies at
its very place. -/

namespace IndexerTypes.Import.Plan

open FileTree (under Apart)
open Effect (Done Spares)

variable {i : Import} {t u : FileTree} {p : Plan} {dataSources : List DataSource}

/-! ## The effects around the copies -/

def abiEffect (p : Plan) (a : AbiCopy) : Effect := .copy "ABI" a.source (p.abiPath a)

/-- The effects behind all copies. -/
def laterEffects (p : Plan) : List Effect := p.moduleEffects ++ p.configEffects

theorem effects_eq_schema (p : Plan) :
    p.effects = p.directoryEffects ++ .copy "schema" p.schema p.schemaPath ::
      (p.abis.map p.abiEffect ++ p.laterEffects) := by
  simp [effects, copyEffects, laterEffects, abiEffect]

theorem schemaEffect_mem_effects : .copy "schema" p.schema p.schemaPath ∈ p.effects := by
  rw [effects_eq_schema]
  exact List.mem_append_right _ List.mem_cons_self

theorem abiEffect_mem_effects {a : AbiCopy} (ha : a ∈ p.abis) : p.abiEffect a ∈ p.effects := by
  rw [effects_eq_schema]
  refine List.mem_append_right _ (List.mem_cons_of_mem _ (List.mem_append_left _ ?_))
  exact List.mem_map_of_mem ha

theorem spares_directories {q : Path} : Spares p.directoryEffects q := by
  simp [Spares, directoryEffects, Effect.target?]

theorem spares_abis {abis : List AbiCopy} {q : Path} (h : ∀ a ∈ abis, Apart q (p.abiPath a)) :
    Spares (abis.map p.abiEffect) q := by
  intro e he r hr
  obtain ⟨a, ha, rfl⟩ := List.mem_map.mp he
  exact Option.some.inj hr ▸ h a ha

theorem spares_later_schema (hl : p.IsLaidOut) : Spares p.laterEffects p.schemaPath := by
  refine Effect.spares_append.mpr ⟨GeneratedFile.spares_files fun f hf => ?_, spares_config ?_ ?_⟩
  · rw [schemaPath_eq, modulePath_eq]
    exact (apart_inner p.root isName_handlersDirectory (hl.modules f hf)
      isName_schemaFilename).symm
  · exact FileTree.apart_join_name p.root isName_schemaFilename isName_filename (by decide)
  · exact FileTree.apart_join_name p.root isName_schemaFilename isName_environmentFilename
      (by decide)

theorem spares_later_abi (hl : p.IsLaidOut) {a : AbiCopy} (ha : a ∈ p.abis) :
    Spares p.laterEffects (p.abiPath a) := by
  rw [abiPath_eq]
  refine Effect.spares_append.mpr ⟨GeneratedFile.spares_files fun f hf => ?_, ?_⟩
  · rw [modulePath_eq]
    exact apart_nested p.root isName_abisDirectory (hl.abis a ha) isName_handlersDirectory
      (hl.modules f hf) (.inl (by decide))
  · exact spares_config_inner isName_abisDirectory (hl.abis a ha)

/-! ## The schema -/

/-- The copy of the schema holds what the schema held. -/
theorem schema_holds (hl : p.IsLaidOut) (h : Done t p.effects u) {c : ByteArray}
    (hc : t.readBytes p.schema = .ok c) : u.readBytes p.schemaPath = .ok c := by
  obtain ⟨l, hf⟩ := FileTree.readBytes_eq_ok.mp hc
  rw [effects_eq_schema] at h
  refine Effect.readBytes_of_done_copy h hf spares_directories ?_
  refine Effect.spares_append.mpr ⟨spares_abis fun a ha => ?_, spares_later_schema hl⟩
  rw [schemaPath_eq, abiPath_eq]
  exact (apart_inner p.root isName_abisDirectory (hl.abis a ha) isName_schemaFilename).symm

theorem isFile_schemaPath (hi : IsPlanOf i t dataSources p) (h : Done t p.effects u) :
    u.isFile p.schemaPath = true := by
  obtain ⟨c, hc⟩ := FileTree.readBytes_of_isFile hi.schema
  exact FileTree.isFile_of_readBytes (schema_holds (isLaidOut_of_isPlanOf hi) h hc)

/-! ## ABI files -/

theorem isFile_abiPath (hi : IsPlanOf i t dataSources p) (h : Done t p.effects u) {a : AbiCopy}
    (ha : a ∈ p.abis) : u.isFile (p.abiPath a) = true :=
  Effect.isFile_of_done_copy h (abiEffect_mem_effects ha) (hi.abis a ha).1

/-- Where the copy of the schema leads to an ABI file, it is a copy of that file: the final
tree tells, since no place is lost on the way to it. -/
theorem find_schema_of_walk {m : FileTree} (hg : FileTree.Grows m u) {l : Location}
    {a : AbiCopy} {c : ByteArray} (ha : m.find a.source = .ok (l, .file c))
    (hm : m.isFile p.schema = true) (hu : u.isFile p.schemaPath = true)
    (hs : u.sameEntry a.source p.schemaPath = true → u.sameEntry a.source p.schema = true)
    (hw : m.walk p.schemaPath = .ok l) : m.find p.schema = .ok (l, .file c) := by
  obtain ⟨d, had⟩ := hg.find_file ha
  obtain ⟨k, b, hk⟩ := FileTree.isFile_iff.mp hu
  have hkl : u.walk p.schemaPath = .ok l := hg.walk hw
  rw [FileTree.walk_of_find hk, Except.ok.injEq] at hkl
  subst hkl
  obtain ⟨j, e, e', hj, hj'⟩ := FileTree.sameEntry_iff.mp
    (hs (FileTree.sameEntry_iff.mpr ⟨k, _, _, had, hk⟩))
  obtain ⟨n, b', hn⟩ := FileTree.isFile_iff.mp hm
  obtain ⟨d', hd'⟩ := hg.find_file hn
  rw [had] at hj
  rw [hd'] at hj'
  obtain rfl := (Prod.mk.inj (Except.ok.inj hj)).1
  obtain rfl := (Prod.mk.inj (Except.ok.inj hj')).1
  have he := (FileTree.find_eq_file.mp ha).2.1
  rw [(FileTree.find_eq_file.mp hn).2.1, Option.some.injEq] at he
  exact he ▸ hn

/-- The copy of an ABI file holds what the file held. -/
theorem abi_holds (hi : IsPlanOf i t dataSources p) (h : Done t p.effects u)
    (hs : ∀ a ∈ p.abis, u.sameEntry a.source p.schemaPath = true →
      u.sameEntry a.source p.schema = true)
    {a : AbiCopy} (ha : a ∈ p.abis) {c : ByteArray} (hc : t.readBytes a.source = .ok c) :
    u.readBytes (p.abiPath a) = .ok c := by
  have hl := isLaidOut_of_isPlanOf hi
  have hu := isFile_schemaPath hi h
  obtain ⟨l, hf⟩ := FileTree.readBytes_eq_ok.mp hc
  rw [effects_eq_schema] at h
  obtain ⟨m, hm, hr⟩ := Effect.done_append.mp h
  have hg := hr.grows
  obtain ⟨n, notices, hp, hr⟩ := Effect.done_cons.mp hr
  -- the file is still as it was when its own copy is due
  have hfm := hm.find_file hf spares_directories
  have hfn := Effect.find_perform_copy hfm hp
    (find_schema_of_walk hg hfm (hm.grows.isFile hi.schema) hu (hs a ha))
  obtain ⟨before, after, he⟩ := List.append_of_mem ha
  have hname := Distinct.key_ne_of_nodup (he ▸ hi.names)
  have hmem : ∀ b ∈ before ++ after, b ∈ p.abis := by
    intro b hb
    rw [he]
    rcases List.mem_append.mp hb with hb | hb
    · exact List.mem_append_left _ hb
    · exact List.mem_append_right _ (List.mem_cons_of_mem _ hb)
  rw [he, List.map_append, List.map_cons, List.append_assoc, List.cons_append] at hr
  refine Effect.readBytes_of_done_copy hr hfn (spares_abis fun b hb => ?_) ?_
  · have hb := List.mem_append_left after hb
    exact FileTree.apart_of_fileName? (hi.abis a ha).2
      (Path.fileName?_join_name _ (hl.abis b (hmem b hb))) (hname b hb).symm
  · refine Effect.spares_append.mpr ⟨spares_abis fun b hb => ?_, spares_later_abi hl ha⟩
    have hb := List.mem_append_right before hb
    rw [abiPath_eq, abiPath_eq]
    exact apart_nested p.root isName_abisDirectory (hl.abis a ha) isName_abisDirectory
      (hl.abis b (hmem b hb)) (.inr (hname b hb).symm)

/-- Where the way to the root is there before the import, the tree before tells whether an ABI
file lies at the place of the schema's copy. -/
theorem sameEntry_schemaPath_iff (hi : IsPlanOf i t dataSources p) (h : Done t p.effects u)
    {place : Location} (hw : t.walk p.root = .ok place) {a : AbiCopy} (ha : a ∈ p.abis) :
    u.sameEntry a.source p.schemaPath = true ↔
      ∃ c, t.find a.source = .ok (place ++ [Config.schemaFilename], .file c) := by
  obtain ⟨l, c, hc⟩ := FileTree.isFile_iff.mp (hi.abis a ha).1
  obtain ⟨d, hd⟩ := h.grows.find_file hc
  obtain ⟨k, e, hk⟩ := FileTree.isFile_iff.mp (isFile_schemaPath hi h)
  have hplace : k = place ++ [Config.schemaFilename] :=
    FileTree.eq_of_find_join_name isName_schemaFilename (h.grows.walk hw) hk
  rw [FileTree.sameEntry_iff, hc, hd, hk, hplace]
  simp [eq_comm]

/-- **An import copies its inputs faithfully, also in place.** It may be asked to import a
project into itself, or one that lies inside the other, in any spelling. The one thing that
must not be is an ABI file, other than the schema file, at the place of the schema's copy: the
tree afterwards tells, where that place can be found for sure. The tree before tells the same
(`sameEntry_schemaPath_iff`), except for a root that leads through directories which the import
has to make. -/
theorem copies_hold {o : Outcome} (hp : (i.plan t).result = .ok p)
    (hr : (i.run t).result = .ok o)
    (hs : ∀ a ∈ p.abis,
      (i.run t).tree.sameEntry a.source (i.root.join ⟨Config.schemaFilename⟩) = true →
        (i.run t).tree.sameEntry a.source p.schema = true) :
    (∃ path m file c, Manifest.locate t i.directory i.candidates = .ok path ∧
      Manifest.load t path = .ok m ∧ m.schemaFile = some file ∧
      t.readBytes (i.directory.join ⟨file⟩) = .ok c ∧
      (i.run t).tree.readBytes (i.root.join ⟨Config.schemaFilename⟩) = .ok c) ∧
    ∀ a ∈ p.abis, ∃ c, t.readBytes a.source = .ok c ∧
      (i.run t).tree.readBytes ((i.root.join ⟨abisDirectory⟩).join ⟨a.name⟩) = .ok c := by
  obtain ⟨path, m, dataSources, hpath, hm, hfile, -, hi⟩ := manifest_of_plan hp
  obtain ⟨q, hq, h, -⟩ := done_of_run hr
  obtain rfl : p = q := Except.ok.inj (hp.symm.trans hq)
  rw [← hi.root] at hs ⊢
  refine ⟨?_, ?_⟩
  · obtain ⟨file, hsome, hschema, -⟩ := findSchema_eq_ok hfile
    obtain ⟨c, hc⟩ := FileTree.readBytes_of_isFile hi.schema
    exact ⟨path, m, file, c, hpath, hm, hsome, hschema ▸ hc,
      schema_holds (isLaidOut_of_isPlanOf hi) h hc⟩
  · intro a ha
    obtain ⟨c, hc⟩ := FileTree.readBytes_of_isFile (hi.abis a ha).1
    exact ⟨c, hc, abi_holds hi h hs ha hc⟩

/-- A project that is imported into itself. Its schema lies where the copy of an ABI file goes. -/
def crossedTree : FileTree where
  workingDirectory := []
  entries := [
    (["p"], .directory),
    (["p", "m"], .file (
      "schema:\n  file: abis/B\ndataSources:\n" ++
      "- name: A\n  source:\n    address: x\n" ++
      "  mapping:\n    abis:\n    - name: A\n      file: A\n" ++
      "- name: B\n  source:\n    address: y\n" ++
      "  mapping:\n    abis:\n    - name: B\n      file: old/B\n").toUTF8),
    (["p", "A"], .file ⟨#[0xFF]⟩),
    (["p", "abis"], .directory),
    (["p", "abis", "B"], .file "type A".toUTF8),
    (["p", "old"], .directory),
    (["p", "old", "B"], .file "[]".toUTF8)]

def crossed : Import := ⟨⟨"p"⟩, ⟨"p/old/.."⟩, ["m"], "mainnet"⟩

def crossedAbis : List AbiCopy := [⟨⟨"p/A"⟩, "A"⟩, ⟨⟨"p/old/B"⟩, "B"⟩]

/-- Whether the project is imported with its schema and its ABI files. -/
def crossedRuns : Except Fault Plan → Bool
  | .error _ => false
  | .ok p => (p.apply crossedTree).result.isOk && p.schema == ⟨"p/abis/B"⟩ && p.abis == crossedAbis

theorem exists_crossed : ∃ p o, (crossed.plan crossedTree).result = .ok p ∧
    (crossed.run crossedTree).result = .ok o ∧ p.schema = ⟨"p/abis/B"⟩ ∧
    p.abis = crossedAbis := by
  have h : crossedRuns (crossed.plan crossedTree).result = true := by decide +kernel
  cases hp : (crossed.plan crossedTree).result with
  | error fault =>
    rw [hp] at h
    cases h
  | ok p =>
    rw [hp, crossedRuns, Bool.and_eq_true, Bool.and_eq_true, beq_iff_eq, beq_iff_eq] at h
    obtain ⟨⟨hrun, hschema⟩, habis⟩ := h
    obtain ⟨o, ho⟩ := exists_of_isOk hrun
    exact ⟨p, o, rfl, (run_of_plan hp).2.mpr ho, hschema, habis⟩

/-- The schema is read before its place is taken, and two ABI files get their copies. -/
theorem copies_hold_crossed : ∃ p o, (crossed.plan crossedTree).result = .ok p ∧
    (crossed.run crossedTree).result = .ok o ∧ p.schema = ⟨"p/abis/B"⟩ ∧ p.abis = crossedAbis ∧
    (crossed.run crossedTree).tree.readBytes (crossed.root.join ⟨"schema.graphql"⟩) =
      .ok "type A".toUTF8 ∧
    (crossed.run crossedTree).tree.readBytes ((crossed.root.join ⟨"abis"⟩).join ⟨"A"⟩) =
      .ok ⟨#[0xFF]⟩ ∧
    (crossed.run crossedTree).tree.readBytes ((crossed.root.join ⟨"abis"⟩).join ⟨"B"⟩) =
      .ok "[]".toUTF8 := by
  obtain ⟨p, o, hp, hr, hplace, habis⟩ := exists_crossed
  obtain ⟨path', m', dataSources, hpath', hm', hfound, -, hi⟩ := manifest_of_plan hp
  obtain ⟨q, hq, hdone, -⟩ := done_of_run hr
  obtain rfl : p = q := Except.ok.inj (hp.symm.trans hq)
  have hroot : crossedTree.walk p.root = .ok ["p"] := hi.root ▸ (by decide +kernel)
  -- no ABI file lies at the place of the schema's copy
  have haway : ∀ a ∈ crossedAbis, (crossedTree.find a.source).toOption.map Prod.fst ≠
      some ["p", "schema.graphql"] := by decide +kernel
  obtain ⟨⟨path, m, file, c, hpath, hm, hfile, hc, hschema⟩, hcopies⟩ :=
    copies_hold hp hr fun a ha hsame => by
      rw [← hi.root] at hsame
      obtain ⟨c, hfind⟩ := (sameEntry_schemaPath_iff hi hdone hroot ha).mp hsame
      exact absurd (by rw [hfind]; rfl) (haway a (habis ▸ ha))
  refine ⟨p, o, hp, hr, hplace, habis, ?schema, ?first, ?second⟩
  case schema =>
    -- the schema that the manifest names is the one of the plan
    obtain rfl := Except.ok.inj (hpath.symm.trans hpath')
    obtain rfl := Except.ok.inj (hm.symm.trans hm')
    obtain ⟨file', hfile', hjoin, -⟩ := findSchema_eq_ok hfound
    obtain rfl := Option.some.inj (hfile.symm.trans hfile')
    rw [← hjoin, hplace] at hc
    refine hschema.trans (hc.symm.trans ?_)
    decide +kernel
  case first =>
    obtain ⟨c, hc, hcopy⟩ := hcopies ⟨⟨"p/A"⟩, "A"⟩ (habis ▸ .head _)
    refine hcopy.trans (hc.symm.trans ?_)
    decide +kernel
  case second =>
    obtain ⟨c, hc, hcopy⟩ := hcopies ⟨⟨"p/old/B"⟩, "B"⟩ (habis ▸ .tail _ (.head _))
    refine hcopy.trans (hc.symm.trans ?_)
    decide +kernel

end IndexerTypes.Import.Plan
