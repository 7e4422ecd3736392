import IndexerTypes.Proofs.Config.RoundTrip
import IndexerTypes.Proofs.FileTree.ModulePath
import IndexerTypes.Proofs.Generation.Output
import IndexerTypes.Proofs.Import.Modules
import IndexerTypes.Proofs.Stub

/-! # Where the import of a stub leads

A stub imports the types of its source from `../generated`, and a generation writes them to the
directory that the settings name. A module path leads to a `.ts` file before it leads to a `.d.ts`
file. So the import finds the types that a generation has made just if the directory has that very
name, the source is not called like the module of the entities, and no other module is in the way
(`leads_iff`). -/

namespace IndexerTypes

open IndexerTypes.Path (IsName)

/-! ## Where module paths of stubs lead -/

namespace Stub

variable {v : FileTree} {place : Location} {name : String}

theorem locate_generated (place : Location) (h : IsName name) :
    FileTree.locate (place ++ ["handlers"]) ("../generated/" ++ name) =
      place ++ ["generated", name] := by
  have hs : Path.segments ⟨"../generated/" ++ name⟩ = ["..", "generated", name] := by
    have ht : ("../generated/" ++ name).toList =
        "..".toList ++ '/' :: ("generated".toList ++ '/' :: name.toList) := by
      simp
    have hup : Path.segmentsOf "..".toList = [".."] := by decide
    have hgenerated : IsName "generated" := by decide
    rw [Path.segments_eq, ht, Path.segmentsOf_append, Path.segmentsOf_append, hup,
      Path.segmentsOf_name h, Path.segmentsOf_name hgenerated]
    rfl
  rw [FileTree.locate, hs]
  simp [h.notHere, h.notUp]

/-- The module path of a stub means two files in `generated`. -/
theorem resolveModule?_generated (h : Text.isIdentifier name = true) :
    v.resolveModule? (place ++ ["handlers"]) ("../generated/" ++ name) =
      [place ++ ["generated", name ++ ".ts"], place ++ ["generated", name ++ ".d.ts"]].find?
        v.isFileAt := by
  have hmodule : IsName (name ++ ".ts") := Import.Plan.isName_module h
  have htypes : IsName (name ++ ".d.ts") := HandlerTypes.isName_filename h
  rw [FileTree.resolveModule?, FileTree.candidates, List.map_cons, List.map_singleton,
    String.append_assoc, String.append_assoc, locate_generated place hmodule,
    locate_generated place htypes]

/-- It leads to the types in a directory just if this is the one and no module stands there. -/
theorem resolveModule?_eq_some_iff {names : List String} (h : Text.isIdentifier name = true)
    (hl : v.isFileAt (place ++ names ++ [name ++ ".d.ts"]) = true) :
    v.resolveModule? (place ++ ["handlers"]) ("../generated/" ++ name) =
        some (place ++ names ++ [name ++ ".d.ts"]) ↔
      names = ["generated"] ∧ ¬ v.isFileAt (place ++ ["generated", name ++ ".ts"]) = true := by
  rw [resolveModule?_generated h]
  by_cases hentry : v.isFileAt (place ++ ["generated", name ++ ".ts"]) = true
  · rw [List.find?_cons_of_pos hentry, Option.some.injEq]
    refine iff_of_false (fun he => ?_) fun hand => hand.2 hentry
    have hlast := congrArg List.getLast? he
    simp at hlast
  · rw [List.find?_cons_of_neg hentry]
    constructor
    · intro hfound
      have hmem := List.mem_of_find?_eq_some hfound
      rw [List.mem_singleton, List.append_assoc, List.append_cancel_left_eq] at hmem
      have hnames : names ++ [name ++ ".d.ts"] = ["generated"] ++ [name ++ ".d.ts"] := hmem
      exact ⟨List.append_cancel_right hnames, hentry⟩
    · rintro ⟨rfl, -⟩
      rw [List.append_assoc] at hl ⊢
      exact List.find?_cons_of_pos hl

end Stub

/-! ## Where a generation has written -/

namespace Generation

variable {g : Generation} {u v : FileTree} {s : Summary} {c : Config} {entities : GeneratedFile}
  {results : List HandlerTypes.Result}

/-- A run makes the modules of the configuration that loads before it. -/
theorem exists_makes (hc : Config.load u g.root = .ok c) (h : (g.run u).result = .ok s) :
    ∃ entities results, Makes g u (g.run u).tree s c entities results := by
  obtain ⟨c', entities, results, hto, hw, htree, rfl⟩ := exists_renders h
  obtain rfl : c = c' := Except.ok.inj (hc.symm.trans hto.config)
  refine ⟨entities, results, ?_⟩
  rw [htree]
  exact hto.makes hw

namespace Makes

variable {place : Location} {name : String}

/-- The module of the entities shows where the output is. -/
theorem exists_output (hm : Makes g u v s c entities results) :
    ∃ b, v.walk g.output = .ok b ∧ v.isFileAt (b ++ [EntityTypes.filename]) = true := by
  obtain ⟨l, hfind⟩ := FileTree.readBytes_eq_ok.mp hm.entities
  obtain ⟨b, hb, -, -, rfl⟩ :=
    (FileTree.walk_join_name (by decide)).mp (FileTree.walk_of_find hfind)
  exact ⟨b, hb, FileTree.isFileAt_of_find hfind⟩

theorem find_types (hm : Makes g u v s c entities results) (hb : v.walk g.output = .ok place)
    {d : Source} (hd : d ∈ c.sources) : ∃ events, Abi.load u (d.abiPath g.root) = .ok events ∧
      v.find (g.output.join ⟨d.name ++ ".d.ts"⟩) = .ok (place ++ [d.name ++ ".d.ts"],
        .file (HandlerTypes.generate d.name events).file.content.toUTF8) := by
  obtain ⟨events, hevents, hread⟩ := hm.handlers d hd
  obtain ⟨l, hfind⟩ := FileTree.readBytes_eq_ok.mp hread
  have hname := HandlerTypes.isName_filename (hm.admissible.identifiers d hd)
  obtain rfl := FileTree.eq_of_find_join_name hname hb hfind
  exact ⟨events, hevents, hfind⟩

/-- A declaration module has no name of another module. -/
theorem filename_ne_entry (source : String) (h : Text.isIdentifier name = true) :
    HandlerTypes.filename source ≠ name ++ ".ts" := by
  intro he
  have hd : name = source ++ ".d" := (String.append_left_inj ".ts").mp <| by
    rw [← he, HandlerTypes.filename, String.append_assoc]
    rfl
  have hdot := Text.not_mem_of_isIdentifier h (c := '.') (by decide)
  simp [hd] at hdot

/-- The only module that is written as a `.ts` file is that of the entities. -/
theorem isFileAt_iff (hm : Makes g u v s c entities results) (hb : v.walk g.output = .ok place)
    (h : Text.isIdentifier name = true) :
    v.isFileAt (place ++ [name ++ ".ts"]) = true ↔
      name = "entities" ∨ u.isFileAt (place ++ [name ++ ".ts"]) = true := by
  constructor
  · intro hfile
    obtain ⟨content, hentry⟩ := FileTree.isFileAt_iff.mp hfile
    rcases hm.within.entry (place ++ [name ++ ".ts"]) with hsame | ⟨q, _, hq, hfind⟩ | ⟨-, q, -, hd⟩
    · exact .inr (FileTree.isFileAt_iff.mpr ⟨content, hsame ▸ hentry⟩)
    · rw [hm.files] at hq
      rcases List.mem_cons.mp hq with rfl | hq
      · have hname := FileTree.eq_of_find_join_name (by decide) hb hfind
        have hentities : name ++ ".ts" = "entities.ts" := by simpa using hname
        exact .inl ((String.append_left_inj ".ts").mp hentities)
      · obtain ⟨d, hd, rfl⟩ := List.mem_map.mp hq
        have hmodule := HandlerTypes.isName_filename (hm.admissible.identifiers d hd)
        have hname := FileTree.eq_of_find_join_name hmodule hb hfind
        have hother : name ++ ".ts" = HandlerTypes.filename d.name := by simpa using hname
        exact absurd hother.symm (filename_ne_entry d.name h)
    · rw [(FileTree.find_eq_directory.mp hd).2] at hentry
      cases hentry
  · rintro (rfl | hfile)
    · obtain ⟨b, hb', hentities⟩ := hm.exists_output
      obtain rfl := Except.ok.inj (hb.symm.trans hb')
      exact hentities
    · obtain ⟨content, hentry⟩ := FileTree.isFileAt_iff.mp hfile
      obtain ⟨content', hentry'⟩ := hm.within.grows.file _ content hentry
      exact FileTree.isFileAt_iff.mpr ⟨content', hentry'⟩

/-- The module path of a stub, behind a run that has written to a place with these names. -/
theorem resolveModule?_iff (hm : Makes g u v s c entities results) {names : List String}
    (hb : v.walk g.output = .ok (place ++ names)) (h : Text.isIdentifier name = true)
    (hl : v.isFileAt (place ++ names ++ [name ++ ".d.ts"]) = true) :
    v.resolveModule? (place ++ ["handlers"]) ("../generated/" ++ name) =
        some (place ++ names ++ [name ++ ".d.ts"]) ↔
      names = ["generated"] ∧ name ≠ "entities" ∧
        u.isFileAt (place ++ ["generated", name ++ ".ts"]) = false := by
  refine (Stub.resolveModule?_eq_some_iff h hl).trans (and_congr_right fun hnames => ?_)
  have hentry := hm.isFileAt_iff hb h
  rw [hnames, List.append_assoc] at hentry
  rw [← Bool.not_eq_true, ← not_or]
  exact not_congr hentry

end Makes

end Generation

/-! ## Imports and types -/

namespace Stub

/-- A stub with a handler starts with the import of its types. -/
theorem content_of_ne_nil (source : String) {events : List String} (h : events ≠ []) :
    ∃ rest, (file source events).content =
      "import type \x7b " ++ ", ".intercalate (events.map (· ++ "Handler")) ++
        " \x7d from \"" ++ ("../generated/" ++ source) ++ "\";\n" ++ rest := by
  have hne : events.map handlerType ≠ [] := by simpa using h
  refine ⟨"\n" ++ (String.join (events.map constant) ++ exportSection source events), ?_⟩
  show importSection source events ++ _ ++ _ = _
  rw [importSection_eq, importText, if_neg hne]
  simp only [String.append_assoc]
  rfl

end Stub

namespace Import

variable {settings : Settings} {o : CommandLine.ImportOptions} {t : FileTree} {made : Outcome}
  {summary : Generation.Summary}

/-- An import with some settings. -/
def importRun (settings : Settings) (o : CommandLine.ImportOptions) (t : FileTree) : Run :=
  (ofOptions settings o).run t

/-- The generation of the project that has been imported, with the same settings. -/
def generationRun (settings : Settings) (o : CommandLine.ImportOptions) (t : FileTree) :
    Generation.Run :=
  (Generation.ofOptions settings ⟨o.root, none⟩).run (importRun settings o t).tree

/-- Where a generation puts the module of a source. -/
def typesPath (settings : Settings) (root : Path) (source : String) : Path :=
  (root.join ⟨settings.generatedDir⟩).join ⟨source ++ ".d.ts"⟩

/-- The import of a stub and the module that the generation has made for its source. -/
structure Leads (settings : Settings) (o : CommandLine.ImportOptions) (t : FileTree)
    (made : Outcome) (summary : Generation.Summary) (handlers : Location) (source : String)
    (events : List String) : Prop where
  imports : ∃ rest, (Stub.file source events).content =
    "import type \x7b " ++ ", ".intercalate (events.map (· ++ "Handler")) ++
      " \x7d from \"" ++ ("../generated/" ++ source) ++ "\";\n" ++ rest
  written : typesPath settings o.root source ∈ summary.files
  /-- The module path leads to the types in one case only. -/
  types : ∃ s ∈ made.sources, ∃ abi l, s.name = source ∧
    Abi.load (importRun settings o t).tree (s.abiPath o.root) = .ok abi ∧
    (generationRun settings o t).tree.find (typesPath settings o.root source) =
      .ok (l, .file (HandlerTypes.generate source abi).file.content.toUTF8) ∧
    ((generationRun settings o t).tree.resolveModule? handlers ("../generated/" ++ source) =
        some l ↔
      Path.segments ⟨settings.generatedDir⟩ = ["generated"] ∧ source ≠ "entities" ∧
        (importRun settings o t).tree.isFileAt
          (handlers.dropLast ++ ["generated", source ++ ".ts"]) = false)

/-- The handlers of an import are in a directory of the root. -/
theorem exists_handlers {p : Plan} {i : Import} {u : FileTree} {dataSources : List DataSource}
    (hi : IsPlanOf i t dataSources p) (h : Effect.Done t p.effects u) :
    ∃ b, u.walk i.root = .ok b ∧
      u.find (i.root.join ⟨"handlers"⟩) = .ok (b ++ ["handlers"], .directory) := by
  obtain ⟨l, hfind⟩ := FileTree.readBytes_eq_ok.mp (Plan.index_holds hi h)
  have hne := Path.text_join_name_ne_empty p.root Plan.isName_handlersDirectory
  obtain ⟨m, hd⟩ := FileTree.find_directory_of_file hne (by decide) hfind
  obtain ⟨b, hb, -, -, rfl⟩ :=
    (FileTree.walk_join_name Plan.isName_handlersDirectory).mp (FileTree.walk_of_find hd)
  rw [← hi.root]
  exact ⟨b, hb, hd⟩

/-- A stub belongs to a source of the configuration. -/
theorem exists_source_of_stub {p : Plan} {i : Import} {dataSources : List DataSource}
    {source : String} {events : List String} (hi : IsPlanOf i t dataSources p)
    (h : Stub.file source events ∈ p.stubs) : ∃ s ∈ p.config.sources, s.name = source := by
  obtain ⟨d, hd, hfile⟩ := hi.mem_stubs.mp h
  have hname : source = d.name :=
    (String.append_left_inj ".ts").mp (congrArg GeneratedFile.filename hfile)
  exact hi.mem_names.mpr ⟨d, hd, hname.symm⟩

/-- **The import of a stub leads to its types just if they are in `generated`.** An import followed
by a generation leaves a stub that imports from `../generated`, wherever the settings have the
types put. So it finds them if the settings leave that directory as it is, and no other module has
the name of the source there, be it that of the entities or one that was there before. -/
theorem leads_iff (hplain : Path.IsPlain ⟨settings.generatedDir⟩)
    (hi : (importRun settings o t).result = .ok made)
    (hg : (generationRun settings o t).result = .ok summary) :
    ∃ p handlers, ((ofOptions settings o).plan t).result = .ok p ∧
      (generationRun settings o t).tree.find (o.root.join ⟨"handlers"⟩) =
        .ok (handlers, .directory) ∧
      ∀ source events, Stub.file source events ∈ p.stubs → events ≠ [] →
        Leads settings o t made summary handlers source events := by
  obtain ⟨p, hp, hdone, rfl⟩ := done_of_run hi
  obtain ⟨dataSources, hplan⟩ := isPlanOf_plan hp
  have hload : Config.load (importRun settings o t).tree (ofOptions settings o).root =
      .ok p.config := Config.load_of_holds (hplan.root ▸ Plan.config_holds hdone) hplan.admissible
  obtain ⟨entities, results, hm⟩ :=
    Generation.exists_makes (g := .ofOptions settings ⟨o.root, none⟩) hload hg
  -- the root is one place, seen from the handlers and from the output
  obtain ⟨b, hb, hhandlers⟩ := exists_handlers hplan hdone
  obtain ⟨output, houtput, -⟩ := hm.exists_output
  obtain ⟨b', hb', rfl⟩ := FileTree.walk_join_plain hplain houtput
  obtain rfl : b = b' := Except.ok.inj ((hm.within.grows.walk hb).symm.trans hb')
  refine ⟨p, b ++ ["handlers"], hp, hm.within.grows.find_directory hhandlers, ?_⟩
  intro source events hstub hevents
  obtain ⟨s, hs, rfl⟩ := exists_source_of_stub hplan hstub
  obtain ⟨abi, habi, hfind⟩ := hm.find_types houtput hs
  have hwritten : typesPath settings o.root s.name ∈ summary.files :=
    hm.files ▸ List.mem_cons_of_mem _ (List.mem_map_of_mem hs)
  refine ⟨Stub.content_of_ne_nil s.name hevents, hwritten, s, hs, abi, _, rfl, habi, hfind, ?_⟩
  rw [List.dropLast_concat]
  exact hm.resolveModule?_iff houtput (hm.admissible.identifiers s hs)
    (FileTree.isFileAt_of_find hfind)

/-- A project with a contract whose event has a handler. -/
def handledTree : FileTree where
  workingDirectory := []
  entries := [
    (["m"], .file (
      "schema:\n  file: s\ndataSources:\n- name: A\n  source:\n    address: x\n    abi: A\n" ++
      "  mapping:\n    abis:\n    - name: A\n      file: a\n    eventHandlers:\n" ++
      "    - event: E()\n").toUTF8),
    (["s"], .file "type T @entity \x7b id: ID! \x7d".toUTF8),
    (["a"], .file "[\x7b\"type\":\"event\",\"name\":\"E\"\x7d]".toUTF8)]

def handledOptions : CommandLine.ImportOptions := ⟨⟨"."⟩, ⟨"out"⟩, ["m"], none⟩

/-- Types are put into another directory. -/
def otherSettings : Settings := { Settings.standard with generatedDir := "types" }

/-- Whether the project is imported, with its stub, and its types are generated. -/
def handledRuns : Bool :=
  (importRun otherSettings handledOptions handledTree).result.isOk &&
  (generationRun otherSettings handledOptions handledTree).result.isOk &&
  match ((ofOptions otherSettings handledOptions).plan handledTree).result with
  | .ok p => p.stubs = [Stub.file "A" ["E"]]
  | .error _ => false

theorem exists_handled : ∃ p made summary,
    ((ofOptions otherSettings handledOptions).plan handledTree).result = .ok p ∧
    Stub.file "A" ["E"] ∈ p.stubs ∧
    (importRun otherSettings handledOptions handledTree).result = .ok made ∧
    (generationRun otherSettings handledOptions handledTree).result = .ok summary := by
  have h : handledRuns = true := by decide +kernel
  rw [handledRuns, Bool.and_eq_true, Bool.and_eq_true] at h
  obtain ⟨⟨hi, hg⟩, hstub⟩ := h
  cases hp : ((ofOptions otherSettings handledOptions).plan handledTree).result with
  | error fault =>
    rw [hp] at hstub
    cases hstub
  | ok p =>
    rw [hp] at hstub
    obtain ⟨made, hmade⟩ := exists_of_isOk hi
    obtain ⟨summary, hsummary⟩ := exists_of_isOk hg
    exact ⟨p, made, summary, rfl, by simp [of_decide_eq_true hstub], hmade, hsummary⟩

/-- The import of its stub does not lead to its types. -/
theorem not_leads_handled : ∃ made summary handlers l content,
    (importRun otherSettings handledOptions handledTree).result = .ok made ∧
    (generationRun otherSettings handledOptions handledTree).result = .ok summary ∧
    Leads otherSettings handledOptions handledTree made summary handlers "A" ["E"] ∧
    (generationRun otherSettings handledOptions handledTree).tree.find
      (typesPath otherSettings handledOptions.root "A") = .ok (l, .file content) ∧
    (generationRun otherSettings handledOptions handledTree).tree.resolveModule? handlers
      "../generated/A" ≠ some l := by
  obtain ⟨p, made, summary, hp, hmem, hi, hg⟩ := exists_handled
  have hplain : Path.IsPlain ⟨otherSettings.generatedDir⟩ := ⟨by decide, by decide⟩
  obtain ⟨q, handlers, hq, -, hleads⟩ := leads_iff hplain hi hg
  obtain rfl := Except.ok.inj (hp.symm.trans hq)
  have h := hleads "A" ["E"] hmem (by decide)
  obtain ⟨s, -, abi, l, -, -, hfind, hiff⟩ := h.types
  refine ⟨made, summary, handlers, l, _, hi, hg, h, hfind, fun hfound => ?_⟩
  exact absurd (hiff.mp hfound).1 (by decide)

end Import

end IndexerTypes
