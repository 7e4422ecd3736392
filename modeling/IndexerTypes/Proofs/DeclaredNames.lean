import IndexerTypes.Proofs.EntitySchema.Order
import IndexerTypes.Proofs.EntityTypes.Reading
import IndexerTypes.Proofs.Stub
import IndexerTypes.Proofs.Text.Ending

/-! # The names that generated modules declare

A declaration module names its types after events and the set of handlers after the source, and it
imports types under names of their own; the module of entity types names types after entities. The
endings of the names keep the types of one event or entity apart from each other, from the last
declaration and from what is imported. Events are declared once a name, and the entities of a schema
have different names, so no name is declared twice (`nodup_declared`). -/

namespace IndexerTypes

namespace HandlerTypes

open Abi

/-- What a declaration module imports, by name. -/
def importedNames : List String :=
  (imports ++ [contextImport]).flatMap TypeScript.ModuleImport.names

theorem names_exports (source : String) (events : List Event) :
    (exports source events).map Export.name =
      ((keys events).flatMap fun key => [key ++ "Event", key ++ "Handler"]) ++
        [source ++ "Handlers"] := by
  rw [exports, blockExports, keys, List.map_append, List.map_flatMap, List.flatMap_map]
  rfl

theorem nodup_exports (source : String) (events : List Event) :
    ((exports source events).map Export.name).Nodup := by
  have hkeys : (keys events).Nodup := Distinct.nodup_firsts eventKey events
  have hends : ∀ name second : String, name ++ "Event" ≠ second ++ "Handler" :=
    Text.append_ne_append (by decide) (by decide)
  have htypes := Text.nodup_flatMap_endings hkeys hends
  rw [names_exports, List.nodup_append]
  refine ⟨htypes, List.nodup_singleton _, ?_⟩
  intro type htype set hset
  obtain ⟨key, -, htype⟩ := List.mem_flatMap.mp htype
  simp only [List.mem_cons, List.not_mem_nil, or_false] at htype hset
  rw [hset]
  rcases htype with rfl | rfl
  · exact Text.append_ne_append (by decide) (by decide) key source
  · exact Text.append_ne_append (by decide) (by decide) key source

/-- No ending of a declared name is the ending of an imported one. -/
theorem export_ne_imported {source : String} {events : List Event} {name : String}
    (h : name ∈ (exports source events).map Export.name) : name ∉ importedNames := by
  have hends : ∀ ending ∈ ["Event", "Handler", "Handlers"], ∀ imported ∈ importedNames,
      ¬ ending.toList <:+ imported.toList := by decide
  have hformed : ∃ start, ∃ ending ∈ ["Event", "Handler", "Handlers"], name = start ++ ending := by
    rw [names_exports] at h
    rcases List.mem_append.mp h with h | h
    · obtain ⟨key, -, h⟩ := List.mem_flatMap.mp h
      simp only [List.mem_cons, List.not_mem_nil, or_false] at h
      rcases h with rfl | rfl
      · exact ⟨key, "Event", by simp, rfl⟩
      · exact ⟨key, "Handler", by simp, rfl⟩
    · exact ⟨source, "Handlers", by simp, List.mem_singleton.mp h⟩
  obtain ⟨start, ending, hending, rfl⟩ := hformed
  intro himported
  exact Text.append_ne (hends ending hending _ himported) start rfl

/-- The names in the text of a declaration module. -/
structure NamesTypes (source : String) (events : List Event) (text : String) : Prop where
  text : text = header ++ "\n" ++ String.join ((blockExports events).map Export.render) ++
    gap (keys events) ++ (setExport source (keys events)).render
  declared : (exports source events).map Export.name =
    ((keys events).flatMap fun key => [key ++ "Event", key ++ "Handler"]) ++ [source ++ "Handlers"]
  imported : importedNames = ["Block", "EventLog", "Transaction", "BigNumber", "Bytes", "Context"]
  distinct : ((exports source events).map Export.name ++ importedNames).Nodup

theorem namesTypes_generate (source : String) (events : List Event) :
    NamesTypes source events (generate source events).file.content where
  text := by rw [content_exports, header_eq]
  declared := names_exports source events
  imported := rfl
  distinct := by
    have himported : importedNames.Nodup := by decide
    refine List.nodup_append.mpr ⟨nodup_exports source events, himported, ?_⟩
    exact fun name hname other hother he => export_ne_imported hname (he ▸ hother)

end HandlerTypes

namespace EntityTypes

open EntitySchema TypeScript

variable {document : Sdl.Document} {schema : EntitySchema} {shapes : List Shape}

theorem names_moduleAliases : (moduleAliases shapes).map Alias.name =
    ((shapes.map Shape.entity).flatMap fun name => [name ++ "Instance", name ++ "Model"]) ++
      ["entities"] := by
  rw [moduleAliases, List.map_append, List.map_flatMap, List.flatMap_map]
  rfl

theorem nodup_moduleAliases (h : (shapes.map Shape.entity).Nodup) :
    ((moduleAliases shapes).map Alias.name).Nodup := by
  have hends : ∀ name second : String, name ++ "Instance" ≠ second ++ "Model" :=
    Text.append_ne_append (by decide) (by decide)
  have htypes := Text.nodup_flatMap_endings h hends
  rw [names_moduleAliases, List.nodup_append]
  refine ⟨htypes, List.nodup_singleton _, ?_⟩
  intro type htype last hlast
  obtain ⟨name, -, htype⟩ := List.mem_flatMap.mp htype
  simp only [List.mem_cons, List.not_mem_nil, or_false] at htype hlast
  rw [hlast]
  rcases htype with rfl | rfl
  · exact Text.append_ne (by decide) name
  · exact Text.append_ne (by decide) name

/-- Different entities of a document have different names in its schema. -/
theorem nodup_names_of_read {text : String} (h : EntitySchema.read text = .ok schema) :
    (schema.entities.map Entity.name).Nodup := by
  unfold EntitySchema.read at h
  split at h
  · cases h
  · obtain ⟨hdiffer, rfl⟩ := ofDocument_eq_ok.mp h
    rw [List.map_map]
    exact hdiffer

/-- The content of a module is read as the aliases of its entities. -/
theorem readModule?_file {text : String} {f : GeneratedFile}
    (hr : EntitySchema.read text = .ok schema) (hf : file schema = .ok f) :
    ∃ shapes : List Shape, Alias.readModule? f.content = some (moduleAliases shapes) ∧
      shapes.map Shape.entity = schema.entities.map Entity.name := by
  obtain ⟨document, hdocument, hentities⟩ := document_of_read hr
  obtain ⟨sections, hsections, rfl⟩ := file_eq_ok.mp hf
  rw [hentities, mapM_eq_ok, List.forall₂_map_left_iff] at hsections
  obtain ⟨shapes, htexts, hshapes⟩ :=
    Pointwise.exists_third hsections fun type _ text => exists_isOf
  obtain ⟨views, hshows, -⟩ := Pointwise.exists_third hshapes fun type ht s hs =>
    exists_shows (Sdl.named_of_read hdocument) ht hs
  have hnames : (entityTypes document).map Sdl.ObjectType.name = shapes.map Shape.entity :=
    Pointwise.map_eq hshapes fun type s hs => hs.entity.symm
  have hmodels : schema.entities.map modelEntry = shapes.map Shape.model := by
    rw [hentities, List.map_map]
    refine Pointwise.map_eq hshapes fun type s hs => ?_
    simp [modelEntry, Shape.model, resolveEntity, hs.entity]
  refine ⟨shapes, ?_, ?_⟩
  · rw [hmodels, content_eq_moduleText (join_sections htexts)]
    exact Alias.readModule?_moduleText (isReadable_moduleAliases hshows)
  · rw [← hnames, hentities, List.map_map]
    rfl

/-- The names in the text of a module of entity types, where the reader finds them. -/
structure NamesAliases (schema : EntitySchema) (text : String) (aliases : List Alias) :
    Prop where
  read : Alias.readModule? text = some aliases
  declared : aliases.map Alias.name = ((schema.entities.map Entity.name).flatMap
    fun name => [name ++ "Instance", name ++ "Model"]) ++ ["entities"]
  distinct : (aliases.map Alias.name).Nodup

end EntityTypes

/-- **No generated module declares a name twice.** The payloads and the handlers of a declaration
module, the set of the handlers and the imported types have different names, whatever the source
and its events are called; and so have the instances and the models of a module of entity types
and their map. -/
theorem nodup_declared :
    (∀ source events, HandlerTypes.NamesTypes source events
      (HandlerTypes.generate source events).file.content) ∧
    ∀ text schema f, EntitySchema.read text = .ok schema → EntityTypes.file schema = .ok f →
      ∃ aliases, EntityTypes.NamesAliases schema f.content aliases := by
  refine ⟨HandlerTypes.namesTypes_generate, ?_⟩
  intro text schema f hr hf
  obtain ⟨shapes, hread, hnames⟩ := EntityTypes.readModule?_file hr hf
  refine ⟨EntityTypes.moduleAliases shapes, hread, ?_, ?_⟩
  · rw [EntityTypes.names_moduleAliases, hnames]
  · exact EntityTypes.nodup_moduleAliases (hnames ▸ EntityTypes.nodup_names_of_read hr)

/-- Entities with names that other declarations could have. -/
def confusableText : String :=
  "type A @entity { id: ID! } type AInstance @entity { a: A } type entities @entity"

def confusableDocument : Sdl.Document := [
  .object ⟨"A", ["entity"], [⟨"id", .nonNull (.named "ID")⟩]⟩,
  .object ⟨"AInstance", ["entity"], [⟨"a", .named "A"⟩]⟩,
  .object ⟨"entities", ["entity"], []⟩]

/-- Their module still has seven names. -/
theorem nodup_declared_confusable : ∃ schema f aliases,
    EntitySchema.read confusableText = .ok schema ∧ EntityTypes.file schema = .ok f ∧
    EntityTypes.NamesAliases schema f.content aliases ∧
    aliases.map TypeScript.Alias.name = ["AInstance", "AModel", "AInstanceInstance",
      "AInstanceModel", "entitiesInstance", "entitiesModel", "entities"] := by
  have hd : Sdl.read? confusableText = some confusableDocument := by decide +kernel
  have hr : EntitySchema.read confusableText = EntitySchema.ofDocument confusableDocument := by
    unfold EntitySchema.read
    rw [hd]
  obtain ⟨schema, hs⟩ : ∃ schema, EntitySchema.ofDocument confusableDocument = .ok schema :=
    ⟨_, rfl⟩
  obtain ⟨f, hf⟩ : ∃ f, EntityTypes.file schema = .ok f := by
    obtain ⟨-, rfl⟩ := EntitySchema.ofDocument_eq_ok.mp hs
    exact ⟨_, rfl⟩
  obtain ⟨aliases, haliases⟩ := nodup_declared.2 confusableText schema f (hr.trans hs) hf
  refine ⟨schema, f, aliases, hr.trans hs, hf, haliases, ?_⟩
  obtain ⟨-, rfl⟩ := EntitySchema.ofDocument_eq_ok.mp hs
  exact haliases.declared

end IndexerTypes
