import IndexerTypes.Proofs.EntitySchema
import IndexerTypes.Proofs.EntityTypes
import IndexerTypes.Proofs.Sdl.Names
import IndexerTypes.Proofs.TypeScript.Alias
import IndexerTypes.Proofs.TypeScript.FieldType

/-! # Reading a module of entity types

The aliases of the module come in pairs, the instances of an entity and its model, and the last
alias is the map of all models. Read back, the module says of every entity what the schema
says of it: its name and, field by field, the name, whether a value may be absent, and the type
that the field's kind has (`decode_of_read`). -/

namespace IndexerTypes.EntityTypes

open EntitySchema TypeScript

/-! ## The reader -/

/-- A field, as the instances of its entity show it. -/
structure FieldView where
  name : String
  optional : Bool
  type : FieldType
  deriving DecidableEq, Repr

structure EntityView where
  name : String
  fields : List FieldView
  deriving DecidableEq, Repr

/-- What a module says: its entities, and the map from their names to their models. -/
structure ModuleView where
  entities : List EntityView
  models : List Member
  deriving DecidableEq, Repr

def fieldView? (m : Member) : Option FieldView :=
  (readFieldType? m.type.toList).map fun type => ⟨m.name, m.optional, type⟩

def modelAlias (entity : String) : Alias := ⟨modelName entity, modelMembers entity⟩

/-- The entity that has these instances and this model. -/
def entityView? (shape model : Alias) : Option EntityView := do
  let name ← "Instance".toList.isSuffixOf? shape.name.toList
  if model = modelAlias (String.ofList name) then
    pure ⟨String.ofList name, ← shape.members.mapM fieldView?⟩
  else none

def moduleView? : List Alias → Option ModuleView
  | [] => none
  | [models] => if models.name = "entities" then some ⟨[], models.members⟩ else none
  | shape :: model :: rest => do
    let entity ← entityView? shape model
    let view ← moduleView? rest
    pure ⟨entity :: view.entities, view.models⟩

def decode (text : String) : Option ModuleView := (Alias.readModule? text).bind moduleView?

/-! ## What a module should say -/

variable {document : Sdl.Document} {schema : EntitySchema}

/-- The type that fields of a kind have. -/
inductive HasType : FieldKind → FieldType → Prop
  | id : HasType .id (.single (.name "string"))
  | relationship {entity : String} : HasType (.relationship entity) (.single (.name "string"))
  | scalar {name type : String} : (name, type) ∈ TypeTable.scalars →
      HasType (.scalar name) (.single (.name type))
  | enum {values : Sdl.EnumType} : HasType (.enum values) (.single (unionOf values.values))
  | scalarList {name type : String} : (name, type) ∈ TypeTable.scalars →
      HasType (.list (.scalar name)) (.list (.name type) false)
  | enumList {values : Sdl.EnumType} : HasType (.list (.enum values))
      (.list (unionOf values.values) (decide (2 ≤ values.values.length)))

/-- Keys and references are always present, and so is what has the mark. -/
def MayBeAbsent (type : Sdl.TypeRef) (kind : FieldKind) : Prop :=
  type.isNonNull = false ∧ kind ≠ .id ∧ ∀ entity, kind ≠ .relationship entity

structure FieldView.Mirrors (document : Sdl.Document) (field : Sdl.Field) (view : FieldView) :
    Prop where
  name : view.name = field.name
  kind : ∃ kind, HasKind document field.type kind ∧ HasType kind view.type ∧
    (view.optional = true ↔ MayBeAbsent field.type kind)

structure EntityView.Mirrors (document : Sdl.Document) (type : Sdl.ObjectType)
    (view : EntityView) : Prop where
  name : view.name = type.name
  fields : List.Forall₂ (FieldView.Mirrors document) type.fields view.fields

/-! ## Fields -/

theorem mem_scalars {name type : String} (h : TypeTable.scalarType? name = some type) :
    (name, type) ∈ TypeTable.scalars := by
  obtain ⟨before, after, he, -⟩ := List.lookup_eq_some_iff.mp h
  simp [he]

theorem isIdentifier_of_mem_scalars {name type : String} (h : (name, type) ∈ TypeTable.scalars) :
    Text.isIdentifier type = true := by
  have hall : ∀ entry ∈ TypeTable.scalars, Text.isIdentifier entry.2 = true := by decide
  exact hall _ h

theorem isSpelled_fieldType (hd : ∀ d ∈ document, d.Named) {entity type : String}
    {field : Sdl.Field} (h : fieldType entity (resolveField document field) = .ok type) :
    ∃ t : FieldType, t.IsSpelled type ∧ HasType (fieldKind document field.type) t := by
  have hk := hasKind_fieldKind document field.type
  unfold fieldType at h
  simp only [resolveField] at h
  generalize fieldKind document field.type = kind at h hk
  have hstring : Text.isIdentifier "string" = true := by decide
  cases hk with
  | id =>
    obtain rfl := Except.ok.inj h
    exact ⟨_, isSpelled_name hstring, .id⟩
  | relationship =>
    obtain rfl := Except.ok.inj h
    exact ⟨_, isSpelled_name hstring, .relationship⟩
  | enum _ _ he =>
    obtain rfl := Except.ok.inj h
    exact ⟨_, isSpelled_stringUnion (hd _ he.mem), .enum⟩
  | @scalar name =>
    cases ht : TypeTable.scalarType? name with
    | none => simp [ht] at h
    | some found =>
      have hmem := mem_scalars ht
      obtain rfl : found = type := by simpa [ht] using h
      exact ⟨_, isSpelled_name (isIdentifier_of_mem_scalars hmem), .scalar hmem⟩
  | enumList _ _ he =>
    obtain rfl := Except.ok.inj h
    exact ⟨_, isSpelled_arrayOf_stringUnion (hd _ he.mem), .enumList⟩
  | entityList => cases h
  | @scalarList _ name =>
    cases ht : TypeTable.scalarType? name with
    | none => simp [elementType?, ht] at h
    | some found =>
      have hmem := mem_scalars ht
      obtain rfl : arrayOf found = type := by simpa [elementType?, ht] using h
      exact ⟨_, isSpelled_arrayOf_name (isIdentifier_of_mem_scalars hmem), .scalarList hmem⟩
  | nestedList => cases h

theorem not_isRequired_iff {field : Sdl.Field} :
    (!isRequired (resolveField document field)) = true ↔
      MayBeAbsent field.type (fieldKind document field.type) := by
  unfold isRequired MayBeAbsent
  simp only [resolveField]
  generalize fieldKind document field.type = kind
  cases kind <;> simp

theorem mirrors_fieldMember (hd : ∀ d ∈ document, d.Named) {entity : String} {field : Sdl.Field}
    {m : Member} (hf : Text.isIdentifier field.name = true)
    (h : fieldMember entity (resolveField document field) = .ok m) :
    Alias.IsPlain m ∧ ∃ view, fieldView? m = some view ∧ view.Mirrors document field := by
  unfold fieldMember at h
  obtain ⟨type, htype, h⟩ := bind_eq_ok.mp h
  obtain rfl := Except.ok.inj h
  obtain ⟨t, hspelled, ht⟩ := isSpelled_fieldType hd htype
  refine ⟨⟨hf, hspelled.line⟩, ⟨_, _, t⟩, Option.map_eq_some_iff.mpr ⟨t, hspelled.read, rfl⟩, ?_⟩
  exact ⟨rfl, _, hasKind_fieldKind document field.type, ht, not_isRequired_iff⟩

/-! ## Modules -/

/-- An entity of a module: its name and the members of its instances. -/
structure Shape where
  entity : String
  members : List Member

namespace Shape

def aliases (s : Shape) : List Alias :=
  [⟨instanceName s.entity, s.members⟩, modelAlias s.entity]

def model (s : Shape) : Member := .required s.entity (modelName s.entity)

/-- The aliases of the entity can be read, and they show it this way. -/
structure Shows (s : Shape) (view : EntityView) : Prop where
  entity : Text.isIdentifier s.entity = true
  members : ∀ m ∈ s.members, Alias.IsPlain m
  name : view.name = s.entity
  fields : s.members.mapM fieldView? = some view.fields

end Shape

/-- The aliases of a whole module. -/
def moduleAliases (shapes : List Shape) : List Alias :=
  shapes.flatMap Shape.aliases ++ [⟨"entities", shapes.map Shape.model⟩]

variable {shapes : List Shape} {views : List EntityView}

theorem entityView?_aliases {s : Shape} {view : EntityView} (h : s.Shows view) :
    entityView? ⟨instanceName s.entity, s.members⟩ (modelAlias s.entity) = some view := by
  have hname : "Instance".toList.isSuffixOf? (instanceName s.entity).toList =
      some s.entity.toList := by
    rw [instanceName, String.toList_append, Text.isSuffixOf?_append]
  obtain ⟨name, fields⟩ := view
  obtain rfl : name = s.entity := h.name
  rw [entityView?, hname]
  simp [h.fields]

theorem moduleView?_aliases (models : List Member) (h : List.Forall₂ Shape.Shows shapes views) :
    moduleView? (shapes.flatMap Shape.aliases ++ [⟨"entities", models⟩]) =
      some ⟨views, models⟩ := by
  induction h with
  | nil => rfl
  | @cons s view shapes views hview _ ih =>
    show moduleView? (⟨instanceName s.entity, s.members⟩ :: modelAlias s.entity ::
      (shapes.flatMap Shape.aliases ++ [⟨"entities", models⟩])) = _
    rw [moduleView?, entityView?_aliases hview, ih]
    rfl

/-! ## Lines -/

theorem newline_not_mem_name {name : String} (h : Text.isIdentifier name = true) :
    '\n' ∉ name.toList := Text.not_mem_of_isIdentifier h (by decide)

theorem isIdentifier_instanceName {entity : String} (h : Text.isIdentifier entity = true) :
    Text.isIdentifier (instanceName entity) = true := Text.isIdentifier_append h (by decide)

theorem isIdentifier_modelName {entity : String} (h : Text.isIdentifier entity = true) :
    Text.isIdentifier (modelName entity) = true := Text.isIdentifier_append h (by decide)

theorem isReadable_modelAlias {entity : String} (h : Text.isIdentifier entity = true) :
    (modelAlias entity).IsReadable where
  name := isIdentifier_modelName h
  members := by
    have hshape := newline_not_mem_name (isIdentifier_instanceName h)
    intro m hm
    simp only [modelAlias, modelMembers, List.mem_cons, List.not_mem_nil, or_false] at hm
    rcases hm with rfl | rfl | rfl | rfl
    all_goals
      constructor
      · simp only [Member.required]
        decide
      · simp only [Member.required, String.toList_append, List.mem_append, hshape, or_false]
        decide

theorem isReadable_moduleAliases (h : List.Forall₂ Shape.Shows shapes views) :
    ∀ a ∈ moduleAliases shapes, a.IsReadable := by
  have hshows : ∀ s ∈ shapes, ∃ view, s.Shows view := by
    intro s hs
    obtain ⟨view, -, hview⟩ := Pointwise.exists_of_mem_left h hs
    exact ⟨view, hview⟩
  intro a ha
  rcases List.mem_append.mp ha with ha | ha
  · obtain ⟨s, hs, ha⟩ := List.mem_flatMap.mp ha
    obtain ⟨view, hview⟩ := hshows s hs
    simp only [Shape.aliases, List.mem_cons, List.not_mem_nil, or_false] at ha
    rcases ha with rfl | rfl
    · exact ⟨isIdentifier_instanceName hview.entity, hview.members⟩
    · exact isReadable_modelAlias hview.entity
  · obtain rfl := List.mem_singleton.mp ha
    have hname : Text.isIdentifier "entities" = true := by decide
    refine ⟨hname, fun m hm => ?_⟩
    obtain ⟨s, hs, rfl⟩ := List.mem_map.mp hm
    obtain ⟨view, hview⟩ := hshows s hs
    exact ⟨hview.entity, newline_not_mem_name (isIdentifier_modelName hview.entity)⟩

theorem decode_moduleText (h : List.Forall₂ Shape.Shows shapes views) :
    decode (Alias.moduleText (moduleAliases shapes)) =
      some ⟨views, shapes.map Shape.model⟩ := by
  rw [decode, Alias.readModule?_moduleText (isReadable_moduleAliases h)]
  exact moduleView?_aliases _ h

/-! ## Schemas -/

/-- The shape that the entity of an object type has. -/
structure Shape.IsOf (document : Sdl.Document) (type : Sdl.ObjectType) (s : Shape) : Prop where
  entity : s.entity = type.name
  members : (resolveEntity document type).fields.mapM (fieldMember type.name) = .ok s.members

theorem exists_shows (hd : ∀ d ∈ document, d.Named) {type : Sdl.ObjectType}
    (ht : type ∈ entityTypes document) {s : Shape} (hs : s.IsOf document type) :
    ∃ view, s.Shows view ∧ view.Mirrors document type := by
  obtain ⟨hname, hfields⟩ := hd _ (mem_entityTypes.mp ht).1
  have hmembers := mapM_eq_ok.mp hs.members
  obtain ⟨fields, hread, hmirrors⟩ := Pointwise.exists_third
    (S := fun m view => Alias.IsPlain m ∧ fieldView? m = some view)
    (T := FieldView.Mirrors document) (List.forall₂_map_left_iff.mp hmembers) (by
      intro field hf m hm
      obtain ⟨hplain, view, hview, hmirror⟩ := mirrors_fieldMember hd (hfields field hf) hm
      exact ⟨view, ⟨hplain, hview⟩, hmirror⟩)
  refine ⟨⟨s.entity, fields⟩, ⟨hs.entity ▸ hname, fun m hm => ?_, rfl, ?_⟩, hs.entity, hmirrors⟩
  · obtain ⟨view, -, hplain, -⟩ := Pointwise.exists_of_mem_left hread hm
    exact hplain
  · exact Pointwise.mapM_eq_some (hread.imp fun _ _ h => h.2)

/-- The text of the section is that of the aliases of one shape. -/
theorem exists_isOf {type : Sdl.ObjectType} {text : String}
    (h : entitySection (resolveEntity document type) = .ok text) :
    ∃ s : Shape, text = String.join (s.aliases.map fun a => "\n" ++ a.render) ∧
      s.IsOf document type := by
  obtain ⟨members, hm, rfl⟩ := entitySection_eq_ok.mp h
  refine ⟨⟨type.name, members⟩, ?_, rfl, hm⟩
  simp [Shape.aliases, String.join_cons, modelAlias, Alias.render, modelType, resolveEntity,
    String.append_assoc]

theorem join_sections {sections : List String}
    (h : List.Forall₂ (fun text (s : Shape) =>
      text = String.join (s.aliases.map fun a => "\n" ++ a.render)) sections shapes) :
    String.join sections =
      String.join ((shapes.flatMap Shape.aliases).map fun a => "\n" ++ a.render) := by
  induction h with
  | nil => rfl
  | cons he _ ih =>
    rw [String.join_cons, List.flatMap_cons, List.map_append, String.join_append, ← ih, he]

/-- The content of a module is the text of the aliases of its shapes. -/
theorem content_eq_moduleText {sections : List String} (h : String.join sections =
      String.join ((shapes.flatMap Shape.aliases).map fun a => "\n" ++ a.render)) :
    generatedNote ++ "\n" ++ String.join sections ++ "\n" ++
        objectAlias "entities" (shapes.map Shape.model) =
      Alias.moduleText (moduleAliases shapes) := by
  rw [h, Alias.moduleText, moduleAliases, List.map_append, String.join_append]
  simp [Alias.render, String.append_assoc]

/-- **A module of entity types mirrors its schema.** For each entity, in the order of the
document, the text gives back the name and, field by field, the field's name, whether a value may
be absent, and the type of its kind; the map at the end has one key for each entity, which is its
model. -/
theorem decode_of_read {text : String} {f : GeneratedFile}
    (hr : EntitySchema.read text = .ok schema) (hf : file schema = .ok f) :
    ∃ document view, Sdl.read? text = some document ∧ decode f.content = some view ∧
      List.Forall₂ (EntityView.Mirrors document) (entityTypes document) view.entities ∧
      view.models = (entityTypes document).map fun type =>
        .required type.name (type.name ++ "Model") := by
  obtain ⟨document, hdocument, hentities⟩ := document_of_read hr
  have hd := Sdl.named_of_read hdocument
  obtain ⟨sections, hsections, rfl⟩ := file_eq_ok.mp hf
  rw [hentities, mapM_eq_ok, List.forall₂_map_left_iff] at hsections
  obtain ⟨shapes, htexts, hshapes⟩ :=
    Pointwise.exists_third hsections fun type _ text => exists_isOf
  obtain ⟨views, hshows, hmirrors⟩ := Pointwise.exists_third
    hshapes fun type ht s hs => exists_shows hd ht hs
  have hmodels : schema.entities.map modelEntry = shapes.map Shape.model := by
    rw [hentities, List.map_map]
    refine Pointwise.map_eq hshapes fun type s hs => ?_
    simp [modelEntry, Shape.model, resolveEntity, hs.entity]
  have hcontent := content_eq_moduleText (join_sections htexts)
  refine ⟨document, ⟨views, shapes.map Shape.model⟩, hdocument, ?_, hmirrors, ?_⟩
  · rw [hmodels, hcontent]
    exact decode_moduleText hshows
  · rw [← hmodels, hentities, List.map_map]
    rfl

/-- A schema with two entities and an enum. -/
def mirroredText : String :=
  "type A @entity { id: ID! hues: [Hue!] at: Int! to: B } enum Hue { RED BLUE } type B @entity"

def mirroredDocument : Sdl.Document := [
  .object ⟨"A", ["entity"], [⟨"id", .nonNull (.named "ID")⟩,
    ⟨"hues", .list (.nonNull (.named "Hue"))⟩, ⟨"at", .nonNull (.named "Int")⟩,
    ⟨"to", .named "B"⟩]⟩,
  .enum ⟨"Hue", ["RED", "BLUE"]⟩,
  .object ⟨"B", ["entity"], []⟩]

/-- All fields of the one entity are shown, and the other entity, which has none. -/
theorem decode_of_read_mirrored : ∃ schema f view, EntitySchema.read mirroredText = .ok schema ∧
    file schema = .ok f ∧ decode f.content = some view ∧
    (view.entities.map fun entity => (entity.name, entity.fields.map FieldView.name)) =
      [("A", ["id", "hues", "at", "to"]), ("B", [])] ∧
    view.models = [.required "A" "AModel", .required "B" "BModel"] := by
  have hd : Sdl.read? mirroredText = some mirroredDocument := by decide +kernel
  have hr : EntitySchema.read mirroredText = .ok
      ⟨(entityTypes mirroredDocument).map (resolveEntity mirroredDocument)⟩ := by
    unfold EntitySchema.read
    rw [hd]
    rfl
  obtain ⟨f, hf⟩ : ∃ f, file
      ⟨(entityTypes mirroredDocument).map (resolveEntity mirroredDocument)⟩ = .ok f := ⟨_, rfl⟩
  obtain ⟨document, view, hdocument, hview, hentities, hmodels⟩ := decode_of_read hr hf
  obtain rfl := Option.some.inj (hd.symm.trans hdocument)
  have hnames : ∀ (type : Sdl.ObjectType) (entity : EntityView),
      entity.Mirrors mirroredDocument type → (type.name, type.fields.map Sdl.Field.name) =
        (entity.name, entity.fields.map FieldView.name) := by
    intro type entity hm
    rw [hm.name, Pointwise.map_eq hm.fields fun field view hf => hf.name.symm]
  exact ⟨_, f, view, hr, hf, hview, (Pointwise.map_eq hentities hnames).symm, hmodels⟩

end IndexerTypes.EntityTypes
