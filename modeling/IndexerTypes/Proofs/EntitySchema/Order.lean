import IndexerTypes.Proofs.Distinct
import IndexerTypes.Proofs.EntitySchema
import Mathlib.Data.List.Forall2
import Mathlib.Data.List.Perm.Basic

/-! # The order of definitions

What a type name stands for is asked of all enums and all entities of a document. Two documents
that give the same answers resolve their fields alike (`Agrees`), and the answers depend neither
on the order of the definitions, if no two enums have one name, nor on any other definition. So a
schema is the same in every order, and what its fields refer to is in it or in the document
(`settled_ofDocument`). -/

namespace IndexerTypes.EntitySchema

variable {document other : Sdl.Document} {schema : EntitySchema} {name : String}

/-- No two enums have one name. -/
def EnumsDiffer (document : Sdl.Document) : Prop :=
  ((document.filterMap enumType?).map Sdl.EnumType.name).Nodup

/-- No two entities have one name. -/
def EntitiesDiffer (document : Sdl.Document) : Prop :=
  ((entityTypes document).map Sdl.ObjectType.name).Nodup

instance (document : Sdl.Document) : Decidable (EnumsDiffer document) :=
  inferInstanceAs (Decidable (List.Nodup _))

/-! ## Which documents are refused -/

theorem firstRepeated?_eq_none {seen names : List String} :
    firstRepeated? seen names = none ↔ names.Nodup ∧ ∀ name ∈ names, name ∉ seen := by
  induction names generalizing seen with
  | nil => simp [firstRepeated?]
  | cons name rest ih =>
    rw [firstRepeated?, List.nodup_cons, List.forall_mem_cons]
    split
    · rename_i hseen
      have hmem : name ∈ seen := List.contains_iff_mem.mp hseen
      simp [hmem]
    · rename_i hseen
      have hnew : name ∉ seen := fun hmem => hseen (List.contains_iff_mem.mpr hmem)
      simp only [ih, List.mem_cons, not_or]
      constructor
      · intro h
        refine ⟨⟨fun hrest => (h.2 name hrest).1 rfl, h.1⟩, hnew, ?_⟩
        exact fun later hlater => (h.2 later hlater).2
      · intro h
        refine ⟨h.1.2, fun later hlater => ⟨?_, h.2.2 later hlater⟩⟩
        intro he
        exact h.1.1 (he ▸ hlater)

theorem ofDocument_eq_ok : ofDocument document = .ok schema ↔
    EntitiesDiffer document ∧
      schema = ⟨(entityTypes document).map (resolveEntity document)⟩ := by
  have hdiffer : firstRepeated? [] ((entityTypes document).map Sdl.ObjectType.name) = none ↔
      EntitiesDiffer document := by
    rw [firstRepeated?_eq_none]
    simp [EntitiesDiffer]
  unfold ofDocument
  split
  · rename_i name hname
    rw [hname] at hdiffer
    simpa using fun hd => absurd (hdiffer.mpr hd) (by simp)
  · rename_i hnone
    simp only [Except.ok.injEq, eq_comm, hdiffer.mp hnone, true_and]

theorem exists_ofDocument : (∃ schema, ofDocument document = .ok schema) ↔
    EntitiesDiffer document := by
  simp only [ofDocument_eq_ok, exists_and_left, exists_eq, and_true]

/-- A document is only refused for a name that two entities have. -/
theorem exists_duplicate : (∃ name, ofDocument document = .error (.duplicateEntity name)) ↔
    ¬ EntitiesDiffer document := by
  rw [← exists_ofDocument]
  unfold ofDocument
  split <;> simp

/-! ## Documents that say the same -/

/-- Every name means the same enum and is an entity in both or in none. -/
structure Agrees (document other : Sdl.Document) : Prop where
  enums : ∀ name, enumNamed? document name = enumNamed? other name
  entities : ∀ name, isEntityName document name = isEntityName other name

namespace Agrees

theorem fieldKind_eq (h : Agrees document other) (type : Sdl.TypeRef) :
    fieldKind document type = fieldKind other type := by
  have hnamed : namedKind document = namedKind other := by
    funext name
    simp only [namedKind, h.enums, h.entities]
  have hlist : listElement document = listElement other := by
    funext element
    simp only [listElement, h.enums, h.entities]
  rw [fieldKind, fieldKind, hnamed, hlist]

theorem resolveEntity_eq (h : Agrees document other) :
    resolveEntity document = resolveEntity other := by
  have hfield : resolveField document = resolveField other := by
    funext field
    simp only [resolveField, h.fieldKind_eq]
  funext type
  rw [resolveEntity, resolveEntity, hfield]

end Agrees

theorem isEntityName_of_perm (h : (entityTypes document).Perm (entityTypes other)) :
    isEntityName document name = isEntityName other name := by
  unfold isEntityName
  exact h.any_eq

/-- Of enums with different names, the last one with a name is the only one. -/
theorem enumNamed?_of_perm (hd : EnumsDiffer document) (h : document.Perm other) :
    enumNamed? document name = enumNamed? other name := by
  have hback : ∀ l : List Sdl.EnumType, l.reverse.Perm l := List.reverse_perm
  have hperm : (document.filterMap enumType?).reverse.Perm (other.filterMap enumType?).reverse :=
    (hback _).trans ((h.filterMap enumType?).trans (hback _).symm)
  have hnodup : ((document.filterMap enumType?).reverse.map Sdl.EnumType.name).Nodup :=
    ((hback _).map _).nodup_iff.mpr hd
  exact Distinct.find?_of_perm hnodup hperm name

theorem agrees_of_perm (hd : EnumsDiffer document) (h : document.Perm other) :
    Agrees document other where
  enums _ := enumNamed?_of_perm hd h
  entities _ := isEntityName_of_perm (h.filterMap entityType?)

theorem entitiesDiffer_of_perm (h : document.Perm other) :
    EntitiesDiffer document ↔ EntitiesDiffer other :=
  ((h.filterMap entityType?).map Sdl.ObjectType.name).nodup_iff

/-! ## Definitions that are not read -/

/-- Only enums and entities are read. -/
def isRead : Sdl.Definition → Bool
  | .object type => isEntity type
  | .enum _ => true
  | .other => false

theorem entityTypes_filter : entityTypes (document.filter isRead) = entityTypes document := by
  unfold entityTypes
  rw [List.filterMap_filter]
  refine List.filterMap_congr fun definition _ => ?_
  cases definition with
  | object type => cases h : isEntity type <;> simp [isRead, entityType?, h]
  | enum type => rfl
  | other => rfl

theorem enumTypes_filter :
    (document.filter isRead).filterMap enumType? = document.filterMap enumType? := by
  rw [List.filterMap_filter]
  refine List.filterMap_congr fun definition _ => ?_
  cases definition with
  | object type => exact ite_self none
  | enum type => rfl
  | other => rfl

theorem ofDocument_filter : ofDocument (document.filter isRead) = ofDocument document := by
  have hagrees : Agrees (document.filter isRead) document := by
    constructor
    · intro name
      rw [enumNamed?, enumNamed?, enumTypes_filter]
    · intro name
      rw [isEntityName, isEntityName, entityTypes_filter]
  rw [ofDocument, ofDocument, entityTypes_filter, hagrees.resolveEntity_eq]

/-! ## References -/

/-- The document has this enum, and no other one of its name. -/
structure IsTheEnum (document : Sdl.Document) (type : Sdl.EnumType) : Prop where
  mem : .enum type ∈ document
  only : ∀ second, .enum second ∈ document → second.name = type.name → second = type

/-- What a kind refers to is there, and a scalar is nothing that is there. -/
inductive Refers (document : Sdl.Document) (schema : EntitySchema) : FieldKind → Prop
  | id : Refers document schema .id
  | scalar {name : String} : ¬ DefinesEnum document name → ¬ DefinesEntity document name →
      Refers document schema (.scalar name)
  | enum {type : Sdl.EnumType} : IsTheEnum document type → Refers document schema (.enum type)
  | relationship {target : Entity} : target ∈ schema.entities →
      Refers document schema (.relationship target.name)
  | scalarList {name : String} : ¬ DefinesEnum document name → ¬ DefinesEntity document name →
      Refers document schema (.list (.scalar name))
  | enumList {type : Sdl.EnumType} : IsTheEnum document type →
      Refers document schema (.list (.enum type))
  | unsupported {type : String} : Refers document schema (.list (.unsupported type))

/-- What the schema says of a field of the document. -/
structure Resolved (document : Sdl.Document) (schema : EntitySchema) (field : Sdl.Field)
    (resolved : EntityField) : Prop where
  name : resolved.name = field.name
  notNull : resolved.notNull = field.type.isNonNull
  kind : HasKind document field.type resolved.kind
  refers : Refers document schema resolved.kind

theorem isTheEnum (hd : EnumsDiffer document) {type : Sdl.EnumType}
    (h : IsEnum document name type) : IsTheEnum document type := by
  refine ⟨h.mem, fun second hsecond hname => ?_⟩
  exact List.inj_on_of_nodup_map hd (mem_enumTypes.mpr hsecond) (mem_enumTypes.mpr h.mem) hname

/-- Entities are in the schema, under their names. -/
theorem exists_entity (hs : ofDocument document = .ok schema)
    (h : DefinesEntity document name) : ∃ target ∈ schema.entities, target.name = name := by
  obtain ⟨type, htype, hentity, rfl⟩ := h
  obtain ⟨-, rfl⟩ := ofDocument_eq_ok.mp hs
  exact ⟨_, List.mem_map_of_mem (mem_entityTypes.mpr ⟨htype, hentity⟩), rfl⟩

theorem refers_of_hasKind (hd : EnumsDiffer document) (hs : ofDocument document = .ok schema)
    {type : Sdl.TypeRef} {kind : FieldKind} (h : HasKind document type kind) :
    Refers document schema kind := by
  cases h with
  | id _ => exact .id
  | enum _ _ he => exact .enum (isTheEnum hd he)
  | relationship _ _ _ hentity =>
    obtain ⟨target, htarget, rfl⟩ := exists_entity hs hentity
    exact .relationship htarget
  | scalar _ _ hno hnone => exact .scalar hno hnone
  | enumList _ _ he => exact .enumList (isTheEnum hd he)
  | entityList _ _ _ _ => exact .unsupported
  | scalarList _ _ hno hnone => exact .scalarList hno hnone
  | nestedList _ _ => exact .unsupported

theorem resolved_resolveField (hd : EnumsDiffer document) (hs : ofDocument document = .ok schema)
    (field : Sdl.Field) : Resolved document schema field (resolveField document field) := by
  have hkind := hasKind_fieldKind document field.type
  exact ⟨rfl, rfl, hkind, refers_of_hasKind hd hs hkind⟩

/-! ## Schemas -/

/-- The entities of two schemas are the same ones, each in the place of its definition. -/
structure Reordered (document other : Sdl.Document) (schema reordered : EntitySchema) :
    Prop where
  here : schema.entities = (entityTypes document).map (resolveEntity document)
  there : reordered.entities = (entityTypes other).map (resolveEntity document)
  perm : schema.entities.Perm reordered.entities
  entity : ∀ name, schema.entity? name = reordered.entity? name

theorem reordered_of_perm (hd : EnumsDiffer document) (h : document.Perm other)
    {reordered : EntitySchema} (hs : ofDocument document = .ok schema)
    (hr : ofDocument other = .ok reordered) : Reordered document other schema reordered := by
  obtain ⟨hdiffer, rfl⟩ := ofDocument_eq_ok.mp hs
  obtain ⟨-, rfl⟩ := ofDocument_eq_ok.mp hr
  have hsame := (agrees_of_perm hd h).resolveEntity_eq
  have hperm : ((entityTypes document).map (resolveEntity document)).Perm
      ((entityTypes other).map (resolveEntity other)) := by
    rw [hsame]
    exact (h.filterMap entityType?).map _
  have hnames : (((entityTypes document).map (resolveEntity document)).map Entity.name).Nodup := by
    rw [List.map_map]
    exact hdiffer
  exact ⟨rfl, by rw [hsame], hperm, Distinct.find?_of_perm hnames hperm⟩

/-- What the definitions of a document settle, in whatever order they stand. -/
structure Settled (document : Sdl.Document) : Prop where
  accepted : (∃ schema, ofDocument document = .ok schema) ↔ EntitiesDiffer document
  refused : (∃ name, ofDocument document = .error (.duplicateEntity name)) ↔
    ¬ EntitiesDiffer document
  /-- Each order of the definitions is accepted if one is, -/
  orders : ∀ other, document.Perm other →
    ((∃ schema, ofDocument document = .ok schema) ↔ ∃ schema, ofDocument other = .ok schema)
  /-- and gives the same entities. -/
  reordered : ∀ other, document.Perm other → ∀ schema reordered,
    ofDocument document = .ok schema → ofDocument other = .ok reordered →
      Reordered document other schema reordered
  /-- Definitions that are neither enums nor entities can be put in and left out. -/
  unread : ∀ other : Sdl.Document, other.filter isRead = document.filter isRead →
    ofDocument other = ofDocument document
  /-- No reference is left dangling. -/
  closed : ∀ schema, ofDocument document = .ok schema →
    List.Forall₂ (fun type entity => entity.name = type.name ∧
      List.Forall₂ (Resolved document schema) type.fields entity.fields)
      (entityTypes document) schema.entities

/-- **A schema does not depend on the order of definitions.** If no two enums of a document have
one name, then every order of its definitions gives the same entities, or is refused because two
of them have one name; definitions of other sorts do not matter; and whatever a field refers to is
an entity of the schema or the only enum of its name. -/
theorem settled_ofDocument (hd : EnumsDiffer document) : Settled document where
  accepted := exists_ofDocument
  refused := exists_duplicate
  orders other h := by
    rw [exists_ofDocument, exists_ofDocument]
    exact entitiesDiffer_of_perm h
  reordered other h schema reordered hs hr := reordered_of_perm hd h hs hr
  unread other h := by
    rw [← ofDocument_filter, h, ofDocument_filter]
  closed schema hs := by
    obtain ⟨-, he⟩ := ofDocument_eq_ok.mp hs
    rw [he]
    rw [List.forall₂_map_right_iff, List.forall₂_same]
    refine fun type _ => ⟨rfl, ?_⟩
    show List.Forall₂ _ type.fields (type.fields.map (resolveField document))
    rw [List.forall₂_map_right_iff, List.forall₂_same]
    exact fun field _ => he ▸ resolved_resolveField hd hs field

/-- Entities that use what is defined behind them, and a name that is an enum and an entity. -/
def entangled : Sdl.Document := [
  .object ⟨"A", ["entity"], [⟨"hue", .named "Hue"⟩, ⟨"to", .nonNull (.named "B")⟩]⟩,
  .other,
  .object ⟨"Hue", ["entity"], [⟨"all", .list (.named "A")⟩]⟩,
  .enum ⟨"Hue", ["RED"]⟩,
  .object ⟨"B", ["entity"], [⟨"at", .named "Date"⟩]⟩]

/-- Backwards, and without what is not read, it says the same. -/
theorem settled_ofDocument_entangled : EnumsDiffer entangled ∧
    ∃ schema reordered, ofDocument entangled = .ok schema ∧
      ofDocument (entangled.reverse.filter isRead) = .ok reordered ∧
      (∀ name, schema.entity? name = reordered.entity? name) ∧
      schema.entities.map Entity.name = ["A", "Hue", "B"] ∧
      reordered.entities.map Entity.name = ["B", "Hue", "A"] := by
  have hd : EnumsDiffer entangled := by decide
  have hback : EnumsDiffer entangled.reverse := by decide
  have hsettled := settled_ofDocument hd
  have hperm : entangled.Perm entangled.reverse := (List.reverse_perm entangled).symm
  have hunread : ofDocument (entangled.reverse.filter isRead) = ofDocument entangled.reverse :=
    (settled_ofDocument hback).unread _ (by decide)
  have hs : ofDocument entangled =
      .ok ⟨(entityTypes entangled).map (resolveEntity entangled)⟩ := rfl
  have hr : ofDocument entangled.reverse =
      .ok ⟨(entityTypes entangled.reverse).map (resolveEntity entangled.reverse)⟩ := rfl
  exact ⟨hd, _, _, hs, hunread.trans hr, (hsettled.reordered _ hperm _ _ hs hr).entity, rfl, rfl⟩

end IndexerTypes.EntitySchema
