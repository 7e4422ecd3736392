import IndexerTypes.Manifest.Reader
import IndexerTypes.Proofs.Distinct
import IndexerTypes.Proofs.Except
import IndexerTypes.Proofs.Text.Trim
import Mathlib.Data.List.Induction

/-! # The data sources that a manifest yields

Data sources are taken up one by one, each checked by itself and against the names before
it. So in what a manifest yields, every data source keeps the rules and no name repeats; and
if there is an entry at fault, the manifest is refused for the first one, whatever stands
behind it (`verdict_sources`). -/

namespace IndexerTypes

namespace DataSource

variable {d : DataSource} {v : Yaml.Value} {flaw : Flaw}

/-! ## Single entries -/

/-- The rules for a data source by itself. -/
structure IsSound (d : DataSource) : Prop where
  name : Text.isIdentifier d.name = true
  address : ¬ Text.AllBlank d.address.toList
  events : ∀ e ∈ d.events, Abi.baseName e ≠ ""

/-- The entry can be read, and what is read keeps the rules. -/
def Yields (v : Yaml.Value) (d : DataSource) : Prop := ofValue v = .ok d ∧ d.IsSound

/-- What is wrong with an entry by itself: it cannot be read, or it breaks a rule but none of
those before. -/
inductive Breaks (v : Yaml.Value) : Flaw → Prop
  | mismatch {m : Mismatch} : ofValue v = .error m → Breaks v (.mismatch m)
  | badName {d : DataSource} : ofValue v = .ok d → Text.isIdentifier d.name = false →
      Breaks v (.badName d.name)
  | blankAddress {d : DataSource} : ofValue v = .ok d → Text.isIdentifier d.name = true →
      Text.AllBlank d.address.toList → Breaks v .blankAddress
  | handlerWithoutEvent {d : DataSource} {before after : List String} {e : String} :
      ofValue v = .ok d → Text.isIdentifier d.name = true →
      ¬ Text.AllBlank d.address.toList → d.events = before ++ e :: after →
      (∀ b ∈ before, Abi.baseName b ≠ "") → Abi.baseName e = "" →
      Breaks v (.handlerWithoutEvent before.length)

/-- A data source has the events that its handlers are for. -/
theorem mem_eventNames {name : String} :
    name ∈ d.eventNames ↔ ∃ signature ∈ d.events, Abi.baseName signature = name := by
  have h : name ∈ (Distinct.firsts id (d.events.map Abi.baseName)).map id ↔
      name ∈ (d.events.map Abi.baseName).map id := Distinct.mem_map_firsts
  rwa [List.map_id, List.map_id, List.mem_map] at h

theorem nodup_eventNames (d : DataSource) : d.eventNames.Nodup := by
  have h := Distinct.nodup_firsts id (d.events.map Abi.baseName)
  rwa [List.map_id] at h

theorem IsSound.eventNames (h : d.IsSound) : ∀ name ∈ d.eventNames, name ≠ "" := by
  intro name hname
  obtain ⟨signature, hs, rfl⟩ := mem_eventNames.mp hname
  exact h.events signature hs

theorem isBlankText_iff {s : String} : isBlankText s = true ↔ Text.AllBlank s.toList := by
  rw [isBlankText, List.isEmpty_iff, Text.trim_eq_nil]

/-- An event without a name is found at its position, behind events with names. -/
theorem exists_of_findIdx? {events : List String} {position : Nat}
    (h : (events.findIdx? fun e => (Abi.baseName e).isEmpty) = some position) :
    ∃ before e after, events = before ++ e :: after ∧ position = before.length ∧
      (∀ b ∈ before, Abi.baseName b ≠ "") ∧ Abi.baseName e = "" := by
  obtain ⟨hlt, hempty, hbefore⟩ := List.findIdx?_eq_some_iff_getElem.mp h
  refine ⟨events.take position, events[position], events.drop (position + 1), ?_, ?_, ?_, ?_⟩
  · rw [List.getElem_cons_drop, List.take_append_drop]
  · rw [List.length_take_of_le (Nat.le_of_lt hlt)]
  · intro b hb
    obtain ⟨j, hj, rfl⟩ := List.mem_take_iff_getElem.mp hb
    have hj' := hbefore j (Nat.lt_of_lt_of_le hj (Nat.min_le_left _ _))
    simpa using hj'
  · simpa using hempty

theorem check_eq_ok : d.check = .ok () ↔ d.IsSound := by
  unfold check
  split
  · rename_i hname
    simp only [reduceCtorEq, false_iff]
    exact fun h => by simp [h.name] at hname
  split
  · rename_i haddress
    simp only [reduceCtorEq, false_iff]
    exact fun h => h.address (isBlankText_iff.mp haddress)
  split
  · rename_i position hposition
    obtain ⟨before, e, after, he, -, -, hempty⟩ := exists_of_findIdx? hposition
    simp only [reduceCtorEq, false_iff]
    exact fun h => h.events e (by simp [he]) hempty
  · rename_i hname haddress _ hnone
    rw [List.findIdx?_eq_none_iff] at hnone
    refine iff_of_true rfl ⟨by simpa using hname, fun h => haddress (isBlankText_iff.mpr h), ?_⟩
    exact fun e he => by simpa using hnone e he

theorem breaks_of_check (hv : ofValue v = .ok d) (h : d.check = .error flaw) : Breaks v flaw := by
  unfold check at h
  split at h
  · rename_i hname
    obtain rfl := Except.error.inj h
    exact .badName hv (by simpa using hname)
  split at h
  · rename_i hname haddress
    obtain rfl := Except.error.inj h
    exact .blankAddress hv (by simpa using hname) (isBlankText_iff.mp haddress)
  split at h
  · rename_i hname haddress _ position hposition
    obtain rfl := Except.error.inj h
    obtain ⟨before, e, after, he, rfl, hbefore, hempty⟩ := exists_of_findIdx? hposition
    exact .handlerWithoutEvent hv (by simpa using hname)
      (fun hblank => haddress (isBlankText_iff.mpr hblank)) he hbefore hempty
  · cases h

theorem isIdentifier_of_check (h : d.check = .ok ()) : Text.isIdentifier d.name = true :=
  (check_eq_ok.mp h).name

theorem read_eq_ok : read v = .ok d ↔ Yields v d := by
  unfold read Yields
  rw [← check_eq_ok]
  cases hv : ofValue v with
  | error m => simp
  | ok e =>
    cases hc : e.check with
    | error flaw =>
      simp only [hc, reduceCtorEq, Except.ok.injEq, false_iff, not_and]
      rintro rfl he
      rw [hc] at he
      cases he
    | ok u =>
      simp only [hc, Except.ok.injEq]
      exact ⟨fun he => ⟨he, he ▸ hc⟩, And.left⟩

theorem breaks_of_read (h : read v = .error flaw) : Breaks v flaw := by
  unfold read at h
  split at h
  · rename_i m hm
    obtain rfl := Except.error.inj h
    exact .mismatch hm
  · rename_i d hd
    split at h
    · rename_i found hc
      obtain rfl := Except.error.inj h
      exact breaks_of_check hd hc
    · cases h

end DataSource

namespace Manifest

variable {before after values : List Yaml.Value} {v : Yaml.Value} {i : Nat}
  {accepted more found : List DataSource} {r : Rejection}

/-! ## The check of many entries -/

/-- What the refusal of an entry says: its own flaw, or that its name is taken. -/
inductive Blames (v : Yaml.Value) : String → DataSource.Flaw → Prop
  | flaw {flaw : DataSource.Flaw} : DataSource.Breaks v flaw → Blames v (DataSource.nameIn v) flaw
  | repeatedName {d : DataSource} : DataSource.Yields v d → Blames v d.name .repeatedName

/-- The check of some entries goes on where the check of those before them ends. -/
theorem checkFrom_append :
    checkFrom accepted (before ++ after) =
      checkFrom accepted before >>= fun more => checkFrom more after := by
  induction before generalizing accepted with
  | nil => rfl
  | cons v before ih =>
    rw [List.cons_append, checkFrom, checkFrom]
    split
    · rfl
    · split
      · rfl
      · exact ih

/-- One entry is taken up if it is in order and its name is new. -/
theorem checkFrom_singleton_eq_ok :
    checkFrom accepted [v] = .ok found ↔ ∃ d, DataSource.Yields v d ∧
      (∀ a ∈ accepted, a.name ≠ d.name) ∧ found = accepted ++ [d] := by
  simp only [← DataSource.read_eq_ok]
  rw [checkFrom]
  split
  · rename_i flaw hv
    simp [hv]
  · rename_i d hv
    simp only [hv, Except.ok.injEq, exists_eq_left']
    split
    · rename_i htaken
      simp only [List.any_eq_true, decide_eq_true_eq] at htaken
      obtain ⟨a, ha, hname⟩ := htaken
      simp only [reduceCtorEq, false_iff, not_and]
      exact fun hfresh => absurd hname (hfresh a ha)
    · rename_i hfresh
      simp only [List.any_eq_true, decide_eq_true_eq, not_exists, not_and] at hfresh
      rw [checkFrom, Except.ok.injEq, eq_comm]
      exact ⟨fun he => ⟨hfresh, he⟩, And.right⟩

theorem blames_of_checkFrom_singleton (h : checkFrom accepted [v] = .error r) :
    r.index = accepted.length ∧ Blames v r.name r.flaw := by
  rw [checkFrom] at h
  split at h
  · rename_i flaw hv
    obtain rfl := Except.error.inj h
    exact ⟨rfl, .flaw (DataSource.breaks_of_read hv)⟩
  · rename_i d hv
    split at h
    · obtain rfl := Except.error.inj h
      exact ⟨rfl, .repeatedName (DataSource.read_eq_ok.mp hv)⟩
    · cases h

/-- The check ends with the first entry that is refused. -/
theorem checkFrom_eq_error (h : checkFrom accepted values = .error r) :
    ∃ before v after more, values = before ++ v :: after ∧
      checkFrom accepted before = .ok more ∧ checkFrom more [v] = .error r := by
  induction values generalizing accepted with
  | nil => cases h
  | cons v rest ih =>
    rw [← List.singleton_append, checkFrom_append] at h
    rcases bind_eq_error.mp h with hv | ⟨more, hv, hrest⟩
    · exact ⟨[], v, rest, accepted, rfl, rfl, hv⟩
    · obtain ⟨before, w, after, last, rfl, hbefore, hw⟩ := ih hrest
      refine ⟨v :: before, w, after, last, rfl, ?_, hw⟩
      rw [← List.singleton_append, checkFrom_append, hv]
      exact hbefore

/-! ## What is taken up -/

/-- There is a data source for each of the entries, in their order, and each has a name of its
own. -/
structure Taken (values : List Yaml.Value) (found : List DataSource) : Prop where
  entries : List.Forall₂ DataSource.Yields values found
  distinct : (found.map DataSource.name).Nodup

theorem taken_of_checkFrom (h : checkFrom [] values = .ok found) : Taken values found := by
  induction values using List.reverseRecOn generalizing found with
  | nil =>
    obtain rfl := Except.ok.inj h
    exact ⟨.nil, by simp⟩
  | append_singleton values v ih =>
    rw [checkFrom_append] at h
    obtain ⟨more, hmore, hv⟩ := bind_eq_ok.mp h
    obtain ⟨d, hd, hfresh, rfl⟩ := checkFrom_singleton_eq_ok.mp hv
    have ht := ih hmore
    exact ⟨List.rel_append ht.entries (.cons hd .nil), Distinct.nodup_concat ht.distinct hfresh⟩

/-- Data sources that pass all checks, each under a name of its own. -/
structure Accepted (found : List DataSource) : Prop where
  checked : ∀ d ∈ found, d.check = .ok ()
  distinct : (found.map DataSource.name).Nodup

theorem accepted_of_sources {m : Manifest} (h : m.sources = .ok found) : Accepted found := by
  have ht := taken_of_checkFrom h
  refine ⟨fun d hd => ?_, ht.distinct⟩
  obtain ⟨v, -, -, hsound⟩ := Pointwise.exists_of_mem_right ht.entries hd
  exact DataSource.check_eq_ok.mpr hsound

/-! ## What is refused -/

/-- Both entries can be read, and they have one name. -/
def SameName (v w : Yaml.Value) : Prop :=
  ∃ d e, DataSource.ofValue v = .ok d ∧ DataSource.ofValue w = .ok e ∧ d.name = e.name

/-- The entry at this place is at fault: by itself, or because one before it has its name. -/
def AtFault (values : List Yaml.Value) (i : Nat) : Prop :=
  ∃ v, values[i]? = some v ∧
    ((∀ d, ¬ DataSource.Yields v d) ∨ ∃ j < i, ∃ w, values[j]? = some w ∧ SameName w v)

theorem atFault_append (h : i < before.length) :
    AtFault (before ++ after) i ↔ AtFault before i := by
  have hentry : ∀ j ≤ i, (before ++ after)[j]? = before[j]? := fun j hj =>
    List.getElem?_append_left (Nat.lt_of_le_of_lt hj h)
  unfold AtFault
  rw [hentry i (Nat.le_refl i)]
  refine exists_congr fun v => and_congr .rfl (or_congr .rfl (exists_congr fun j => ?_))
  exact and_congr_right fun hj => by rw [hentry j (Nat.le_of_lt hj)]

theorem atFault_length : AtFault (before ++ v :: after) before.length ↔
    (∀ d, ¬ DataSource.Yields v d) ∨ ∃ w ∈ before, SameName w v := by
  have hv : (before ++ v :: after)[before.length]? = some v := by simp
  unfold AtFault
  simp only [hv, Option.some.injEq, exists_eq_left']
  refine or_congr .rfl ⟨?_, ?_⟩
  · rintro ⟨j, hj, w, hw, hname⟩
    rw [List.getElem?_append_left hj] at hw
    exact ⟨w, List.mem_of_getElem? hw, hname⟩
  · rintro ⟨w, hw, hname⟩
    obtain ⟨j, hj, rfl⟩ := List.getElem_of_mem hw
    exact ⟨j, hj, _, by rw [List.getElem?_append_left hj, List.getElem?_eq_getElem hj], hname⟩

/-- Behind what has been taken up, an entry is at fault just if it is refused. -/
theorem atFault_iff (h : Taken before accepted) :
    AtFault (before ++ v :: after) before.length ↔ ∃ r, checkFrom accepted [v] = .error r := by
  rw [atFault_length]
  constructor
  · intro hfault
    cases hc : checkFrom accepted [v] with
    | error r => exact ⟨r, rfl⟩
    | ok found =>
      obtain ⟨d, hd, hfresh, -⟩ := checkFrom_singleton_eq_ok.mp hc
      rcases hfault with hno | ⟨w, hw, b, e, hb, he, hname⟩
      · exact absurd hd (hno d)
      · obtain ⟨a, ha, hread, -⟩ := Pointwise.exists_of_mem_left h.entries hw
        obtain rfl := Except.ok.inj (hread.symm.trans hb)
        obtain rfl := Except.ok.inj (hd.1.symm.trans he)
        exact absurd hname (hfresh a ha)
  · rintro ⟨r, hr⟩
    by_contra hno
    rw [not_or, not_forall_not] at hno
    obtain ⟨⟨d, hd⟩, hnone⟩ := hno
    have hfresh : ∀ a ∈ accepted, a.name ≠ d.name := by
      intro a ha hname
      obtain ⟨w, hw, hread, -⟩ := Pointwise.exists_of_mem_right h.entries ha
      exact hnone ⟨w, hw, a, d, hread, hd.1, hname⟩
    rw [checkFrom_singleton_eq_ok.mpr ⟨d, hd, hfresh, rfl⟩] at hr
    cases hr

theorem not_atFault_of_checkFrom (h : checkFrom [] values = .ok found) :
    ¬ AtFault values i := by
  intro hfault
  obtain ⟨v, hv, -⟩ := id hfault
  obtain ⟨hi, rfl⟩ := List.getElem?_eq_some_iff.mp hv
  have hsplit : values.take i ++ values[i] :: values.drop (i + 1) = values := by
    rw [List.getElem_cons_drop, List.take_append_drop]
  have hlength : (values.take i).length = i := List.length_take_of_le (Nat.le_of_lt hi)
  rw [← hsplit, checkFrom_append] at h
  obtain ⟨accepted, hbefore, hrest⟩ := bind_eq_ok.mp h
  rw [← List.singleton_append, checkFrom_append] at hrest
  obtain ⟨more, hv, -⟩ := bind_eq_ok.mp hrest
  have hbehind : AtFault (values.take i ++ values[i] :: values.drop (i + 1))
      (values.take i).length := by rwa [hsplit, hlength]
  obtain ⟨r, hr⟩ := (atFault_iff (taken_of_checkFrom hbefore)).mp hbehind
  rw [hv] at hr
  cases hr

/-- The refusal is for the first entry at fault, and says what is wrong with it. What stands
before this entry would have been accepted alone, and what stands behind it does not matter. -/
structure BlamesFirst (m : Manifest) (r : Rejection) : Prop where
  fault : AtFault m.dataSources r.index
  first : ∀ i < r.index, ¬ AtFault m.dataSources i
  blames : ∃ v, m.dataSources[r.index]? = some v ∧ Blames v r.name r.flaw
  accepted : ∃ found, sources ⟨m.schemaFile, m.dataSources.take r.index⟩ = .ok found
  decided : ∀ n : Manifest,
    n.dataSources.take (r.index + 1) = m.dataSources.take (r.index + 1) → n.sources = .error r

theorem blamesFirst_of_sources {m : Manifest} (h : m.sources = .error r) : BlamesFirst m r := by
  obtain ⟨before, v, after, accepted, hm, hbefore, hv⟩ := checkFrom_eq_error h
  have ht := taken_of_checkFrom hbefore
  obtain ⟨hindex, hblames⟩ := blames_of_checkFrom_singleton hv
  rw [← ht.entries.length_eq] at hindex
  have htake : m.dataSources.take r.index = before := by rw [hm, hindex, List.take_left]
  have hnext : m.dataSources.take (r.index + 1) = before ++ [v] := by
    rw [hm, hindex, List.take_length_add_append, List.take_succ_cons, List.take_zero]
  constructor
  case fault => exact hm ▸ hindex ▸ (atFault_iff ht).mpr ⟨r, hv⟩
  case first =>
    intro i hi
    rw [hindex] at hi
    rw [hm, atFault_append hi]
    exact not_atFault_of_checkFrom hbefore
  case blames => exact ⟨v, by simp [hm, hindex], hblames⟩
  case accepted => exact ⟨accepted, htake ▸ hbefore⟩
  case decided =>
    intro n hn
    rw [hnext] at hn
    rw [sources, ← List.take_append_drop (r.index + 1) n.dataSources, hn, checkFrom_append,
      checkFrom_append, hbefore]
    exact bind_eq_error.mpr (.inl hv)

/-- **All data sources of a manifest, or its first entry at fault.** Either no entry is at fault,
and the manifest yields a data source for each of them, in order; or it is refused for the first
one that is, as if the manifest ended there. -/
theorem verdict_sources (m : Manifest) :
    (∃ found, m.sources = .ok found ∧ Taken m.dataSources found ∧
      ∀ i, ¬ AtFault m.dataSources i) ∨
    ∃ r, m.sources = .error r ∧ BlamesFirst m r := by
  cases h : m.sources with
  | ok found =>
    exact .inl ⟨found, rfl, taken_of_checkFrom h, fun i => not_atFault_of_checkFrom h⟩
  | error r => exact .inr ⟨r, rfl, blamesFirst_of_sources h⟩

/-- Two data sources, one with the name of the first, and one that cannot be read. -/
def repeatedText : String :=
  "dataSources:\n" ++
  "- name: A\n  source:\n    address: x\n  mapping:\n    abis: []\n" ++
  "- name: B\n  source:\n    address: x\n  mapping:\n    abis: []\n" ++
  "- name: A\n  source:\n    address: y\n  mapping:\n    abis: []\n" ++
  "- name: C\n"

def refusal? (m : Manifest) : Option (Nat × String) :=
  match m.sources with
  | .ok _ => none
  | .error r => some (r.index, r.message)

/-- It is refused for the third entry. -/
theorem verdict_sources_repeated : ∃ m r, Manifest.read? repeatedText = some m ∧
    m.sources = .error r ∧ BlamesFirst m r ∧ r.index = 2 ∧
    r.message = "Invalid data source #2 (A): duplicate data source name" := by
  have hread : (Manifest.read? repeatedText).map refusal? =
      some (some (2, "Invalid data source #2 (A): duplicate data source name")) := by
    decide +kernel
  obtain ⟨m, hm, hrefused⟩ := Option.map_eq_some_iff.mp hread
  rcases verdict_sources m with ⟨found, hfound, -⟩ | ⟨r, hr, hfirst⟩
  · rw [refusal?, hfound] at hrefused
    cases hrefused
  · rw [refusal?, hr] at hrefused
    obtain ⟨hindex, hmessage⟩ := Prod.mk.inj (Option.some.inj hrefused)
    exact ⟨m, r, hm, hr, hfirst, hindex, hmessage⟩

end Manifest

end IndexerTypes
