import IndexerTypes.Abi.Basic
import IndexerTypes.Proofs.Text.Word
import Mathlib.Data.List.Nodup

/-! # The names of parameters

Every parameter has a name: the one that its declaration gives, or else the one of its position.
Parameters next to each other have different names just if the given names differ and none of them
is the name of a position that has no given one (`nodup_mapIdx_nameAt`). The parameters of an event
are next to each other, and so are the components of each tuple. -/

namespace IndexerTypes.Abi

/-! ## Names of positions -/

theorem nameAt_ne_empty (index : Nat) (name : String) : nameAt index name ≠ "" := by
  unfold nameAt
  split
  · exact fun he => absurd (String.append_eq_empty_iff.mp he).1 (by decide)
  · rename_i hne
    exact fun he => hne (String.isEmpty_iff.mpr he)

theorem nameAt_empty (index : Nat) : nameAt index "" = "param" ++ toString index := rfl

theorem nameAt_of_ne_empty {name : String} (index : Nat) (h : name ≠ "") :
    nameAt index name = name := by
  rw [nameAt, if_neg (fun he => h (String.isEmpty_iff.mp he))]

theorem positional_ne_empty (index : Nat) : "param" ++ toString index ≠ "" :=
  nameAt_ne_empty index ""

/-- At different positions, names are equal if they are given so, or if one of them is given and
the other one is made from its position. -/
theorem nameAt_eq_nameAt {i j : Nat} {a b : String} (hij : i ≠ j) :
    nameAt i a = nameAt j b ↔
      (a ≠ "" ∧ a = b) ∨ (a = "" ∧ b = "param" ++ toString i) ∨
        (b = "" ∧ a = "param" ++ toString j) := by
  rcases eq_or_ne a "" with rfl | ha <;> rcases eq_or_ne b "" with rfl | hb
  · have hpositions : "param" ++ toString i ≠ "param" ++ toString j :=
      fun he => hij ((Text.numbered_inj "param").mp he)
    simp only [nameAt_empty, hpositions, (positional_ne_empty i).symm,
      (positional_ne_empty j).symm, ne_eq, not_true_eq_false, false_and, and_false, or_self]
  · simpa [nameAt_empty, nameAt_of_ne_empty j hb, hb] using eq_comm
  · simp [nameAt_empty, nameAt_of_ne_empty i ha, ha]
  · simp [nameAt_of_ne_empty i ha, nameAt_of_ne_empty j hb, ha, hb]

/-! ## Names next to each other -/

/-- The names that are given differ from each other. -/
def GivenApart (names : List String) : Prop := (names.filter (· ≠ "")).Nodup

/-- A name is missing, and the name of its position is given. -/
def Clashes (names : List String) : Prop :=
  ∃ k : Nat, names[k]? = some "" ∧ "param" ++ toString k ∈ names

instance (names : List String) : Decidable (GivenApart names) :=
  inferInstanceAs (Decidable (names.filter (· ≠ "")).Nodup)

theorem nodup_mapIdx_nameAt (names : List String) :
    (names.mapIdx nameAt).Nodup ↔ GivenApart names ∧ ¬ Clashes names := by
  have hnodup : (names.mapIdx nameAt).Nodup ↔
      ∀ i j (hi : i < names.length) (hj : j < names.length), i < j →
        nameAt i names[i] ≠ nameAt j names[j] := by
    simp [List.Nodup, List.pairwise_iff_getElem]
  have hgiven : GivenApart names ↔
      ∀ i j (hi : i < names.length) (hj : j < names.length), i < j →
        names[i] ≠ "" → names[j] ≠ "" → names[i] ≠ names[j] := by
    rw [GivenApart, List.Nodup, List.pairwise_filter, List.pairwise_iff_getElem]
    simp only [decide_eq_true_eq]
  rw [hnodup, hgiven]
  constructor
  · intro h
    refine ⟨fun i j hi hj hij ha _ he => ?_, ?_⟩
    · exact h i j hi hj hij ((nameAt_eq_nameAt (Nat.ne_of_lt hij)).mpr (.inl ⟨ha, he⟩))
    · rintro ⟨k, hk, hclash⟩
      obtain ⟨hk, hempty⟩ := List.getElem?_eq_some_iff.mp hk
      obtain ⟨j, hj, hname⟩ := List.getElem_of_mem hclash
      have hkj : k ≠ j := by
        rintro rfl
        exact positional_ne_empty k (hname.symm.trans hempty)
      have he := (nameAt_eq_nameAt hkj).mpr (.inr (.inl ⟨hempty, hname⟩))
      -- The given name may stand on either side of the position that it is the name of.
      rcases Nat.lt_or_gt_of_ne hkj with hlt | hlt
      · exact h k j hk hj hlt he
      · exact h j k hj hk hlt he.symm
  · rintro ⟨hgiven, hclash⟩ i j hi hj hij he
    rcases (nameAt_eq_nameAt (Nat.ne_of_lt hij)).mp he with ⟨ha, he⟩ | ⟨ha, hb⟩ | ⟨hb, ha⟩
    · exact hgiven i j hi hj hij ha (he ▸ ha) he
    · exact hclash ⟨i, List.getElem?_eq_some_iff.mpr ⟨hi, ha⟩, hb ▸ List.getElem_mem hj⟩
    · exact hclash ⟨j, List.getElem?_eq_some_iff.mpr ⟨hj, hb⟩, ha ▸ List.getElem_mem hi⟩

/-! ## Levels -/

def Declared.name : Declared → String
  | .mk name _ _ => name

mutual

/-- The components of the tuples in a declaration, at every depth. The components of an array of
tuples are only part of its type. -/
def Declared.tuples : Declared → List (List Declared)
  | .mk _ type components => if type = "tuple" then components :: declaredTuples components else []

def declaredTuples : List Declared → List (List Declared)
  | [] => []
  | d :: rest => d.tuples ++ declaredTuples rest

end

mutual

def Param.tuples : Param → List (List Param)
  | .tuple _ components => components :: paramTuples components
  | .value .. => []

def paramTuples : List Param → List (List Param)
  | [] => []
  | p :: rest => p.tuples ++ paramTuples rest

end

/-- All lists of declarations that stand next to each other. -/
def declaredLevels (declared : List Declared) : List (List Declared) :=
  declared :: declaredTuples declared

def paramLevels (params : List Param) : List (List Param) := params :: paramTuples params

mutual

theorem tuples_ofDeclared : (d : Declared) → (index : Nat) →
    (Param.ofDeclared index d).tuples = d.tuples.map (paramsFrom 0)
  | .mk name type components, index => by
    rw [Param.ofDeclared, Declared.tuples]
    split
    · rw [Param.tuples, paramTuples_paramsFrom components 0, List.map_cons]
    · rw [Param.tuples, List.map_nil]

theorem paramTuples_paramsFrom : (declared : List Declared) → (index : Nat) →
    paramTuples (paramsFrom index declared) = (declaredTuples declared).map (paramsFrom 0)
  | [], _ => by rw [paramsFrom, paramTuples, declaredTuples, List.map_nil]
  | d :: rest, index => by
    rw [paramsFrom, paramTuples, declaredTuples, tuples_ofDeclared d index,
      paramTuples_paramsFrom rest (index + 1), List.map_append]

end

/-- The parameters of each level are numbered from the start. -/
theorem paramLevels_paramsFrom (declared : List Declared) :
    paramLevels (paramsFrom 0 declared) = (declaredLevels declared).map (paramsFrom 0) := by
  rw [paramLevels, declaredLevels, paramTuples_paramsFrom, List.map_cons]

theorem name_ofDeclared (index : Nat) (d : Declared) :
    (Param.ofDeclared index d).name = nameAt index d.name := by
  cases d
  rw [Param.ofDeclared]
  split <;> rfl

theorem map_name_paramsFrom (index : Nat) (declared : List Declared) :
    (paramsFrom index declared).map Param.name =
      (declared.map Declared.name).mapIdx fun k => nameAt (index + k) := by
  induction declared generalizing index with
  | nil => simp [paramsFrom]
  | cons d rest ih =>
    rw [paramsFrom, List.map_cons, List.map_cons, List.mapIdx_cons, ih, name_ofDeclared]
    simp only [Nat.add_zero, Nat.add_assoc, Nat.add_comm 1]

/-- Parameters next to each other have different names just if no given name is there twice and
none is the name of a position without one. -/
theorem nodup_name_paramsFrom (declared : List Declared) :
    ((paramsFrom 0 declared).map Param.name).Nodup ↔
      GivenApart (declared.map Declared.name) ∧ ¬ Clashes (declared.map Declared.name) := by
  rw [map_name_paramsFrom, ← nodup_mapIdx_nameAt]
  simp only [Nat.zero_add]

theorem name_ne_empty_of_mem_paramsFrom {declared : List Declared} {index : Nat} {p : Param}
    (hp : p ∈ paramsFrom index declared) : p.name ≠ "" := by
  have hname := List.mem_map_of_mem (f := Param.name) hp
  rw [map_name_paramsFrom, List.mem_mapIdx] at hname
  obtain ⟨k, hk, he⟩ := hname
  exact he ▸ nameAt_ne_empty _ _

end IndexerTypes.Abi
