import IndexerTypes.Config.Basic
import IndexerTypes.Proofs.Distinct

/-! # Which configurations are in order

The check goes through the sources and compares each with those before it. It accepts just
the configurations whose source names are distinct identifiers and whose networks are
declared, and otherwise it blames the first source that is not in order. -/

namespace IndexerTypes.Config

variable {networks : List Network} {earlier : List Source} {s : Source}

/-- Source names are distinct identifiers, and every network is declared unless none is. -/
structure Admissible (c : Config) : Prop where
  identifiers : ∀ s ∈ c.sources, Text.isIdentifier s.name = true
  distinct : (c.sources.map Source.name).Nodup
  declared : c.networks ≠ [] → ∀ s ∈ c.sources, ∃ n ∈ c.networks, n.name = s.network

/-- The rule that a source breaks, seen from the sources before it. -/
inductive Breaks (networks : List Network) (earlier : List Source) (s : Source) : Flaw → Prop
  | badName : Text.isIdentifier s.name = false → Breaks networks earlier s (.badName s.name)
  | repeatedName : Text.isIdentifier s.name = true → (∃ e ∈ earlier, e.name = s.name) →
      Breaks networks earlier s (.repeatedName s.name)
  | undeclaredNetwork : Text.isIdentifier s.name = true → (∀ e ∈ earlier, e.name ≠ s.name) →
      networks ≠ [] → (∀ n ∈ networks, n.name ≠ s.network) →
      Breaks networks earlier s (.undeclaredNetwork s.name s.network)

/-- The flaw is that of the first source that is not in order. -/
def FirstFlaw (c : Config) (flaw : Flaw) : Prop :=
  ∃ before s after, c.sources = before ++ s :: after ∧
    Admissible ⟨c.networks, before⟩ ∧ Breaks c.networks before s flaw

theorem isDeclared_iff {name : String} :
    isDeclared networks name = true ↔ (networks ≠ [] → ∃ n ∈ networks, n.name = name) := by
  cases networks <;> simp [isDeclared]

theorem checkSource_eq_ok :
    checkSource networks earlier s = .ok () ↔ Text.isIdentifier s.name = true ∧
      (∀ e ∈ earlier, e.name ≠ s.name) ∧
      (networks ≠ [] → ∃ n ∈ networks, n.name = s.network) := by
  rw [← isDeclared_iff]
  unfold checkSource
  by_cases hi : Text.isIdentifier s.name = true
  · by_cases he : (earlier.any fun e => e.name = s.name) = true
    · simp only [hi, he, Bool.not_true, Bool.false_eq_true, if_false, if_true, true_and]
      obtain ⟨e, hmem, heq⟩ := List.any_eq_true.mp he
      simp only [reduceCtorEq, false_iff, not_and]
      exact fun hfresh => absurd (of_decide_eq_true heq) (hfresh e hmem)
    · have hfresh : ∀ e ∈ earlier, e.name ≠ s.name := by simpa using he
      by_cases hd : isDeclared networks s.network = true
      · simpa [hi, he, hd] using hfresh
      · simp [hi, he, hd]
  · simp [hi]

theorem checkSource_eq_error {flaw : Flaw} :
    checkSource networks earlier s = .error flaw → Breaks networks earlier s flaw := by
  unfold checkSource
  intro h
  split at h
  · rename_i hi
    obtain rfl := Except.error.inj h
    exact .badName (by simpa using hi)
  split at h
  · rename_i hi he
    obtain rfl := Except.error.inj h
    exact .repeatedName (by simpa using hi) (by simpa using he)
  split at h
  · rename_i hi he hd
    obtain rfl := Except.error.inj h
    have hnot : ¬(networks ≠ [] → ∃ n ∈ networks, n.name = s.network) := by
      rw [← isDeclared_iff]
      simpa using hd
    simp only [Classical.not_imp, not_exists, not_and] at hnot
    exact .undeclaredNetwork (by simpa using hi) (by simpa using he) hnot.1 hnot.2
  · cases h

/-- One more source in order. -/
theorem Admissible.append (ha : Admissible ⟨networks, earlier⟩)
    (hs : checkSource networks earlier s = .ok ()) : Admissible ⟨networks, earlier ++ [s]⟩ := by
  obtain ⟨hi, hfresh, hd⟩ := checkSource_eq_ok.mp hs
  refine ⟨?_, ?_, ?_⟩
  · intro e he
    rcases List.mem_append.mp he with he | he
    · exact ha.identifiers e he
    · exact List.mem_singleton.mp he ▸ hi
  · exact Distinct.nodup_concat ha.distinct hfresh
  · intro hn e he
    rcases List.mem_append.mp he with he | he
    · exact ha.declared hn e he
    · exact List.mem_singleton.mp he ▸ hd hn

/-- A configuration with a source that breaks a rule is not in order. -/
theorem not_admissible_of_breaks {before after : List Source} {flaw : Flaw}
    (hb : Breaks networks before s flaw) : ¬Admissible ⟨networks, before ++ s :: after⟩ := by
  intro ha
  cases hb with
  | badName hi =>
    have := ha.identifiers s (by simp)
    rw [hi] at this
    cases this
  | repeatedName _ he =>
    obtain ⟨e, hmem, heq⟩ := he
    have hd := ha.distinct
    rw [List.map_append, List.nodup_append] at hd
    exact hd.2.2 e.name (List.mem_map_of_mem hmem) s.name (by simp) heq
  | undeclaredNetwork _ _ hn hall =>
    obtain ⟨n, hmem, heq⟩ := ha.declared hn s (by simp)
    exact hall n hmem heq

theorem checkFrom_spec (sources : List Source) (ha : Admissible ⟨networks, earlier⟩) :
    (checkFrom networks earlier sources = .ok () ∧ Admissible ⟨networks, earlier ++ sources⟩) ∨
      ∃ flaw before s after, checkFrom networks earlier sources = .error flaw ∧
        sources = before ++ s :: after ∧ Admissible ⟨networks, earlier ++ before⟩ ∧
        Breaks networks (earlier ++ before) s flaw := by
  induction sources generalizing earlier with
  | nil => exact .inl ⟨rfl, by simpa using ha⟩
  | cons s rest ih =>
    unfold checkFrom
    cases hs : checkSource networks earlier s with
    | error flaw =>
      exact .inr ⟨flaw, [], s, rest, rfl, rfl, by simpa using ha,
        by simpa using checkSource_eq_error hs⟩
    | ok u =>
      rcases ih (ha.append hs) with ⟨ho, hall⟩ | ⟨flaw, before, b, after, he, rfl, hbefore, hb⟩
      · exact .inl ⟨ho, by simpa using hall⟩
      · exact .inr ⟨flaw, s :: before, b, after, he, rfl, by simpa using hbefore,
          by simpa using hb⟩

theorem check_spec (c : Config) :
    (c.check = .ok () ∧ c.Admissible) ∨
      ∃ flaw, c.check = .error flaw ∧ c.FirstFlaw flaw ∧ ¬c.Admissible := by
  have hnil : Admissible ⟨c.networks, []⟩ := ⟨by simp, by simp, by simp⟩
  rcases checkFrom_spec c.sources hnil with ⟨ho, ha⟩ | ⟨flaw, before, s, after, he, hs, ha, hb⟩
  · exact .inl ⟨ho, ha⟩
  · refine .inr ⟨flaw, he, ⟨before, s, after, hs, ha, hb⟩, ?_⟩
    have hc : c = ⟨c.networks, before ++ s :: after⟩ := by rw [← hs]
    rw [hc]
    exact not_admissible_of_breaks hb

theorem check_eq_ok {c : Config} : c.check = .ok () ↔ c.Admissible := by
  rcases check_spec c with ⟨ho, ha⟩ | ⟨flaw, he, -, hn⟩
  · simp [ho, ha]
  · simp [he, hn]

end IndexerTypes.Config
