import Mathlib.Data.List.Basic
import Mathlib.Data.List.Nodup

/-! # Names told apart by their endings

Names are formed by putting an ending behind other names. Two such names with different endings are
different if neither ending ends with the other (`append_ne_append`), so what is formed from
different names in this way is different too (`nodup_flatMap_endings`). -/

namespace IndexerTypes.Text

variable {ending other : String}

theorem append_ne {text : String} (h : ¬ ending.toList <:+ text.toList) (name : String) :
    name ++ ending ≠ text := by
  intro he
  apply h
  rw [← he, String.toList_append]
  exact List.suffix_append _ _

theorem append_ne_append (h : ¬ ending.toList <:+ other.toList)
    (ho : ¬ other.toList <:+ ending.toList) (name second : String) :
    name ++ ending ≠ second ++ other := by
  intro he
  have hending : ending.toList <:+ (name ++ ending).toList := by
    rw [String.toList_append]
    exact List.suffix_append _ _
  have hother : other.toList <:+ (name ++ ending).toList := by
    rw [he, String.toList_append]
    exact List.suffix_append _ _
  rcases List.suffix_or_suffix_of_suffix hending hother with hs | hs
  · exact h hs
  · exact ho hs

theorem nodup_flatMap_endings {names : List String} (hn : names.Nodup)
    (h : ∀ name second : String, name ++ ending ≠ second ++ other) :
    (names.flatMap fun name => [name ++ ending, name ++ other]).Nodup := by
  induction names with
  | nil => exact List.nodup_nil
  | cons name rest ih =>
    obtain ⟨hnew, hrest⟩ := List.nodup_cons.mp hn
    have hapart : ∀ second ∈ rest, name ≠ second := fun second hs he => hnew (he ▸ hs)
    rw [List.flatMap_cons, List.nodup_append]
    refine ⟨by simp [h], ih hrest, ?_⟩
    intro x hx y hy he
    obtain ⟨second, hs, hy⟩ := List.mem_flatMap.mp hy
    simp only [List.mem_cons, List.not_mem_nil, or_false] at hx hy
    rcases hx with rfl | rfl <;> rcases hy with rfl | rfl
    · exact hapart second hs ((String.append_left_inj _).mp he)
    · exact h name second he
    · exact h second name he.symm
    · exact hapart second hs ((String.append_left_inj _).mp he)

end IndexerTypes.Text
