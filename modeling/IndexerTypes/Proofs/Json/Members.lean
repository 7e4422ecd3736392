import IndexerTypes.Json.Basic
import Mathlib.Data.List.Basic

/-! # The value of a key

Of several members with one key the last counts, so a member is only looked at for its own key
(`get?_insert`), and for this one the members behind it come first (`get?_middle`). -/

namespace IndexerTypes.Json

variable {before after members : List (String × Json)} {key other : String} {v w : Json}

theorem get?_append (before after : List (String × Json)) (key : String) :
    get? (before ++ after) key = (get? after key).or (get? before key) := by
  rw [get?, List.reverse_append, List.lookup_append, get?, get?]

theorem get?_cons (v : Json) (key other : String) (after : List (String × Json)) :
    get? ((key, v) :: after) other =
      (get? after other).or (if other = key then some v else none) := by
  rw [← List.singleton_append, get?_append]
  congr 1
  by_cases h : other = key
  · simp [get?, h]
  · have hmiss : (other == key) = false := by simpa using h
    simp [get?, List.lookup_cons, h, hmiss]

theorem get?_insert (h : key ≠ other) :
    get? (before ++ (key, v) :: after) other = get? (before ++ after) other := by
  rw [get?_append, get?_append, get?_cons, if_neg (Ne.symm h), Option.or_none]

theorem get?_middle :
    get? (before ++ (key, v) :: after) key = (get? after key).or (some v) := by
  rw [get?_append, get?_cons, if_pos rfl, Option.or_assoc, Option.some_or]

/-- Another key has the value that it has. -/
theorem get?_congr (h : key ≠ other) :
    get? (before ++ (key, v) :: after) other = get? (before ++ (key, w) :: after) other :=
  (get?_insert h).trans (get?_insert h).symm

theorem mem_of_get? (h : get? members key = some v) : (key, v) ∈ members := by
  obtain ⟨before, after, he, -⟩ := List.lookup_eq_some_iff.mp h
  exact List.mem_reverse.mp (by simp [he])

end IndexerTypes.Json
