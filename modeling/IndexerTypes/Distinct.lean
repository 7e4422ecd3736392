/-! Lists without repeated keys. The first element with a key stays, in its place, and later
ones are left out. -/

namespace IndexerTypes.Distinct

variable {α β : Type} [DecidableEq β]

/-- Whether an element of the list has this key. -/
def hasKey (key : α → β) (k : β) (kept : List α) : Bool := kept.any fun a => key a = k

def insertNew (key : α → β) (kept : List α) (a : α) : List α :=
  if hasKey key (key a) kept then kept else kept ++ [a]

/-- The first element of each key, in order. -/
def firsts (key : α → β) (l : List α) : List α := l.foldl (insertNew key) []

theorem hasKey_iff {key : α → β} {k : β} {kept : List α} :
    hasKey key k kept = true ↔ k ∈ kept.map key := by
  simp [hasKey]

theorem insertNew_nodup {key : α → β} {kept : List α} (a : α) (h : (kept.map key).Nodup) :
    ((insertNew key kept a).map key).Nodup := by
  unfold insertNew
  split
  · exact h
  · rename_i absent
    rw [hasKey_iff] at absent
    rw [List.map_append, List.nodup_append]
    refine ⟨h, by simp, ?_⟩
    intro x hx y hy
    simp only [List.map_cons, List.map_nil, List.mem_singleton] at hy
    subst hy
    exact fun same => absent (same ▸ hx)

theorem mem_map_insertNew {key : α → β} {kept : List α} {a : α} {k : β} :
    k ∈ (insertNew key kept a).map key ↔ k ∈ kept.map key ∨ k = key a := by
  unfold insertNew
  split
  · rename_i present
    rw [hasKey_iff] at present
    constructor
    · exact .inl
    · rintro (h | rfl)
      · exact h
      · exact present
  · simp [List.map_append]

end IndexerTypes.Distinct
