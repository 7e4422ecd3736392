import IndexerTypes.Proofs.Path

/-! # The directories on the way to a path

To make a directory is to make the missing ones above it. Each of these is spelled anew from
the first components of the path, and what is spelled so has just these components
(`components_ofComponents`). So the directories on the way to a path are its prefixes
(`mem_ancestors`). -/

namespace IndexerTypes.Path

variable {p q : Path} {parts below : List Component}

/-! ## What components a path can have -/

/-- A component that leads from one directory to another. -/
inductive Component.IsStep : Component → Prop
  | up : IsStep .up
  | name {text : String} : IsName text → IsStep (.name text)

/-- Steps, perhaps behind a mark that says where they start. -/
inductive IsSpelling : List Component → Prop
  | plain {below : List Component} : (∀ c ∈ below, c.IsStep) → IsSpelling below
  | root {below : List Component} : (∀ c ∈ below, c.IsStep) → IsSpelling (.root :: below)
  | here {below : List Component} : (∀ c ∈ below, c.IsStep) → IsSpelling (.here :: below)

theorem isStep_of_mem_segments {segment : String} {c : Component} (h : segment ∈ p.segments)
    (hc : componentOf? segment = some c) : c.IsStep := by
  unfold componentOf? at hc
  split at hc
  · cases hc
  · rename_i hh
    split at hc
    · obtain rfl := Option.some.inj hc
      exact .up
    · rename_i hu
      obtain rfl := Option.some.inj hc
      exact .name (isName_of_mem_segments h hh hu)

theorem isSpelling_components (p : Path) : IsSpelling p.components := by
  have hsteps : ∀ c ∈ p.segments.filterMap componentOf?, c.IsStep := by
    intro c hc
    obtain ⟨segment, hs, he⟩ := List.mem_filterMap.mp hc
    exact isStep_of_mem_segments hs he
  unfold components
  dsimp only
  split
  · exact .root hsteps
  · split
    · exact .here hsteps
    · exact .plain hsteps

theorem IsSpelling.take (h : IsSpelling parts) (k : Nat) : IsSpelling (parts.take k) := by
  cases h with
  | plain hs => exact .plain fun c hc => hs c (List.mem_of_mem_take hc)
  | root hs =>
    cases k with
    | zero => exact .plain (by simp)
    | succ k => exact .root fun c hc => hs c (List.mem_of_mem_take hc)
  | here hs =>
    cases k with
    | zero => exact .plain (by simp)
    | succ k => exact .here fun c hc => hs c (List.mem_of_mem_take hc)

/-! ## Components that are spelled -/

/-- Steps as one text. -/
def spell (below : List Component) : String := "/".intercalate (below.map renderComponent)

theorem Component.IsStep.nonempty {c : Component} (h : c.IsStep) : renderComponent c ≠ "" := by
  cases h with
  | up => decide
  | name hn => exact hn.nonempty

theorem Component.IsStep.noSlash {c : Component} (h : c.IsStep) :
    '/' ∉ (renderComponent c).toList := by
  cases h with
  | up => decide
  | name hn => exact hn.noSlash

theorem Component.IsStep.notHere {c : Component} (h : c.IsStep) : renderComponent c ≠ "." := by
  cases h with
  | up => decide
  | name hn => exact hn.notHere

theorem Component.IsStep.componentOf? {c : Component} (h : c.IsStep) :
    Path.componentOf? (renderComponent c) = some c := by
  cases h with
  | up => rfl
  | name hn => exact componentOf?_name hn

/-- The pieces of a spelling are the texts of its components. -/
theorem splitOn_spell (hne : below ≠ []) (hs : ∀ c ∈ below, c.IsStep) :
    (spell below).toList.splitOn '/' = below.map fun c => (renderComponent c).toList := by
  have hslash : ∀ piece ∈ below.map fun c => (renderComponent c).toList, '/' ∉ piece := by
    intro piece hp
    obtain ⟨c, hc, rfl⟩ := List.mem_map.mp hp
    exact (hs c hc).noSlash
  have ht : (spell below).toList =
      ['/'].intercalate (below.map fun c => (renderComponent c).toList) := by
    simp [spell, String.toList_intercalate, Function.comp_def]
  rw [ht, List.splitOn_intercalate '/' hslash (by simpa using hne)]

theorem segmentsOf_spell (hs : ∀ c ∈ below, c.IsStep) :
    segmentsOf (spell below).toList = below.map renderComponent := by
  by_cases hne : below = []
  · simp [hne, spell, segmentsOf_nil]
  · have hfull : ∀ piece ∈ below.map fun c => (renderComponent c).toList, piece ≠ [] := by
      intro piece hp
      obtain ⟨c, hc, rfl⟩ := List.mem_map.mp hp
      exact fun he => (hs c hc).nonempty (String.toList_eq_nil_iff.mp he)
    unfold segmentsOf
    rw [splitOn_spell hne hs, List.filter_eq_self.mpr (by simpa using hfull)]
    simp

theorem filterMap_componentOf? (hs : ∀ c ∈ below, c.IsStep) :
    (below.map renderComponent).filterMap componentOf? = below := by
  rw [List.filterMap_map]
  induction below with
  | nil => rfl
  | cons c rest ih =>
    rw [List.filterMap_cons, Function.comp_apply, (hs c (by simp)).componentOf?]
    simp only
    rw [ih fun d hd => hs d (by simp [hd])]

/-- A path that has a name in front does not start at the root. -/
theorem startsAtRoot_of_head? {piece : List Char} (h : p.pieces.head? = some piece)
    (hne : piece ≠ []) : p.startsAtRoot = false := by
  unfold pieces at h
  unfold startsAtRoot
  cases hl : p.text.toList with
  | nil => rfl
  | cons c tail =>
    by_cases hc : c = '/'
    · rw [hl, hc, List.splitOn_cons_eq_if_modifyHead] at h
      simp only [beq_self_eq_true, if_true, List.head?_cons, Option.some.injEq] at h
      exact absurd h.symm hne
    · simpa using hc

theorem ofComponents_eq_spell (h : parts ≠ [.root]) : ofComponents parts = ⟨spell parts⟩ := by
  unfold ofComponents
  split
  · exact absurd rfl h
  · rfl

theorem text_ofComponents_root (below : List Component) :
    (ofComponents (.root :: below)).text.toList = '/' :: (spell below).toList := by
  cases below with
  | nil => rfl
  | cons c rest =>
    rw [ofComponents_eq_spell (by simp)]
    simp [spell, renderComponent]

theorem text_ofComponents_here {c : Component} (rest : List Component) :
    (ofComponents (.here :: c :: rest)).text.toList =
      ['.'] ++ '/' :: (spell (c :: rest)).toList := by
  rw [ofComponents_eq_spell (by simp)]
  simp [spell, renderComponent]

theorem components_spell (hs : ∀ c ∈ below, c.IsStep) : components ⟨spell below⟩ = below := by
  cases below with
  | nil => decide
  | cons c rest =>
    have hpieces : pieces ⟨spell (c :: rest)⟩ =
        (c :: rest).map fun c => (renderComponent c).toList := splitOn_spell (by simp) hs
    have hhead : (pieces ⟨spell (c :: rest)⟩).head? = some (renderComponent c).toList := by
      rw [hpieces]
      rfl
    have hc := hs c (by simp)
    have hne : (renderComponent c).toList ≠ [] :=
      fun he => hc.nonempty (String.toList_eq_nil_iff.mp he)
    have hdot : (renderComponent c).toList ≠ ['.'] :=
      fun he => hc.notHere (String.toList_inj.mp he)
    unfold components
    simp only [startsAtRoot_of_head? hhead hne, hhead, segments_eq, segmentsOf_spell hs,
      filterMap_componentOf? hs, Option.some.injEq, hdot, Bool.false_eq_true, if_false]

theorem components_ofComponents_root (hs : ∀ c ∈ below, c.IsStep) :
    (ofComponents (.root :: below)).components = .root :: below := by
  have ht := text_ofComponents_root below
  have hstart : (ofComponents (.root :: below)).startsAtRoot = true := by
    simp [startsAtRoot, ht]
  have hsegments : (ofComponents (.root :: below)).segments = below.map renderComponent := by
    rw [segments_eq, ht, ← List.nil_append ('/' :: _), segmentsOf_append, segmentsOf_nil,
      List.nil_append, segmentsOf_spell hs]
  unfold components
  simp only [hstart, if_true, hsegments, filterMap_componentOf? hs]

theorem components_ofComponents_here (hs : ∀ c ∈ below, c.IsStep) :
    (ofComponents (.here :: below)).components = .here :: below := by
  cases below with
  | nil => decide
  | cons c rest =>
    have ht := text_ofComponents_here (c := c) rest
    have hstart : (ofComponents (.here :: c :: rest)).startsAtRoot = false := by
      simp [startsAtRoot, ht]
    have hhead : (ofComponents (.here :: c :: rest)).pieces.head? = some ['.'] := by
      rw [pieces, ht, head?_splitOn_append]
      decide
    have hsegments : (ofComponents (.here :: c :: rest)).segments =
        "." :: (c :: rest).map renderComponent := by
      rw [segments_eq, ht, segmentsOf_append, segmentsOf_spell hs]
      rfl
    have hdot : componentOf? "." = none := rfl
    unfold components
    simp only [hstart, hhead, hsegments, List.filterMap_cons, hdot, filterMap_componentOf? hs,
      Bool.false_eq_true, if_false, if_true]

/-- **What is spelled from components has just these components.** -/
theorem components_ofComponents (h : IsSpelling parts) :
    (ofComponents parts).components = parts := by
  cases h with
  | plain hs =>
    have hroot : parts ≠ [.root] := by
      rintro rfl
      cases hs .root (by simp)
    rw [ofComponents_eq_spell hroot]
    exact components_spell hs
  | root hs => exact components_ofComponents_root hs
  | here hs => exact components_ofComponents_here hs

/-! ## Ancestors -/

theorem mem_fold_cons {α : Type} {f : Nat → α} {a : α} {n : Nat}
    (h : a ∈ n.fold (fun k _ found => f k :: found) []) : ∃ k < n, a = f k := by
  induction n with
  | zero => simp at h
  | succ n ih =>
    rw [Nat.fold_succ] at h
    rcases List.mem_cons.mp h with rfl | h
    · exact ⟨n, by omega, rfl⟩
    · obtain ⟨k, hk, ha⟩ := ih h
      exact ⟨k, by omega, ha⟩

/-- The directories above a path are its prefixes. -/
theorem mem_ancestors (h : q ∈ p.ancestors) : q = p ∨ q.components <+: p.components.dropLast := by
  have habove : ∀ q ∈ (p.components.length - 1).fold
      (fun k _ found => ofComponents (p.components.take (k + 1)) :: found) [],
      q.components <+: p.components.dropLast := by
    intro q hq
    obtain ⟨k, hk, rfl⟩ := mem_fold_cons hq
    rw [components_ofComponents ((isSpelling_components p).take _), List.dropLast_eq_take]
    exact List.take_prefix_take_left (by omega)
  unfold ancestors at h
  dsimp only at h
  split at h
  · cases h
  · cases h
  · rcases List.mem_cons.mp h with rfl | h
    · exact .inl rfl
    · exact .inr (habove q (List.dropLast_subset _ h))
  · rcases List.mem_cons.mp h with rfl | h
    · exact .inl rfl
    · exact .inr (habove q h)

/-- The path and the directories above it are its prefixes. -/
theorem prefix_of_mem_ancestors (h : q ∈ p.ancestors) : q.components <+: p.components := by
  rcases mem_ancestors h with rfl | h
  · exact List.prefix_rfl
  · exact h.trans (List.dropLast_prefix _)

/-- To make a directory with a name is to make no other ones than it and those on the way to
the directory that it is in. -/
theorem mem_ancestors_join_name {base : Path} {name : String} (hn : IsName name)
    (h : q ∈ (base.join ⟨name⟩).ancestors) :
    q = base.join ⟨name⟩ ∨ q.components <+: base.components := by
  rcases mem_ancestors h with rfl | h
  · exact .inl rfl
  · rw [components_join_name base hn, List.dropLast_concat] at h
    exact .inr h

end IndexerTypes.Path
