import PatternGraph.Proofs.Construction

/-!
# Which states accept

A text may end in a state if nothing mandatory follows: one would expect it to accept exactly if
all items behind it are under `*` or `?`. An item under `?` is given up only as the very last one,
though. So a state accepts exactly if the items behind it are under `*`, but for the last one,
which may be under `?`, and the expectation is met exactly by the patterns in which no optional
item has only items behind it that may be left out as well.
-/
namespace PatternGraph

namespace Item
variable {items : List Item} {i : Item} {k : Nat}

/-- A text may leave the item out. -/
def isSkippable (i : Item) : Bool := i.isStarred || i.isOptional

/-- A state with these items behind it accepts: each may be left out, and none but the last is
optional. -/
def Dispensable (items : List Item) : Prop :=
  (∀ i ∈ items, i.isSkippable) ∧ ∀ i ∈ items.dropLast, i.isOptional = false

instance (items : List Item) : Decidable (Dispensable items) :=
  inferInstanceAs (Decidable (_ ∧ _))

theorem dispensable_of_starred (starred : ∀ i ∈ items, i.isStarred) : Dispensable items := by
  constructor
  · intro i member
    simp [isSkippable, starred i member]
  · intro i member
    exact isOptional_eq_false_of_isStarred (starred i (List.dropLast_subset items member))

/-- An item that is not under `*` is dispensable only as the last one and under `?`. -/
theorem dispensable_append_cons_iff {stars rest : List Item}
    (starred : ∀ j ∈ stars, j.isStarred) (own : i.isStarred = false) :
    Dispensable (stars ++ i :: rest) ↔ i.isOptional ∧ rest = [] := by
  constructor
  · rintro ⟨skippable, required⟩
    have optional : i.isOptional := by
      have skips := skippable i (by simp)
      rwa [isSkippable, own, Bool.false_or] at skips
    refine ⟨optional, ?_⟩
    by_contra more
    have early : i ∈ (stars ++ i :: rest).dropLast := by
      rw [List.dropLast_append_cons, List.dropLast_cons_of_ne_nil more]
      simp
    have kept := required i early
    rw [optional] at kept
    cases kept
  · rintro ⟨optional, rfl⟩
    constructor
    · intro j member
      rcases List.mem_append.1 member with inside | last
      · simp [isSkippable, starred j inside]
      · obtain rfl := List.mem_singleton.1 last
        simp [isSkippable, optional]
    · intro j member
      rw [List.dropLast_concat] at member
      exact isOptional_eq_false_of_isStarred (starred j member)

/-- A state accepts exactly if the items behind it are dispensable. -/
theorem accepts_iff_dispensable (within : k ≤ (numbered items).length) :
    accepts items k ↔ Dispensable (behind k items) := by
  cases own : (numbered items)[k]? with
  | none =>
    have beyond : (numbered items).length ≤ k := List.getElem?_eq_none_iff.1 own
    obtain rfl : k = (numbered items).length := Nat.le_antisymm within beyond
    have starred : ∀ i ∈ behind (numbered items).length items, i.isStarred :=
      fun i member => isStarred_of_mem_behind beyond member
    exact iff_of_true (accepts_length items) (dispensable_of_starred starred)
  | some i =>
    have starred : ∀ j ∈ (behind k items).takeWhile (·.isStarred), j.isStarred :=
      fun j member => List.mem_takeWhile_imp member
    have split := List.takeWhile_append_dropWhile (p := (·.isStarred)) (l := behind k items)
    rw [dropWhile_behind own] at split
    rw [accepts_iff_of_numbered own, ← split,
      dispensable_append_cons_iff starred (isStarred_of_getElem?_numbered own)]

/-- An optional item has further items behind it, and all of them may be left out. -/
def StacksOptional (items : List Item) : Prop :=
  ∃ front i more, items = front ++ i :: more ∧ i.isOptional ∧ more ≠ [] ∧
    ∀ j ∈ more, j.isSkippable

/-- Where no optional item is followed by skippable ones only, skippable items at the end are
dispensable. -/
theorem dispensable_of_skippable (free : ¬ StacksOptional items) {tail : List Item}
    (ending : tail <:+ items) (skippable : ∀ i ∈ tail, i.isSkippable) : Dispensable tail := by
  refine ⟨skippable, fun i early => ?_⟩
  rw [← Bool.not_eq_true]
  intro optional
  rcases List.eq_nil_or_concat tail with rfl | ⟨init, last, rfl⟩
  · cases early
  · rw [List.concat_eq_append] at ending skippable early
    rw [List.dropLast_concat] at early
    obtain ⟨before, rest, rfl⟩ := List.append_of_mem early
    obtain ⟨front, rfl⟩ := ending
    refine free ⟨front ++ before, i, rest ++ [last], by simp, optional, by simp, fun j member => ?_⟩
    apply skippable
    rw [List.append_assoc, List.cons_append]
    exact List.mem_append_right before (List.mem_cons_of_mem i member)

/-- The state in front of an optional item with skippable ones behind it does not accept, although
nothing mandatory follows. -/
theorem exists_skippable_not_accepts (stacking : StacksOptional items) :
    ∃ k, k ≤ (numbered items).length ∧ (∀ i ∈ behind k items, i.isSkippable) ∧
      ¬ accepts items k := by
  obtain ⟨front, i, more, rfl, optional, further, skippable⟩ := stacking
  have own := isStarred_eq_false_of_isOptional optional
  have starred : ∀ j ∈ behind (numbered front).length front, j.isStarred :=
    fun j member => isStarred_of_mem_behind (Nat.le_refl _) member
  have split := behind_append (Nat.le_refl (numbered front).length) (i :: more)
  have within : (numbered front).length ≤ (numbered (front ++ i :: more)).length := by
    simp [numbered]
  refine ⟨(numbered front).length, within, ?_, ?_⟩
  · intro j member
    rw [split, List.mem_append, List.mem_cons] at member
    rcases member with before | rfl | after
    · simp [isSkippable, starred j before]
    · simp [isSkippable, optional]
    · exact skippable j after
  · rw [accepts_iff_dispensable within, split, dispensable_append_cons_iff starred own]
    exact fun last => further last.2

/-- Acceptance follows from skippability in all states exactly if no optional item is followed by
skippable ones only. -/
theorem forall_accepts_iff_skippable_iff :
    (∀ k ≤ (numbered items).length,
        (accepts items k ↔ ∀ i ∈ behind k items, i.isSkippable)) ↔
      ¬ StacksOptional items := by
  constructor
  · intro agree stacking
    obtain ⟨k, within, skippable, rejects⟩ := exists_skippable_not_accepts stacking
    exact rejects ((agree k within).2 skippable)
  · intro free k within
    rw [accepts_iff_dispensable within]
    exact ⟨fun dispensable => dispensable.1,
      dispensable_of_skippable free (behind_suffix items k)⟩

theorem isSome_run_nil_graph (items : List Item) :
    ((graph items).run [] .whole).isSome = accepts items 0 := by
  rw [Graph.run_eq_matchFrom, Graph.matchFrom_nil, Graph.start, accepts_graph (Nat.zero_le _)]
  cases accepts items 0 <;> rfl

end Item
open Item

/-- A state of a compiled pattern accepts exactly if the items behind it are dispensable, and the
empty text matches as a whole exactly if all items are. This agrees with all items being under `*`
or `?` exactly in patterns where no optional item is followed by such items only. -/
theorem compiled_accepts_iff_dispensable {source : List Char} {g : Graph}
    (compiled : compile source = .ok g) :
    (∀ k < g.size, g.accepts k ↔ Dispensable (behind k (ofText source))) ∧
      ((g.run [] .whole).isSome ↔ Dispensable (ofText source)) ∧
      ((∀ k < g.size, (g.accepts k ↔ ∀ i ∈ behind k (ofText source), i.isSkippable)) ↔
        ¬ StacksOptional (ofText source)) := by
  obtain ⟨_, _, _, rfl⟩ := compile_eq_ok_iff.1 compiled
  have state {k : Nat} (held : k < (graph (ofText source)).size) :
      k ≤ (numbered (ofText source)).length := by
    rw [size_graph] at held
    exact Nat.le_of_lt_succ held
  refine ⟨?_, ?_, ?_⟩
  · intro k held
    rw [accepts_graph (state held)]
    exact accepts_iff_dispensable (state held)
  · rw [isSome_run_nil_graph, accepts_iff_dispensable (Nat.zero_le _), behind_zero]
  · rw [← forall_accepts_iff_skippable_iff]
    constructor
    · intro agree k within
      have held : k < (graph (ofText source)).size := by simpa using Nat.lt_succ_of_le within
      rw [← accepts_graph within]
      exact agree k held
    · intro agree k held
      rw [accepts_graph (state held)]
      exact agree k (state held)

/-- Of the states behind which all items may be left out, the first one does not accept: an
optional item is given up only as the last. -/
theorem compiled_accepts_iff_dispensable_mixed :
    compile "a?b*c?".toList = .ok (graph (ofText "a?b*c?".toList)) ∧
      (graph (ofText "a?b*c?".toList)).accepts 0 = false ∧
      (graph (ofText "a?b*c?".toList)).accepts 1 ∧
      StacksOptional (ofText "a?b*c?".toList) := by
  have compiled : compile "a?b*c?".toList = .ok (graph (ofText "a?b*c?".toList)) := by decide
  obtain ⟨states, _, agree⟩ := compiled_accepts_iff_dispensable compiled
  have first : (graph (ofText "a?b*c?".toList)).accepts 0 = false := by
    rw [← Bool.not_eq_true, states 0 (by decide)]
    decide
  have second := (states 1 (by decide)).2 (by decide)
  refine ⟨compiled, first, second, ?_⟩
  by_contra free
  have accepting := (agree.2 free 0 (by decide)).2 (by decide)
  rw [first] at accepting
  cases accepting

/-- Both items of this pattern are optional, yet it does not match the empty text, and its start
state does not accept. -/
theorem optional_twice_rejects_nil :
    ∃ g, compile "a?b?".toList = .ok g ∧
      (∀ i ∈ behind Graph.start (ofText "a?b?".toList), i.isSkippable) ∧
      g.accepts Graph.start = false ∧ g.run [] .whole = none :=
  ⟨graph (ofText "a?b?".toList), by decide, by decide, by decide, by decide⟩

end PatternGraph
