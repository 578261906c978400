import PatternGraph.Proofs.BuilderSteps
import PatternGraph.Proofs.WalkResult

/-!
# Well-formed graphs

A graph is well formed if it has a start state and all its transitions lead to states that it
holds. Every operation of a builder keeps its graph well formed and its accept marks, and a walk
never leaves a well-formed graph.
-/
namespace PatternGraph.Graph

/-- The graph has its start state, and no transition leads out of it. -/
structure WellFormed (g : Graph) : Prop where
  nonempty : start < g.size
  closed : ∀ k state, g.get? k = some state → ∀ t ∈ state.transitions, t.target < g.size

namespace Builder
variable {b : Builder} {origin target id : Nat}

@[simp] theorem size_finish (b : Builder) : b.finish.size = b.size := rfl

theorem wellFormed_new : new.finish.WellFormed where
  nonempty := Nat.zero_lt_one
  closed k state held t member := by
    have bare : state = {} := by
      cases k with
      | zero => exact (Option.some.inj held).symm
      | succ k => cases held
    rw [bare] at member
    cases member

theorem get?_finish_addState (b : Builder) (k : Nat) :
    b.addState.2.finish.get? k = if k = b.size then some {} else b.finish.get? k :=
  getElem?_addState b k

theorem get?_finish_extended (b : Builder) (origin : StateId) (t : Transition) (k : Nat) :
    (b.extended origin t).finish.get? k =
      (b.finish.get? k).map fun state =>
        { state with transitions := state.transitions ++ if k = origin then [t] else [] } :=
  getElem?_extended b origin t k

theorem get?_finish_accepting (b : Builder) (id : StateId) (k : Nat) :
    (b.accepting id).finish.get? k =
      (b.finish.get? k).map fun state => { state with accept := state.accept || k = id } :=
  getElem?_accepting b id k

theorem wellFormed_addState (before : b.finish.WellFormed) : b.addState.2.finish.WellFormed where
  nonempty := by
    rw [size_finish, size_addState]
    exact Nat.lt_succ_of_lt before.nonempty
  closed k state held t member := by
    rw [get?_finish_addState] at held
    rw [size_finish, size_addState]
    split at held
    · cases held
      cases member
    · exact Nat.lt_succ_of_lt (before.closed k state held t member)

theorem wellFormed_extended (before : b.finish.WellFormed) (allocated : target < b.size)
    (origin : StateId) (symbols : SymbolSet) :
    (b.extended origin ⟨target, symbols⟩).finish.WellFormed where
  nonempty := by
    rw [size_finish, size_extended]
    exact before.nonempty
  closed k state held t member := by
    rw [get?_finish_extended] at held
    obtain ⟨old, heldBefore, rfl⟩ := Option.map_eq_some_iff.1 held
    rw [size_finish, size_extended]
    rcases List.mem_append.1 member with earlier | added
    · exact before.closed k old heldBefore t earlier
    · split at added
      · obtain rfl := List.mem_singleton.1 added
        exact allocated
      · cases added

theorem wellFormed_accepting (before : b.finish.WellFormed) (id : StateId) :
    (b.accepting id).finish.WellFormed where
  nonempty := by
    rw [size_finish, size_accepting]
    exact before.nonempty
  closed k state held t member := by
    rw [get?_finish_accepting] at held
    obtain ⟨old, heldBefore, rfl⟩ := Option.map_eq_some_iff.1 held
    rw [size_finish, size_accepting]
    exact before.closed k old heldBefore t member

theorem accepts_finish_addState (marked : b.finish.accepts id) :
    b.addState.2.finish.accepts id := by
  have held : id ≠ b.size := by
    rintro rfl
    simp [accepts, Graph.get?, finish, size] at marked
  rw [accepts, get?_finish_addState, if_neg held]
  exact marked

theorem accepts_finish_extended (b : Builder) (origin : StateId) (t : Transition) (id : StateId) :
    (b.extended origin t).finish.accepts id = b.finish.accepts id := by
  rw [accepts, get?_finish_extended, Option.any_map]
  rfl

theorem accepts_finish_accepting (marked : b.finish.accepts id) (other : StateId) :
    (b.accepting other).finish.accepts id := by
  obtain ⟨state, held, accepting⟩ := (Option.any_eq_true ..).1 marked
  rw [accepts, get?_finish_accepting, held]
  simp [accepting]

theorem accepts_finish_accepting_self (allocated : id < b.size) :
    (b.accepting id).finish.accepts id := by
  have held : b.finish.get? id = some b.states[id] := Array.getElem?_eq_getElem allocated
  rw [accepts, get?_finish_accepting, held]
  simp

end Builder

/-- A step of a walk in a well-formed graph leads to a state of the graph. -/
theorem WellFormed.target_lt {g : Graph} (wellFormed : g.WellFormed) {id : StateId}
    {state : State} (held : g.get? id = some state) {c : Char} {t : Transition}
    (fired : state.next? c = some t) : t.target < g.size :=
  wellFormed.closed id state held t (List.mem_of_find?_eq_some fired)

theorem state_eq_ok {g : Graph} {id : StateId} (held : id < g.size) :
    ∃ current, g.get? id = some current ∧ g.state id = .ok current := by
  obtain ⟨current, found⟩ : ∃ current, g.get? id = some current :=
    ⟨g.states[id], Array.getElem?_eq_getElem held⟩
  exact ⟨current, found, by rw [state, found]⟩

/-- Walking on from a state of a well-formed graph never asks for a state that it does not hold. -/
theorem WellFormed.continueFrom_ne_lost {g : Graph} (wellFormed : g.WellFormed) {mode : Mode}
    {id : StateId} {offset : Nat} (held : id < g.size) (text : List Char) (fault : Fault) :
    (Walk.continueFrom g mode id offset text).outcome ≠ .lost fault := by
  induction text generalizing id offset with
  | nil =>
    obtain ⟨current, _, asked⟩ := state_eq_ok held
    simp only [Walk.continueFrom, asked]
    split <;> simp
  | cons c rest ih =>
    obtain ⟨current, found, asked⟩ := state_eq_ok held
    simp only [Walk.continueFrom, asked]
    split
    · simp
    · cases fired : current.next? c with
      | none => simp
      | some t => exact ih (wellFormed.target_lt found fired)

/-- A walk of a well-formed graph always succeeds or fails. -/
theorem WellFormed.walk_ne_lost {g : Graph} (wellFormed : g.WellFormed) (text : List Char)
    (mode : Mode) (fault : Fault) : (g.walk text mode).outcome ≠ .lost fault :=
  wellFormed.continueFrom_ne_lost wellFormed.nonempty text fault

end PatternGraph.Graph
