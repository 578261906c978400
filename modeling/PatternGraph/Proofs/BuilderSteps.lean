import PatternGraph.Graph.Builder

/-!
# Steps of a builder

What each operation on allocated states does to the states, seen through their numbers.
-/
namespace PatternGraph.Graph.Builder
variable {b : Builder} {origin target id : Nat}

/-- The builder with a transition appended to those of `origin`. -/
def extended (b : Builder) (origin : StateId) (t : Transition) : Builder :=
  ⟨b.states.modify origin fun state => { state with transitions := state.transitions ++ [t] }⟩

/-- The builder with `id` marked. -/
def accepting (b : Builder) (id : StateId) : Builder :=
  ⟨b.states.modify id fun state => { state with accept := true }⟩

theorem connect_eq_ok (allocatedTarget : target < b.size) (allocatedOrigin : origin < b.size)
    (symbols : SymbolSet) :
    b.connect origin target symbols = .ok (b.extended origin ⟨target, symbols⟩) := by
  rw [connect, if_pos allocatedTarget, update, if_pos allocatedOrigin]
  rfl

theorem connect_eq_error_of_target (unallocated : b.size ≤ target) (origin : StateId)
    (symbols : SymbolSet) :
    b.connect origin target symbols = .error (.targetUnallocated target) := by
  rw [connect, if_neg (Nat.not_lt.2 unallocated)]

theorem connect_eq_error_of_origin (allocatedTarget : target < b.size)
    (unallocated : b.size ≤ origin) (symbols : SymbolSet) :
    b.connect origin target symbols = .error (.stateUnallocated origin b.size) := by
  rw [connect, if_pos allocatedTarget, update, if_neg (Nat.not_lt.2 unallocated)]

theorem markAccept_eq_ok (allocated : id < b.size) : b.markAccept id = .ok (b.accepting id) := by
  rw [markAccept, update, if_pos allocated]
  rfl

theorem markAccept_eq_error (unallocated : b.size ≤ id) :
    b.markAccept id = .error (.stateUnallocated id b.size) := by
  rw [markAccept, update, if_neg (Nat.not_lt.2 unallocated)]

@[simp] theorem size_addState (b : Builder) : b.addState.2.size = b.size + 1 := by
  simp [addState, size]

@[simp] theorem size_extended (b : Builder) (origin : StateId) (t : Transition) :
    (b.extended origin t).size = b.size := by
  simp [extended, size]

@[simp] theorem size_accepting (b : Builder) (id : StateId) :
    (b.accepting id).size = b.size := by
  simp [accepting, size]

theorem getElem?_addState (b : Builder) (k : Nat) :
    b.addState.2.states[k]? = if k = b.size then some {} else b.states[k]? := by
  rw [addState, Array.getElem?_push]
  rfl

theorem getElem?_extended (b : Builder) (origin : StateId) (t : Transition) (k : Nat) :
    (b.extended origin t).states[k]? =
      b.states[k]?.map fun state =>
        { state with transitions := state.transitions ++ if k = origin then [t] else [] } := by
  rw [extended, Array.getElem?_modify]
  by_cases same : k = origin
  · simp [same]
  · simp [same, Ne.symm same]

theorem getElem?_accepting (b : Builder) (id : StateId) (k : Nat) :
    (b.accepting id).states[k]? =
      b.states[k]?.map fun state => { state with accept := state.accept || k = id } := by
  rw [accepting, Array.getElem?_modify]
  by_cases same : k = id
  · simp [same]
  · simp [same, Ne.symm same]

end PatternGraph.Graph.Builder
