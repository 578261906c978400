import PatternGraph.Graph

/-!
# Building a graph

A builder starts with the start state alone. Each operation names the states it is about; an
operation on a state that was never allocated is a fault and leaves nothing changed.
-/
namespace PatternGraph.Graph

structure Builder where
  states : Array State
  deriving DecidableEq

namespace Builder

def new : Builder := ⟨#[{}]⟩

instance : Inhabited Builder := ⟨new⟩

def size (b : Builder) : Nat := b.states.size

def isEmpty (b : Builder) : Bool := b.states.isEmpty

/-- Allocate a state without transitions. With `2 ^ 32` states in the arena no number is left for
one more, and adding it would stop with `state arena overflow`. That limit is not checked here. -/
def addState (b : Builder) : StateId × Builder :=
  (b.size, ⟨b.states.push {}⟩)

/-- Change a state that must have been allocated. -/
def update (b : Builder) (id : StateId) (change : State → State) : Except Fault Builder :=
  if id < b.size then .ok ⟨b.states.modify id change⟩
  else .error (.stateUnallocated id b.size)

/-- Append a transition to those of `origin`. Of two unallocated states `target` is the one
reported. -/
def connect (b : Builder) (origin target : StateId) (symbols : SymbolSet) : Except Fault Builder :=
  if target < b.size then
    b.update origin fun state =>
      { state with transitions := state.transitions ++ [⟨target, symbols⟩] }
  else .error (.targetUnallocated target)

def markAccept (b : Builder) (id : StateId) : Except Fault Builder :=
  b.update id fun state => { state with accept := true }

/-- The graph as it is built so far. -/
def finish (b : Builder) : Graph := ⟨b.states⟩

end Builder

end PatternGraph.Graph
