import PatternGraph.SymbolSet

/-!
# State graphs

A graph is an arena of states numbered from the start state 0. The transitions of a state are kept
in the order they were added: a walk takes the first one that fires, so the order decides where
symbol sets overlap.
-/
namespace PatternGraph

/-- The number of a state in its graph. Numbers below `2 ^ 32` are available; no operation checks
that one is left. -/
abbrev StateId := Nat

/-- How a state is named in texts. -/
def StateId.name (id : StateId) : String := "S" ++ toString id

structure Transition where
  target : StateId
  symbols : SymbolSet
  deriving DecidableEq

def Transition.firesOn (t : Transition) (c : Char) : Bool := t.symbols.contains c

structure State where
  transitions : List Transition := []
  accept : Bool := false
  deriving DecidableEq, Inhabited

/-- The first transition that fires on `c`. -/
def State.next? (state : State) (c : Char) : Option Transition :=
  state.transitions.find? (·.firesOn c)

/-- A state number used with an arena that does not hold it. -/
inductive Fault where
  /-- The target of a transition was never allocated. -/
  | targetUnallocated (id : StateId)
  /-- The state to change was never allocated among the `count` states so far. -/
  | stateUnallocated (id : StateId) (count : Nat)
  /-- A finished graph of `count` states has no such state. -/
  | stateMissing (id : StateId) (count : Nat)
  deriving DecidableEq, Repr

def Fault.message : Fault → String
  | targetUnallocated id => "StateGraphBuilder: " ++ id.name ++ " was never allocated"
  | stateUnallocated id count =>
    "StateGraphBuilder: " ++ id.name ++ " was never allocated (" ++ toString count ++ " states)"
  | stateMissing id count =>
    "StateGraph: " ++ id.name ++ " not found in a graph of " ++ toString count ++
      " states (state IDs are only valid for the graph that produced them)"

structure Graph where
  states : Array State
  deriving DecidableEq

namespace Graph

def start : StateId := 0

def size (g : Graph) : Nat := g.states.size

def isEmpty (g : Graph) : Bool := g.states.isEmpty

def get? (g : Graph) (id : StateId) : Option State := g.states[id]?

theorem ext_get? {g h : Graph} (same : ∀ id, g.get? id = h.get? id) : g = h :=
  congrArg mk (Array.ext_getElem? same)

/-- The state numbered `id`, which is a fault to ask for where the graph has none. -/
def state (g : Graph) (id : StateId) : Except Fault State :=
  match g.get? id with
  | some state => .ok state
  | none => .error (.stateMissing id g.size)

/-- The accepting states in ascending order. -/
def acceptStates (g : Graph) : List StateId :=
  (List.range g.size).filter fun id => (g.get? id).any (·.accept)

def transitionCount (g : Graph) : Nat :=
  (g.states.toList.map (·.transitions.length)).foldr (· + ·) 0

end Graph

end PatternGraph
