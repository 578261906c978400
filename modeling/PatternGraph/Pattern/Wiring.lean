import PatternGraph.Graph.Builder
import PatternGraph.Pattern.Parse

/-!
# Wiring elements into a graph

An element is wired as soon as it is recognised, in a way that depends on the token behind it:

| behind it  | wiring                                                                     |
|------------|----------------------------------------------------------------------------|
| `*`        | a self-loop on the cursor, which stays                                     |
| `+`        | a new state with a self-loop, an edge from the cursor to it; the cursor    |
|            | moves there                                                                |
| other      | a new state, a bypass edge to it from the pending state if there is one,   |
|            | an edge from the cursor to it; the cursor moves there                      |

An element under `?` leaves the state before it pending, so that the next element of the last row
gets an edge that skips the optional one; `*` and `+` elements let it wait. It also makes that
state skippable: the state accepts if no other element follows.
-/
namespace PatternGraph

/-- What happens while a pattern is compiled. -/
inductive Compilation.Event where
  | rule (rule : Rule) (lookahead : Token.Kind)
  | newState (id : StateId)
  | edge (origin target : StateId) (symbols : SymbolSet)
  | accept (id : StateId)
  deriving DecidableEq

/-- A graph under construction, with the record of what was done so far. -/
structure Wiring where
  builder : Graph.Builder := .new
  /-- The state that the next element leaves from. -/
  cursor : StateId := Graph.start
  /-- The state before the last optional element that no edge bypasses yet. -/
  pending : Option StateId := none
  /-- The state before the last element, if that is optional. -/
  skippable : Option StateId := none
  events : Array Compilation.Event := #[]

namespace Wiring

def record (w : Wiring) (event : Compilation.Event) : Wiring :=
  { w with events := w.events.push event }

def addState (w : Wiring) : StateId × Wiring :=
  let (id, builder) := w.builder.addState
  (id, { w with builder }.record (.newState id))

def connect (w : Wiring) (origin target : StateId) (symbols : SymbolSet) :
    Except Fault Wiring := do
  let builder ← w.builder.connect origin target symbols
  return { w with builder }.record (.edge origin target symbols)

/-- Connect `origin` to `target` if there is an origin. -/
def connectFrom? (w : Wiring) (origin : Option StateId) (target : StateId)
    (symbols : SymbolSet) : Except Fault Wiring :=
  match origin with
  | none => .ok w
  | some origin => w.connect origin target symbols

def markAccept (w : Wiring) (id : StateId) : Except Fault Wiring := do
  let builder ← w.builder.markAccept id
  return { w with builder }.record (.accept id)

/-- Wire an element under `*`. -/
def starred (w : Wiring) (symbols : SymbolSet) : Except Fault Wiring := do
  let w ← w.connect w.cursor w.cursor symbols
  return { w with skippable := none }

/-- Wire an element under `+`. -/
def repeated (w : Wiring) (symbols : SymbolSet) : Except Fault Wiring := do
  let origin := w.cursor
  let (target, w) := w.addState
  let w ← w.connect target target symbols
  let w ← w.connect origin target symbols
  return { w with cursor := target, skippable := none }

/-- Wire an element under `?` or under no quantifier. -/
def single (w : Wiring) (symbols : SymbolSet) (optional : Bool) : Except Fault Wiring := do
  let origin := w.cursor
  let waiting := w.pending
  let (target, w) := w.addState
  let w ← w.connectFrom? waiting target symbols
  let w ← w.connect origin target symbols
  let skipped := if optional then some origin else none
  return { w with cursor := target, pending := skipped, skippable := skipped }

/-- Wire an element with a token of kind `lookahead` behind it. -/
def element (w : Wiring) (symbols : SymbolSet) (lookahead : Token.Kind) : Except Fault Wiring :=
  match lookahead with
  | .star => w.starred symbols
  | .plus => w.repeated symbols
  | _ => w.single symbols (lookahead = .question)

def step (w : Wiring) : Parse.Step → Except Fault Wiring
  | .rule rule lookahead => .ok (w.record (.rule rule lookahead))
  | .element symbols lookahead => w.element symbols lookahead

/-- Take the steps of a parse as far as no fault arises. -/
def steps (w : Wiring) : List Parse.Step → Wiring × Option Fault
  | [] => (w, none)
  | s :: rest =>
    match w.step s with
    | .ok next => next.steps rest
    | .error fault => (w, some fault)

/-- Mark the accepting states: the last one, and the one before it if the last element may be
left out. -/
def finish (w : Wiring) : Except Fault Wiring := do
  let w' ← w.markAccept w.cursor
  match w.skippable with
  | none => return w'
  | some id => w'.markAccept id

end Wiring

end PatternGraph
