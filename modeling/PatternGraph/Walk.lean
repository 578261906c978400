import PatternGraph.Graph.Dump
import PatternGraph.Text.Bytes
import PatternGraph.Verbosity

/-!
# Walking a graph over a text

From the start state on, each character of the text takes the first transition that fires on it.
A leading walk ends at the first accepting state; a whole walk goes on to the end of the text.
-/
namespace PatternGraph

/-- How much of the text a walk has to consume. -/
inductive Mode where
  | leading | whole
  deriving DecidableEq, Repr

instance : Inhabited Mode := ⟨.leading⟩

/-- A successful walk: the byte offset behind the last character consumed and the accepting state
reached. -/
structure Match where
  stop : Nat
  state : StateId
  deriving DecidableEq, Repr

def Match.isEmpty (m : Match) : Bool := m.stop = 0

namespace Walk

inductive Event where
  | enter (state : StateId) (offset : Nat)
  | step (origin target : StateId) (c : Char)
  | stuck (state : StateId) (c : Char)
  | exhausted (state : StateId)
  | accept (state : StateId) (offset : Nat)
  deriving DecidableEq, Repr

/-- How a walk ends. -/
inductive Outcome where
  | success (m : Match)
  | failure
  /-- A transition led to a state that the graph does not hold. -/
  | lost (fault : Fault)
  deriving DecidableEq, Repr

def Outcome.match? : Outcome → Option Match
  | success m => some m
  | failure | lost _ => none

namespace Event

def charFragment (ink : Ink) (c : Char) : Fragment :=
  .inked ink (String.ofList (Text.Escape.quotedChar c))

def fragments : Event → List Fragment
  | enter state offset =>
    [.plain "  ", .inked .dim "enter", .plain "  ", state.fragment,
      .plain (" at " ++ toString offset)]
  | step origin target c =>
    [.plain "  step   ", origin.fragment, .plain " -> ", target.fragment, .plain " on ",
      charFragment .green c]
  | stuck state c =>
    [.plain "  ", .inked .red "stuck", .plain "  ", state.fragment, .plain " on ",
      charFragment .red c]
  | exhausted state =>
    [.plain "  ", .inked .red "end", .plain "    ", state.fragment, .plain " ",
      .inked .dim "(not accepting)"]
  | accept state offset =>
    [.plain "  ", .inked .green "accept", .plain " ", state.fragment,
      .plain (" at " ++ toString offset)]

/-- Entries are told at the highest level only, all else always. -/
def shownAt (verbosity : Verbosity) : Event → Bool
  | enter .. => verbosity.showsEntries
  | step .. | stuck .. | exhausted _ | accept .. => true

end Event

end Walk

structure Walk where
  events : List Walk.Event
  outcome : Walk.Outcome

namespace Walk

/-- The same walk with events before it. -/
def after (w : Walk) (events : List Event) : Walk := ⟨events ++ w.events, w.outcome⟩

def match? (w : Walk) : Option Match := w.outcome.match?

/-- Walk on from `state`, which is entered at byte `offset`. -/
def continueFrom (g : Graph) (mode : Mode) (state : StateId) (offset : Nat) : List Char → Walk
  | [] =>
    match g.state state with
    | .error fault => ⟨[.enter state offset], .lost fault⟩
    | .ok current =>
      if current.accept then
        ⟨[.enter state offset, .accept state offset], .success ⟨offset, state⟩⟩
      else ⟨[.enter state offset, .exhausted state], .failure⟩
  | c :: rest =>
    match g.state state with
    | .error fault => ⟨[.enter state offset], .lost fault⟩
    | .ok current =>
      if mode = .leading ∧ current.accept then
        ⟨[.enter state offset, .accept state offset], .success ⟨offset, state⟩⟩
      else
        match current.next? c with
        | none => ⟨[.enter state offset, .stuck state c], .failure⟩
        | some t =>
          (continueFrom g mode t.target (offset + c.utf8Size) rest).after
            [.enter state offset, .step state t.target c]

/-- The events as lines of a trace. -/
def trace (w : Walk) (verbosity : Verbosity) (palette : Palette) : List String :=
  (w.events.filter (·.shownAt verbosity)).map fun event => palette.paint event.fragments

end Walk

namespace Graph

def walk (g : Graph) (text : List Char) (mode : Mode) : Walk :=
  Walk.continueFrom g mode start 0 text

def run (g : Graph) (text : List Char) (mode : Mode) : Option Match := (g.walk text mode).match?

end Graph

end PatternGraph
