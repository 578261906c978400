import PatternGraph.Automaton
import PatternGraph.Json

/-!
# JSON dump of an automaton
-/
namespace PatternGraph

def SymbolSet.json (s : SymbolSet) : List String := Json.text (String.ofList s.members)

def Transition.json (t : Transition) : List String :=
  Json.object [("target", Json.number t.target), ("symbols", t.symbols.json)]

def State.json (state : State) : List String :=
  Json.object [("transitions", Json.list (state.transitions.map Transition.json)),
    ("accept", Json.bool state.accept)]

def Graph.json (g : Graph) : List String :=
  Json.object [("states", Json.list (g.states.toList.map State.json))]

def Automaton.json (a : Automaton) : List String :=
  Json.object [("pattern", Json.text a.pattern), ("graph", a.graph.json)]

end PatternGraph
