import PatternGraph.Graph
import PatternGraph.Palette
import PatternGraph.SymbolSet.Display

/-!
# Text dump of a graph

One line for each state and one, indented, for each of its transitions.
-/
namespace PatternGraph

/-- The display of a symbol set as it appears in dumps and traces. -/
def SymbolSet.fragment (s : SymbolSet) : Fragment := .inked .green (String.ofList s.display)

def StateId.fragment (id : StateId) : Fragment := .inked .blue id.name

def Transition.dumpLine (t : Transition) : List Fragment :=
  [.plain "  ", t.symbols.fragment, .plain " -> ", t.target.fragment, .plain "\n"]

def State.dumpLines (id : StateId) (state : State) : List Fragment :=
  [id.fragment] ++
    (if state.accept then [.plain " ", .inked .dim "(accept)"] else []) ++
    [.plain ":\n"] ++ state.transitions.flatMap Transition.dumpLine

namespace Graph

def dumpFragments (g : Graph) : List Fragment :=
  g.states.toList.zipIdx.flatMap fun (state, id) => state.dumpLines id

def dump (g : Graph) (palette : Palette) : String := palette.paint g.dumpFragments

end Graph

end PatternGraph
