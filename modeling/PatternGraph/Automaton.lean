import PatternGraph.Pattern.Compilation
import PatternGraph.Walk

/-!
# Automata

A compiled pattern: the source it was made from and its graph, with the questions one asks of it.
-/
namespace PatternGraph

structure Automaton where
  pattern : String
  graph : Graph
  deriving DecidableEq

namespace Automaton

def compile (pattern : String) : Except CompileError Automaton :=
  (PatternGraph.compile pattern.toList).map fun graph => ⟨pattern, graph⟩

/-- The first prefix of `text` that reaches an accepting state. -/
def matchLeading (a : Automaton) (text : String) : Option Match := a.graph.run text.toList .leading

/-- The whole of `text`, if it ends in an accepting state. -/
def matchWhole (a : Automaton) (text : String) : Option Match := a.graph.run text.toList .whole

def isMatch (a : Automaton) (text : String) : Bool := (a.matchLeading text).isSome

def isWholeMatch (a : Automaton) (text : String) : Bool := (a.matchWhole text).isSome

def walk (a : Automaton) (text : String) (mode : Mode) : Walk := a.graph.walk text.toList mode

def dump (a : Automaton) (palette : Palette) : String := a.graph.dump palette

end Automaton

end PatternGraph
