import PatternGraph.Graph.Dump
import PatternGraph.Pattern.Wiring
import PatternGraph.Verbosity

/-!
# Compiling a pattern

The tokens of a pattern are read by the grammar and each element is wired into the graph as it is
recognised. A compilation is what that gives together with the events on the way, which are the
same whoever looks at them.
-/
namespace PatternGraph

/-- Why a pattern has no graph. -/
inductive CompileError where
  /-- A character that belongs to no token. -/
  | lex (diagnostic : Diagnostic)
  /-- Tokens that form no pattern. -/
  | parse (diagnostic : Diagnostic)
  /-- A state was used that the graph does not hold; no pattern leads here. -/
  | internal (fault : Fault)
  deriving DecidableEq

namespace CompileError

def diagnostic? : CompileError → Option Diagnostic
  | lex diagnostic | parse diagnostic => some diagnostic
  | internal _ => none

def message : CompileError → String
  | lex diagnostic => "lex error: " ++ diagnostic.message
  | parse diagnostic => "parse error: " ++ diagnostic.message
  | internal fault => fault.message

end CompileError

namespace Compilation.Event

/-- Rule names stand in a column of this width. -/
def ruleColumn : Nat := 11

def fragments : Event → List Fragment
  | rule r lookahead =>
    let padding := String.ofList (List.replicate (ruleColumn - r.name.length) ' ')
    [.plain "  ", .inked .dim (r.name ++ padding ++ " " ++ lookahead.name)]
  | newState id => [.plain "  new    ", id.fragment]
  | edge origin target symbols =>
    [.plain "  edge   ", origin.fragment, .plain " -> ", target.fragment, .plain " on ",
      symbols.fragment]
  | accept id => [.plain "  accept ", id.fragment]

/-- Rules are told from the second level on, all else always. -/
def shownAt (verbosity : Verbosity) : Event → Bool
  | rule .. => verbosity.showsRules
  | newState _ | edge .. | accept _ => true

end Compilation.Event

structure Compilation where
  events : List Compilation.Event
  result : Except CompileError Graph

namespace Compilation

/-- Wire the steps of a parse. A fault would win over a failure of the parse, since the steps come
first. -/
def ofParse (p : Parse) : Compilation :=
  match ({} : Wiring).steps p.steps with
  | (w, some fault) => ⟨w.events.toList, .error (.internal fault)⟩
  | (w, none) =>
    match p.failure with
    | some diagnostic => ⟨w.events.toList, .error (.parse diagnostic)⟩
    | none =>
      match w.finish with
      | .error fault => ⟨w.events.toList, .error (.internal fault)⟩
      | .ok finished => ⟨finished.events.toList, .ok finished.builder.finish⟩

def ofSource (source : List Char) : Compilation :=
  match Token.ofSource source with
  | .error diagnostic => ⟨[], .error (.lex diagnostic)⟩
  | .ok tokens => ofParse (Parse.ofTokens (Text.byteLength source) tokens)

/-- The events as lines of a trace. -/
def trace (c : Compilation) (verbosity : Verbosity) (palette : Palette) : List String :=
  (c.events.filter (·.shownAt verbosity)).map fun event => palette.paint event.fragments

end Compilation

/-- The graph that a pattern stands for. -/
def compile (source : List Char) : Except CompileError Graph := (Compilation.ofSource source).result

end PatternGraph
