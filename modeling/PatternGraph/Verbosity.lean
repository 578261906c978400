/-!
# Verbosity of traces

One level governs both the trace of a compilation and the trace of a walk.
-/
namespace PatternGraph

inductive Verbosity where
  /-- Construction steps and walk steps. -/
  | default
  /-- Also the grammar rules entered. -/
  | verbose
  /-- Also the states entered by a walk. -/
  | veryVerbose
  deriving DecidableEq, Repr

namespace Verbosity

instance : Inhabited Verbosity := ⟨.default⟩

/-- The level asked for by repeating a flag. -/
def ofCount : Nat → Verbosity
  | 0 => .default
  | 1 => .verbose
  | _ => .veryVerbose

def showsRules : Verbosity → Bool
  | .default => false
  | .verbose | .veryVerbose => true

def showsEntries : Verbosity → Bool
  | .default | .verbose => false
  | .veryVerbose => true

def name : Verbosity → String
  | .default => "Default"
  | .verbose => "Verbose"
  | .veryVerbose => "VeryVerbose"

end Verbosity

end PatternGraph
