/-!
# Diagnostics

What is wrong with a pattern, where, and how it could be mended.
-/
namespace PatternGraph

/-- Bytes `start` up to but not including `stop` of a source. -/
structure Span where
  start : Nat
  stop : Nat
  deriving DecidableEq, Repr, Inhabited

namespace Diagnostic

/-- The causes of failure. The first one is found while cutting the source into tokens, the others
while reading the tokens. -/
inductive Kind where
  | unrecognizedInput
  | expectedAtom
  | expectedClassMember
  | unclosedClass
  | nothingToRepeat
  | unmatchedClassClose
  deriving DecidableEq, Repr

namespace Kind

def all : List Kind :=
  [unrecognizedInput, expectedAtom, expectedClassMember, unclosedClass, nothingToRepeat,
    unmatchedClassClose]

def name : Kind → String
  | unrecognizedInput => "UnrecognizedInput"
  | expectedAtom => "ExpectedAtom"
  | expectedClassMember => "ExpectedClassMember"
  | unclosedClass => "UnclosedClass"
  | nothingToRepeat => "NothingToRepeat"
  | unmatchedClassClose => "UnmatchedClassClose"

def isLexical (kind : Kind) : Bool := kind = unrecognizedInput

/-- General advice that goes with a cause. -/
def hint? : Kind → Option String
  | unrecognizedInput =>
    some "patterns use letters, digits, `_`, `.`, `*`, `+`, `?` and `[...]`"
  | expectedClassMember => some "classes list literal characters, e.g. `[abc]`"
  | _ => none

/-- The message where there is nothing particular to name. -/
def bareMessage : Kind → String
  | unrecognizedInput => "unrecognized character"
  | expectedAtom => "expected a character, `.` or `[`"
  | expectedClassMember => "expected a character inside `[...]`"
  | unclosedClass => "unclosed character class"
  | nothingToRepeat => "quantifier has nothing to repeat"
  | unmatchedClassClose => "unmatched `]`"

/-- The message that names what was found. -/
def messageNaming (kind : Kind) (found : String) : String :=
  match kind with
  | nothingToRepeat => "quantifier " ++ found ++ " has nothing to repeat"
  | _ => kind.bareMessage ++ ", found " ++ found

def message (kind : Kind) : Option String → String
  | none => kind.bareMessage
  | some found => kind.messageNaming found

end Kind

/-- A second place that explains a diagnostic. -/
structure Related where
  range : Span
  message : String
  deriving DecidableEq, Repr

/-- A replacement that would mend the source. -/
structure Fix where
  range : Span
  replacement : String
  description : String
  deriving DecidableEq, Repr

end Diagnostic

/-- A failure located in a source. -/
structure Diagnostic where
  kind : Diagnostic.Kind
  range : Span
  message : String
  related : List Diagnostic.Related := []
  fix : Option Diagnostic.Fix := none
  deriving DecidableEq, Repr

namespace Diagnostic

/-- A diagnostic with the bare message of its kind. -/
def bare (kind : Kind) (range : Span) : Diagnostic := ⟨kind, range, kind.bareMessage, [], none⟩

/-- A diagnostic that names what stands at its range. -/
def naming (kind : Kind) (range : Span) (found : String) : Diagnostic :=
  ⟨kind, range, kind.messageNaming found, [], none⟩

def hint? (d : Diagnostic) : Option String := d.kind.hint?

def Related.summary (r : Related) : String :=
  " (" ++ r.message ++ " at " ++ toString r.range.start ++ ".." ++ toString r.range.stop ++ ")"

/-- The diagnostic in one line. -/
def summary (d : Diagnostic) : String :=
  "error at " ++ toString d.range.start ++ ".." ++ toString d.range.stop ++ ": " ++ d.message ++
    String.join (d.related.map Related.summary)

end Diagnostic

end PatternGraph
