import PatternGraph.Automaton.Json
import PatternGraph.Command.Request
import PatternGraph.Report

/-!
# Answering requests

An answer is a function of the request, the files and the bytes on the standard input.
-/
namespace PatternGraph.Command

/-- Why a file could not be read. -/
inductive ReadFailure where
  | missing
  | directory
  | forbidden
  | notText
  | other (description : String)
  deriving DecidableEq, Repr

def ReadFailure.message : ReadFailure → String
  | missing => "No such file or directory (os error 2)"
  | directory => "Is a directory (os error 21)"
  | forbidden => "Permission denied (os error 13)"
  | notText => "stream did not contain valid UTF-8"
  | other description => description

/-- What an answer may depend on beside the request. -/
structure Environment where
  contents : String → Except ReadFailure (List UInt8)
  input : List UInt8

/-- What a run leaves behind. -/
structure Answer where
  status : Nat
  output : String := ""
  errors : String := ""
  deriving DecidableEq, Repr

namespace Answer

def success (output : String) : Answer := { status := 0, output }

/-- A run that ends with a message; one that is complained about has status 1. -/
def failing (message : String) : Answer := { status := 1, errors := message ++ "\n" }

def error (message : String) : Answer := failing ("error: " ++ message)

/-- The same answer with output in front. -/
def after (a : Answer) (output : String) : Answer := { a with output := output ++ a.output }

end Answer

/-- The failure to read the standard input as text. -/
def inputFailure : Answer := .error ("failed to read stdin: " ++ ReadFailure.notText.message)

def fileFailure (path : String) (failure : ReadFailure) : Answer :=
  .error ("failed to read '" ++ path ++ "': " ++ failure.message)

/-- The pattern that a source gives, without the line ending at the end of a file. -/
def PatternSource.load (env : Environment) : PatternSource → Except Answer String
  | .given pattern => .ok pattern
  | .file path =>
    match env.contents path with
    | .error failure => .error (fileFailure path failure)
    | .ok bytes =>
      match Text.decode? bytes with
      | none => .error (fileFailure path .notText)
      | some text => .ok (String.ofList (Text.withoutLineEnding text))
  | .standardInput =>
    match Text.decode? env.input with
    | none => .error inputFailure
    | some text => .ok (String.ofList (Text.withoutLineEnding text))

def load (env : Environment) : Option PatternSource → Except Answer String
  | none => .error (.error "pattern is required: use a positional argument or -f/--file")
  | some source => source.load env

/-- The complaint about a pattern that does not compile. -/
def compileFailure (source : Option PatternSource) (pattern : String) (color : Bool)
    (failure : CompileError) : Answer :=
  match failure.diagnostic? with
  | some diagnostic =>
    .failing (diagnostic.report pattern.toList (source.bind (·.label?)) color)
  | none => .error failure.message

def automaton (source : Option PatternSource) (pattern : String) (color : Bool) :
    Except Answer Automaton :=
  (Automaton.compile pattern).mapError (compileFailure source pattern color)

/-- Load and compile the pattern of a request. -/
def loadAutomaton (env : Environment) (source : Option PatternSource) (color : Bool) :
    Except Answer Automaton := do
  let pattern ← load env source
  automaton source pattern color

def boolLine (value : Bool) : String := if value then "true\n" else "false\n"

/-- Whether a text matches, as a line of output. -/
def answerText (a : Automaton) (mode : Mode) (text : String) : String :=
  boolLine (a.graph.run text.toList mode).isSome

def answerTexts (a : Automaton) (mode : Mode) (texts : List String) : String :=
  String.join (texts.map (answerText a mode))

/-- Answer each line of a stream up to the first one that is not text. -/
def answerLines (a : Automaton) (mode : Mode) : List (List UInt8) → Answer
  | [] => .success ""
  | line :: rest =>
    match Text.decode? line with
    | none => inputFailure
    | some text =>
      (answerLines a mode rest).after
        (answerText a mode (String.ofList (Text.withoutLineEnding text)))

def runMatching (env : Environment) (source : Option PatternSource) (texts : List String)
    (mode : Mode) (color : Bool) : Except Answer Answer := do
  if texts.isEmpty && source = some .standardInput then
    .error (.error "stdin cannot supply both the pattern and the texts")
  else
    let a ← loadAutomaton env source color
    if texts.isEmpty then return answerLines a mode (Text.lines env.input)
    else return .success (answerTexts a mode texts)

/-- Silent on success. -/
def runCheck (env : Environment) (source : Option PatternSource) (color : Bool) :
    Except Answer Answer := do
  let _ ← loadAutomaton env source color
  return .success ""

def runDump (env : Environment) (source : Option PatternSource) (json color : Bool) :
    Except Answer Answer := do
  let a ← loadAutomaton env source color
  return .success (if json then "\n".intercalate a.json ++ "\n" else a.dump (.ofEnabled color))

/-- The last line of a trace. -/
def verdict (text : String) : Option Match → List Fragment
  | some m =>
    [.inked .green "true", .plain (" (consumed " ++ toString m.stop ++ " of " ++
      toString (Text.byteLength text.toList) ++ " bytes)")]
  | none => [.inked .red "false"]

/-- The trace of a compilation and of one walk, and the verdict. -/
def traceLines (pattern text : String) (compilation : Compilation) (walk : Walk)
    (verbosity : Verbosity) (palette : Palette) : List String :=
  [palette.paint [.inked .dim "compile", .plain (" " ++ pattern)]] ++
    compilation.trace verbosity palette ++ [""] ++
    [palette.paint [.inked .dim "match",
      .plain (" " ++ String.ofList (Text.Escape.quotedText text.toList))]] ++
    walk.trace verbosity palette ++ ["", palette.paint (verdict text walk.match?)]

def runTrace (env : Environment) (source : Option PatternSource) (text : Option String)
    (mode : Mode) (verbosity : Verbosity) (color : Bool) : Except Answer Answer := do
  let some text := text | .error (.error "text to match is required")
  let pattern ← load env source
  let a ← automaton source pattern color
  let lines := traceLines pattern text (.ofSource pattern.toList) (a.walk text mode) verbosity
    (.ofEnabled color)
  return .success (String.join (lines.map (· ++ "\n")))

/-- An answer reached either way. -/
def settle : Except Answer Answer → Answer
  | .ok answer | .error answer => answer

def Request.run (env : Environment) (request : Request) : Answer :=
  settle <| match request with
    | .matching source texts mode color => runMatching env source texts mode color
    | .check source color => runCheck env source color
    | .dump source json color => runDump env source json color
    | .trace source text mode verbosity color =>
      runTrace env source text mode verbosity color

/-- Arguments of the wrong form give status 2. -/
def Refusal.status : Refusal → Nat
  | .usage => 2
  | .help => 0

end PatternGraph.Command
