import PatternGraph.Command.Arguments
import PatternGraph.Verbosity
import PatternGraph.Walk

/-!
# Requests

What a command line asks for. A text given for the pattern wins over a file. Where the pattern comes
from a file, the first positional argument is a text to match: for `match` always, for `trace` if it
is the only one.
-/
namespace PatternGraph.Command

/-- Where a pattern comes from. -/
inductive PatternSource where
  | given (pattern : String)
  | file (path : String)
  | standardInput
  deriving DecidableEq, Repr

namespace PatternSource

/-- The file named `-` is the standard input. -/
def ofFile (path : String) : PatternSource := if path = "-" then standardInput else file path

def choose? (pattern file : Option String) : Option PatternSource :=
  match pattern with
  | some pattern => some (given pattern)
  | none => file.map ofFile

/-- The name of the source in a report. -/
def label? : PatternSource → Option String
  | given _ => none
  | file path => some path
  | standardInput => some "<stdin>"

end PatternSource

inductive Request where
  | matching (source : Option PatternSource) (texts : List String) (mode : Mode) (color : Bool)
  | check (source : Option PatternSource) (color : Bool)
  | dump (source : Option PatternSource) (json color : Bool)
  | trace (source : Option PatternSource) (text : Option String) (mode : Mode)
      (verbosity : Verbosity) (color : Bool)
  deriving DecidableEq, Repr

namespace Request

def ofOptions (command : Subcommand) (o : Options) (onTerminal : Bool) : Request :=
  let color := (o.color.getD .auto).isEnabled onTerminal
  let mode : Mode := if o.full then .whole else .leading
  match command with
  | .matching =>
    if o.file.isSome then matching (PatternSource.choose? none o.file) o.positionals mode color
    else matching (PatternSource.choose? o.positionals.head? none) o.positionals.tail mode color
  | .check => check (PatternSource.choose? o.positionals.head? o.file) color
  | .dump => dump (PatternSource.choose? o.positionals.head? o.file) o.json color
  | .trace =>
    let verbosity := Verbosity.ofCount o.verbose
    match o.file, o.positionals with
    | some _, [text] => trace (PatternSource.choose? none o.file) (some text) mode verbosity color
    | _, positionals =>
      trace (PatternSource.choose? positionals.head? o.file) positionals.tail.head? mode verbosity
        color

def ofArguments (arguments : List String) (onTerminal : Bool) : Except Refusal Request :=
  (Command.ofArguments arguments).map fun (command, options) =>
    ofOptions command options onTerminal

def source : Request → Option PatternSource
  | matching source .. | check source _ | dump source .. | trace source .. => source

/-- The standard input supplies the pattern, or the texts to match if there are no others. -/
def readsInput (request : Request) : Bool :=
  request.source = some .standardInput ||
    match request with
    | matching _ texts .. => texts.isEmpty
    | _ => false

end Request

end PatternGraph.Command
