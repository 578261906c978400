/-!
# Command line arguments

A subcommand comes first; its options and its positional arguments may be mixed. `--` makes
everything behind it positional. Each option is given at most once, the verbosity flag apart.
-/
namespace PatternGraph.Command

inductive Subcommand where
  | matching | check | dump | trace
  deriving DecidableEq, Repr

namespace Subcommand

def all : List Subcommand := [matching, check, dump, trace]

def name : Subcommand → String
  | matching => "match"
  | check => "check"
  | dump => "dump"
  | trace => "trace"

def ofName? (name : String) : Option Subcommand := all.find? (·.name = name)

/-- A subcommand that takes `count` positional arguments takes one more. -/
def admitsAfter : Subcommand → (count : Nat) → Bool
  | matching, _ => true
  | check, count | dump, count => count = 0
  | trace, count => count < 2

def takesFull : Subcommand → Bool
  | matching | trace => true
  | check | dump => false

def takesJson (command : Subcommand) : Bool := command = dump

def takesVerbose (command : Subcommand) : Bool := command = trace

end Subcommand

inductive ColorChoice where
  | auto | always | never
  deriving DecidableEq, Repr

namespace ColorChoice

def all : List ColorChoice := [auto, always, never]

def name : ColorChoice → String
  | auto => "auto"
  | always => "always"
  | never => "never"

def ofName? (name : String) : Option ColorChoice := all.find? (·.name = name)

/-- Whether to write colours; left to itself, only where both outputs are a terminal. -/
def isEnabled (choice : ColorChoice) (onTerminal : Bool) : Bool :=
  match choice with
  | auto => onTerminal
  | always => true
  | never => false

end ColorChoice

/-- The arguments of a subcommand. -/
structure Options where
  positionals : List String := []
  file : Option String := none
  color : Option ColorChoice := none
  full : Bool := false
  json : Bool := false
  verbose : Nat := 0
  deriving DecidableEq, Repr

/-- Why arguments lead to no run of a subcommand. -/
inductive Refusal where
  /-- They do not have the form that they should have. -/
  | usage
  /-- They ask for help. -/
  | help
  deriving DecidableEq, Repr

/-- The options that take a value. -/
inductive ValueOption where
  | file | color
  deriving DecidableEq, Repr

/-- What is read so far, and what the next argument has to be. -/
structure Reader where
  options : Options := {}
  /-- The option that the next argument is the value of. -/
  awaited : Option ValueOption := none
  /-- Behind `--`. -/
  onlyPositionals : Bool := false
  deriving DecidableEq, Repr

namespace Reader

def addPositional (command : Subcommand) (r : Reader) (text : String) : Except Refusal Reader :=
  if command.admitsAfter r.options.positionals.length then
    .ok { r with options.positionals := r.options.positionals ++ [text] }
  else .error .usage

/-- Give an option the value it awaits. A file has a name. -/
def setValue (r : Reader) (option : ValueOption) (value : String) : Except Refusal Reader :=
  match option with
  | .file =>
    if r.options.file.isSome || value.isEmpty then .error .usage
    else .ok { r with options.file := some value, awaited := none }
  | .color =>
    match r.options.color, ColorChoice.ofName? value with
    | none, some choice => .ok { r with options.color := some choice, awaited := none }
    | _, _ => .error .usage

def await (r : Reader) (option : ValueOption) : Reader := { r with awaited := some option }

/-- An option that takes a value, with the one attached to it or in wait for it. -/
def readValueOption (r : Reader) (option : ValueOption) : Option String → Except Refusal Reader
  | none => .ok (r.await option)
  | some value => r.setValue option value

/-- An option without a value, which its command takes and which is not yet given. -/
def setFlag (r : Reader) (admitted : Bool) (given : Options → Bool) (give : Options → Options)
    (attached : Option String) : Except Refusal Reader :=
  if admitted && !given r.options && attached.isNone then
    .ok { r with options := give r.options }
  else .error .usage

/-- Read an option by its long name, with the value behind its `=` if there is one. -/
def readLong (command : Subcommand) (r : Reader) (name : String) (attached : Option String) :
    Except Refusal Reader :=
  match name with
  | "file" => r.readValueOption .file attached
  | "color" => r.readValueOption .color attached
  | "full" => r.setFlag command.takesFull (·.full) ({ · with full := true }) attached
  | "json" => r.setFlag command.takesJson (·.json) ({ · with json := true }) attached
  | "help" => .error (if attached.isNone then .help else .usage)
  | _ => .error .usage

/-- Read options by their letters. What follows the letter of an option with a value is its value,
without a `=` in front. -/
def readShort (command : Subcommand) (r : Reader) : List Char → Except Refusal Reader
  | [] => .ok r
  | 'v' :: rest =>
    if command.takesVerbose then
      readShort command { r with options.verbose := r.options.verbose + 1 } rest
    else .error .usage
  | 'f' :: rest =>
    match rest with
    | [] => .ok (r.await .file)
    | '=' :: value => r.setValue .file (String.ofList value)
    | value => r.setValue .file (String.ofList value)
  | 'h' :: _ => .error .help
  | _ => .error .usage

/-- A long option is its name, or its name and its value around a `=`. -/
def splitLong (option : List Char) : String × Option String :=
  let name := String.ofList (option.takeWhile (· ≠ '='))
  match option.dropWhile (· ≠ '=') with
  | [] => (name, none)
  | _ :: value => (name, some (String.ofList value))

/-- Read one argument. A lone hyphen is not an option. -/
def read (command : Subcommand) (r : Reader) (argument : String) : Except Refusal Reader :=
  if r.onlyPositionals then r.addPositional command argument
  else
    match argument.toList, r.awaited with
    | ['-', '-'], none => .ok { r with onlyPositionals := true }
    | '-' :: '-' :: option, none =>
      let (name, attached) := splitLong option
      r.readLong command name attached
    | '-' :: letter :: rest, none => r.readShort command (letter :: rest)
    | '-' :: _ :: _, some _ => .error .usage
    | _, some option => r.setValue option argument
    | _, none => r.addPositional command argument

end Reader

/-- Read the arguments of a subcommand. -/
def Options.ofArguments (command : Subcommand) (arguments : List String) :
    Except Refusal Options := do
  let r ← arguments.foldlM (Reader.read command) {}
  match r.awaited with
  | none => return r.options
  | some _ => .error .usage

/-- Read all arguments: the subcommand, then those of its own. -/
def ofArguments : List String → Except Refusal (Subcommand × Options)
  | [] => .error .usage
  | first :: rest =>
    match Subcommand.ofName? first with
    | some command => (Options.ofArguments command rest).map (command, ·)
    | none => .error (if ["help", "-h", "--help"].contains first then .help else .usage)

end PatternGraph.Command
