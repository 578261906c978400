/-!
# JSON over indented lines

A value is written as a list of lines, two spaces deeper for each level. Nothing but a list or an
object with something in it takes more than one line.
-/
namespace PatternGraph.Json

def escapeChar (c : Char) : List Char :=
  if c = '"' then ['\\', '"']
  else if c = '\\' then ['\\', '\\']
  else if c = '\n' then ['\\', 'n']
  else if c = '\r' then ['\\', 'r']
  else if c = '\t' then ['\\', 't']
  else if c.toNat = 0x08 then ['\\', 'b']
  else if c.toNat = 0x0C then ['\\', 'f']
  else if c.toNat < 0x20 then
    ['\\', 'u', '0', '0', Nat.digitChar (c.toNat / 16), Nat.digitChar (c.toNat % 16)]
  else [c]

/-- A text between quotes. -/
def quote (text : String) : String :=
  "\"" ++ String.ofList (text.toList.flatMap escapeChar) ++ "\""

def text (value : String) : List String := [quote value]

def number (value : Nat) : List String := [toString value]

def bool (value : Bool) : List String := [if value then "true" else "false"]

/-- The lines of several values, with a comma behind each but the last. -/
def separate : List (List String) → List String
  | [] => []
  | [last] => last
  | value :: rest =>
    value.dropLast ++ (value.getLast?.map (· ++ ",")).toList ++ separate rest

/-- Lines between an opening and a closing, on one line if there are none. -/
def enclose (opening closing : String) (lines : List String) : List String :=
  if lines.isEmpty then [opening ++ closing]
  else [opening] ++ lines.map ("  " ++ ·) ++ [closing]

def list (values : List (List String)) : List String := enclose "[" "]" (separate values)

/-- A value behind its name. -/
def field (name : String) : List String → List String
  | [] => []
  | first :: rest => (quote name ++ ": " ++ first) :: rest

def object (fields : List (String × List String)) : List String :=
  enclose "\x7b" "\x7d" (separate (fields.map fun (name, value) => field name value))

end PatternGraph.Json
