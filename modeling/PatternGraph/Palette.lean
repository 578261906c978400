/-!
# Colours of dumps and traces

A line is a list of fragments, some of them inked; a palette turns it into text. The plain palette
writes the texts alone, so colour is decoration.
-/
namespace PatternGraph

inductive Ink where
  | blue | green | red | dim
  deriving DecidableEq, Repr

/-- A piece of a line. -/
inductive Fragment where
  | plain (text : String)
  | inked (ink : Ink) (text : String)
  deriving DecidableEq, Repr

def Fragment.text : Fragment → String
  | plain text => text
  | inked _ text => text

/-- The code that switches each ink on, and the one that switches back. -/
structure Palette where
  blue : String
  green : String
  red : String
  dim : String
  reset : String
  deriving DecidableEq, Repr

namespace Palette

def plain : Palette := ⟨"", "", "", "", ""⟩

/-- Codes of the standard sixteen colours, readable on light and on dark terminals. -/
def colored : Palette := ⟨"\x1b[34m", "\x1b[32m", "\x1b[31m", "\x1b[2m", "\x1b[0m"⟩

def ofEnabled (enabled : Bool) : Palette := if enabled then colored else plain

instance : Inhabited Palette := ⟨plain⟩

def isEnabled (palette : Palette) : Bool := !palette.reset.isEmpty

def code (palette : Palette) : Ink → String
  | .blue => palette.blue
  | .green => palette.green
  | .red => palette.red
  | .dim => palette.dim

def paintFragment (palette : Palette) : Fragment → String
  | .plain text => text
  | .inked ink text => palette.code ink ++ text ++ palette.reset

def paint (palette : Palette) : List Fragment → String
  | [] => ""
  | fragment :: rest => palette.paintFragment fragment ++ palette.paint rest

end Palette

end PatternGraph
