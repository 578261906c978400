import PatternGraph.Report.Location
import PatternGraph.Text.Escape

/-!
# Cuts of lines

A range is located by what stands in front of each of its ends in their lines. So each end cuts a
line, and a line can be cut between its characters only.
-/
namespace PatternGraph

/-- The character that byte `n` of a text is in without starting there, and the byte where it does
start. -/
def Text.around? (n : Nat) : List Char → Option (Nat × Char)
  | [] => none
  | c :: rest =>
    if n = 0 then none
    else if n < c.utf8Size then some (0, c)
    else (around? (n - c.utf8Size) rest).map fun (start, d) => (c.utf8Size + start, d)

namespace Report

/-- A character that a cut of a line would split: the byte of the cut, the one where the character
starts, and the character. -/
structure SplitCharacter where
  cut : Nat
  start : Nat
  char : Char
  deriving DecidableEq, Repr

namespace SplitCharacter

def stop (s : SplitCharacter) : Nat := s.start + s.char.utf8Size

def message (s : SplitCharacter) : String :=
  "end byte index " ++ toString s.cut ++ " is not a char boundary; it is inside " ++
    String.ofList (Text.Escape.quotedChar s.char) ++ " (bytes " ++ toString s.start ++ ".." ++
    toString s.stop ++ " of string)"

end SplitCharacter

/-- The character of a line that a cut at byte `offset` of the source would split. -/
def SourceLine.split? (line : SourceLine) (offset : Nat) : Option SplitCharacter :=
  (Text.around? (offset - line.start) line.text).map fun (start, c) =>
    ⟨offset - line.start, start, c⟩

/-- The character that the cuts for a range would split. An empty range needs one cut only. -/
def split? (lines : List SourceLine) (span : Span) : Option SplitCharacter :=
  match (lineAt lines span.start).split? span.start with
  | some split => some split
  | none =>
    if span.start = span.stop then none else (lineAt lines span.stop).split? span.stop

end Report

end PatternGraph
