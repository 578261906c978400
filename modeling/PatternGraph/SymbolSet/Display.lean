import PatternGraph.SymbolSet
import PatternGraph.Text.Escape

/-!
# Display of a symbol set

A single member is shown in quotes, any other set in brackets, where three or more consecutive code
points are written as the first and the last of them around a hyphen.
-/
namespace PatternGraph.SymbolSet

/-- Split ascending characters into maximal runs of consecutive code points. -/
def runs : List Char → List (List Char)
  | [] => []
  | c :: rest =>
    match runs rest with
    | (d :: run) :: more =>
      if d.toNat = c.toNat + 1 then (c :: d :: run) :: more else [c] :: (d :: run) :: more
    | other => [c] :: other

/-- Two consecutive members are both shown, a longer run only by its ends. -/
def displayRun : List Char → List Char
  | first :: _ :: third :: rest =>
    Text.Escape.char .bare first ++ ['-'] ++ Text.Escape.char .bare (rest.getLastD third)
  | short => short.flatMap (Text.Escape.char .bare)

def display (s : SymbolSet) : List Char :=
  match s.members with
  | [only] => ['\''] ++ Text.Escape.char .bare only ++ ['\'']
  | members => ['['] ++ (runs members).flatMap displayRun ++ [']']

/-- The display with the name of the type around it. -/
def describe (s : SymbolSet) : String :=
  "SymbolSet(" ++ String.ofList s.display ++ ")"

end PatternGraph.SymbolSet
