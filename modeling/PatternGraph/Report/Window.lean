import PatternGraph.Report.Excerpt

/-!
# Window on long lines

Lines that do not fit on a terminal are shown through a window that is moved to the marks. Deep
indentation is cut off even where there is room. What is cut off is stood for by dots.
-/
namespace PatternGraph.Report

/-- The columns of a terminal. -/
def terminalWidth : Nat := 140

/-- The cells of all lines that are shown, from `left` up to but not including `right`. -/
structure Window where
  left : Nat
  right : Nat
  /-- The columns there are for code. -/
  width : Nat

namespace Window

/-- The cells that are kept free on both sides of what is to be seen. -/
def margin : Nat := 6

/-- The cells of indentation that are not cut off, and the least that are. -/
def keptIndentation : Nat := 16

/-- Place a window of `width` columns. All lines are indented by `indentation`, the longest ends at
`longest`, the marks lie between `marksLeft` and `marksRight`, and with their labels they end at
`labelsRight`. Lines that are too long are cut at the indentation if the labels lie behind it and
still fit, else around marks and labels, else around the marks. -/
def place (indentation marksLeft marksRight labelsRight width longest : Nat) : Window :=
  let indentation := indentation - margin
  let marksLeft := marksLeft - margin
  let marksRight := marksRight + margin
  let labelsRight := labelsRight + margin
  let left := if 20 < indentation then indentation - keptIndentation else 0
  let right := max longest left
  if right - left ≤ width then ⟨left, right, width⟩
  else if indentation ≤ labelsRight ∧ labelsRight - indentation ≤ width then
    ⟨indentation, indentation + width, width⟩
  else if labelsRight - marksLeft ≤ width then
    let left := marksLeft - (width - (labelsRight - marksLeft)) / 2
    ⟨left, left + width, width⟩
  else if marksRight - marksLeft ≤ width then
    let left := marksLeft - (width - (marksRight - marksLeft)) / 5 * 2
    ⟨left, left + width, width⟩
  else ⟨marksLeft, marksRight, width⟩

/-- The cells of indentation of a line, if there is anything else on it. A blank other than a tab
counts as one. -/
def indentation? (text : List Char) : Option Nat :=
  if text.all Text.isBlank then none
  else
    some (((text.takeWhile Text.isBlank).map fun c => if c = '\t' then 4 else 1).foldr (· + ·) 0)

/-- The window for an excerpt whose code has `width` columns. -/
def of (e : Excerpt) (width : Nat) : Window :=
  let marks := e.marked.flatMap (·.marks)
  let ends := marks.flatMap fun m => [m.first.cell, m.last.cell]
  let texts := e.marked.map (·.line.text)
  let least (ns : List Nat) : Nat := ns.foldl min (ns.headD 0)
  let greatest (ns : List Nat) : Nat := ns.foldl max 0
  place (least (texts.filterMap indentation?)) (least ends) (greatest ends)
    (greatest (marks.map (·.reach))) width (greatest (texts.map cellWidth))

end Window

/-- The part of a line that is seen through a window. -/
structure View where
  /-- The cells that are cut off in front. -/
  cut : Nat
  /-- The cells at the start that dots cover. -/
  covered : Nat
  /-- What is seen behind them. -/
  text : List Char
  /-- The dots at the end cover this many characters, if something is cut off there. -/
  coveredEnd? : Option Nat

/-- What stands for the part that is cut off. -/
def dots : List Char := ['.', '.', '.']

/-- Drop characters until they take `n` cells or more, and count the cells dropped. -/
def dropCells (n : Nat) : List Char → Nat × List Char
  | [] => (0, [])
  | c :: cs =>
    if n = 0 then (0, c :: cs)
    else
      let (dropped, rest) := dropCells (n - cells c) cs
      (cells c + dropped, rest)

/-- Take characters as long as they fit in `n` cells. -/
def takeCells (n : Nat) : List Char → List Char
  | [] => []
  | c :: cs => if cells c ≤ n then c :: takeCells (n - cells c) cs else []

/-- See a line, as it is shown, through a window. -/
def Window.see (w : Window) (text : List Char) : View :=
  let length := cellWidth text
  let left := min w.left length
  let right := if length - w.left ≤ w.width then length else min length w.right
  let (dropped, rest) := dropCells left text
  let seen := takeCells (right - left) rest
  let left := max left dropped
  let coveredEnd? :=
    if right < length then
      some (seen.length - (dropCells dots.length seen.reverse).2.length)
    else none
  if 0 < w.left then
    let (covered, text) := dropCells dots.length seen
    ⟨left, covered, text, coveredEnd?⟩
  else ⟨left, 0, seen, coveredEnd?⟩

end PatternGraph.Report
