import PatternGraph.Report.Window

/-!
# Drawing excerpts

The shown lines of an excerpt with the marks below them. A single line between two shown ones is
shown too; more are left out with dots. Bars run beside all rows from an opening to its closing.
-/
namespace PatternGraph.Report

/-- The number of a line, flush right. -/
def Columns.lineNumber (c : Columns) (number : Nat) : List Char :=
  let digits := (toString number).toList
  List.replicate (c.digits - digits.length) ' ' ++ digits

/-- A row with nothing but the separator. -/
def drawSeparator (columns : Columns) (canvas : Canvas) : Canvas :=
  canvas.put canvas.height columns.separator '|' .context

/-- The bars that are open, with their depths. -/
abbrev Bars := List (Nat × Style)

namespace Bars

def draw (columns : Columns) (row : Nat) (bars : Bars) (canvas : Canvas) : Canvas :=
  bars.foldl (fun canvas (depth, style) => canvas.put row (columns.bar depth) '|' style) canvas

/-- A mark that is joined to a bar closes it if it is open, and opens it otherwise. The bars that
stay open come first and the new ones second. -/
def pass (bars : Bars) (marks : List Mark) : Bars × Bars :=
  marks.foldl (fun (kept, fresh) m =>
    match m.joinedDepth? with
    | none => (kept, fresh)
    | some depth =>
      if kept.any (·.1 = depth) then (kept.filter (·.1 ≠ depth), fresh)
      else (kept, (depth, m.style) :: fresh.filter (·.1 ≠ depth))) (bars, [])

/-- The bars that marks open. -/
def opened (marks : List Mark) : Bars :=
  marks.filterMap fun m => m.openingDepth?.map (·, m.style)

end Bars

/-- A source line behind its number, seen through the window. The cells that are cut off in front
are given back. -/
def drawCode (columns : Columns) (window : Window) (canvas : Canvas) (line : SourceLine) :
    Canvas × Nat :=
  let row := canvas.height
  let view := window.see (shown line.text)
  let canvas := if 0 < window.left then canvas.write row columns.code dots .context else canvas
  let start := columns.code + view.covered
  let canvas := canvas.write row start view.text .plain
  let canvas :=
    match view.coveredEnd? with
    | none => canvas
    | some covered => canvas.write row (start + view.text.length - covered) dots .context
  let canvas := canvas.write row 0 (columns.lineNumber line.number) .context
  (canvas.put row columns.separator '|' .context, view.cut)

/-- A range that opens at the start of its line has no mark there but a slash in place of the
bar. -/
def opensAtStart (line : SourceLine) (marks : List Mark) : Bool :=
  marks.all fun m =>
    m.isInner ||
      (m.openingDepth?.isSome && ((shown line.text).take m.first.cell).all Text.isBlank)

/-- Draw a line with its marks. Those that are joined to a bar are given back. -/
def drawLine (columns : Columns) (window : Window) (canvas : Canvas) (marked : MarkedLine) :
    Canvas × List Mark :=
  let row := canvas.height
  let (canvas, cut) := drawCode columns window canvas marked.line
  if opensAtStart marked.line marked.marks then
    let openings := marked.marks.filter (!·.isInner)
    (openings.foldl (fun canvas m =>
      match m.openingDepth? with
      | none => canvas
      | some depth => canvas.put row (columns.bar depth) '/' m.style) canvas, openings)
  else Frame.drawMarks ⟨columns, row, cut⟩ canvas marked.marks

/-- What stands for the lines between two shown ones, with the bars that run there. -/
def drawBetween (e : Excerpt) (columns : Columns) (window : Window) (previous next : Nat)
    (bars : Bars) (canvas : Canvas) : Canvas :=
  let row := canvas.height
  if previous + 2 < next then
    bars.draw columns row (canvas.write row 0 dots .context)
  else if previous + 2 = next then
    match e.lines.find? (·.number = previous + 1) with
    | none => canvas
    | some line => bars.draw columns row (drawCode columns window canvas line).1
  else canvas

/-- Draw lines with the open bars beside them. -/
def drawLines (e : Excerpt) (columns : Columns) (window : Window) (bars : Bars)
    (canvas : Canvas) : List MarkedLine → Canvas
  | [] => canvas
  | marked :: rest =>
    let row := canvas.height
    let (canvas, passed) := drawLine columns window canvas marked
    let (kept, fresh) := bars.pass passed
    let canvas := (List.range (canvas.height - row)).foldl
      (fun canvas i => kept.draw columns (row + i) canvas) canvas
    let canvas :=
      match rest with
      | [] => canvas
      | following :: _ =>
        drawBetween e columns window marked.line.number following.line.number
          (kept ++ Bars.opened marked.marks) canvas
    drawLines e columns window (fresh ++ kept) canvas rest

/-- Draw an excerpt below what is on the canvas. -/
def drawExcerpt (e : Excerpt) (columns : Columns) (canvas : Canvas) : Canvas :=
  drawLines e columns (.of e (terminalWidth - columns.code)) [] canvas e.marked

/-- The place of the main mark, in front of the excerpt. -/
def drawPath (path : String) (columns : Columns) (place : Nat × Nat) (canvas : Canvas) : Canvas :=
  let row := canvas.height
  let canvas := canvas.append row (List.replicate columns.digits ' ') .plain
  let canvas := canvas.append row "--> ".toList .context
  let place := path ++ ":" ++ toString place.1 ++ ":" ++ toString (place.2 + 1)
  canvas.append row place.toList .plain

/-- A heading: its kind and its text, of which further lines are set below the first one. -/
def drawHeading (kind : String) (kindStyle : Style) (text : List Char) (textStyle : Style)
    (canvas : Canvas) : Canvas :=
  let row := canvas.height
  let canvas := canvas.append row kind.toList kindStyle
  let canvas := canvas.append row ": ".toList textStyle
  (pieces text).zipIdx.foldl (fun canvas (line, i) =>
    let canvas :=
      if i = 0 then canvas
      else canvas.append (row + i) (List.replicate (kind.length + 2) ' ') .plain
    canvas.append (row + i) line textStyle) canvas

end PatternGraph.Report
