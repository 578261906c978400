import PatternGraph.Report.Canvas
import PatternGraph.Report.Location

/-!
# Marks under a source line

Each mark underlines part of a line and carries a label. The label stands behind its mark where
there is room, and otherwise hangs below it; a mark further left hangs lower. A range of several
lines has a mark at its opening and one at its closing, joined by a bar left of the code. Bars that
run side by side lie at different depths, counted from the left.
-/
namespace PatternGraph.Report

inductive Shape where
  | inline
  /-- The first line of a range of several lines. -/
  | opening (depth : Nat)
  /-- A line between the two. Nothing is drawn for it, but the line is shown. -/
  | inner
  /-- The last line of a range of several lines. -/
  | closing (depth : Nat)
  deriving DecidableEq, Repr

structure Mark where
  /-- The first place of the line that is marked. -/
  first : Place
  /-- The place behind the last one. -/
  last : Place
  isMain : Bool
  label : List Char
  shape : Shape
  deriving DecidableEq, Repr

namespace Mark

def style (m : Mark) : Style := if m.isMain then .error else .context

def sign (m : Mark) : Char := if m.isMain then '^' else '-'

def hasLabel (m : Mark) : Bool := !m.label.isEmpty

/-- The depth of the bar that the mark opens. -/
def openingDepth? (m : Mark) : Option Nat :=
  match m.shape with
  | .opening depth => some depth
  | _ => none

/-- The depth of the bar that the mark has a line to. -/
def joinedDepth? (m : Mark) : Option Nat :=
  match m.shape with
  | .opening depth | .closing depth => some depth
  | _ => none

def isJoined (m : Mark) : Bool := m.joinedDepth?.isSome

def isInner (m : Mark) : Bool := m.shape = .inner

def width (m : Mark) : Nat := (m.last.cell - m.first.cell) + (m.first.cell - m.last.cell)

/-- The cells up to the end of the label, if it stands behind the mark. -/
def reach (m : Mark) : Nat :=
  match m.shape with
  | .inline | .closing _ => m.last.cell + cellWidth m.label + 1
  | .opening _ | .inner => m.last.cell

/-- The half-open ranges of `m`, with `room` added at its end, and of `n` meet. -/
def meets (m n : Mark) (room : Nat) : Bool :=
  (n.first.cell ≤ m.first.cell && m.first.cell < n.last.cell) ||
    (m.first.cell ≤ n.first.cell && n.first.cell < m.last.cell + room)

/-- The cells to keep free for the label of a mark. -/
def labelRoom (m : Mark) : Nat := if m.hasLabel then Text.byteLength m.label + 2 else 0

/-- The label of `m`, in the first row, would cover `other`. -/
def coversFrom (m other : Mark) : Bool :=
  other.meets m 0 && m.hasLabel &&
    !(other.first = m.first && other.last = m.last && !other.hasLabel)

/-- `other`, which is not to the right of `m`, cannot have its label in the row of the label of
`m`. -/
def crowds (row : Nat) (other m : Mark) : Bool :=
  let near := other.meets m other.labelRoom
  (near && m.hasLabel && other.hasLabel) ||
    (m.isJoined && (other.hasLabel || other.isJoined)) ||
    (m.hasLabel && other.isJoined) ||
    (near && other.last.cell ≤ m.last.cell && other.hasLabel && row = 0)

/-- Give each mark a row for its label, from `row` on. -/
def assignRows (row : Nat) : List Mark → List (Nat × Mark)
  | [] => []
  | m :: others =>
    let own := if row = 0 ∧ others.any m.coversFrom then 1 else row
    (own, m) :: assignRows (if others.any (crowds own · m) then own + 1 else own) others

end Mark

/-- The marks of a line with the rows of their labels, and the number of rows below the first. -/
structure MarkRows where
  marks : List (Nat × Mark)
  below : Nat

/-- Lay marks out from the right to the left. Openings alone take their rows in reverse, so that
their lines to the left do not cross. -/
def MarkRows.of (marks : List Mark) : MarkRows :=
  let placed := Mark.assignRows 0 (marks.mergeSort fun m n => n.first.isUpTo m.first)
  let deepest := (placed.map (·.1)).foldl max 0
  let below := if deepest = 0 then 0 else deepest + 1
  if placed.all fun (_, m) => m.openingDepth?.isSome then
    ⟨placed.map fun (row, m) => (deepest - row, m), below - 1⟩
  else ⟨placed, below⟩

/-- The columns of a report whose line numbers take `digits` columns, with bars down to `depth`. -/
structure Columns where
  digits : Nat
  depth : Nat := 0

namespace Columns

/-- The column of the separator between line numbers and code. -/
def separator (c : Columns) : Nat := c.digits + 1

def bar (c : Columns) (depth : Nat) : Nat := c.digits + 2 + depth

/-- The column of the first cell of the code. -/
def code (c : Columns) : Nat :=
  if c.depth = 0 then c.digits + 3 else c.digits + 4 + c.depth

end Columns

/-- Where on a canvas a marked line is drawn. -/
structure Frame where
  columns : Columns
  /-- The row of the code; the marks are drawn below it. -/
  row : Nat
  /-- The cells of the line that are cut off in front. -/
  cut : Nat

namespace Frame

/-- The column of a cell of the line. -/
def column (frame : Frame) (cell : Nat) : Nat := frame.columns.code + cell - frame.cut

/-- The line from a bar to an opening or a closing. -/
def drawJoint (frame : Frame) (canvas : Canvas) : Nat × Mark → Canvas
  | (row, m) =>
    match m.joinedDepth? with
    | none => canvas
    | some depth =>
      canvas.fill (frame.row + row + 1) (frame.columns.bar depth + 1) (frame.column m.first.cell)
        '_' m.style

/-- The line down to a label that hangs below its mark, and the part of a bar beside the marks. -/
def drawDescent (frame : Frame) (below : Nat) (canvas : Canvas) : Nat × Mark → Canvas
  | (row, m) =>
    let canvas :=
      if 0 < row ∧ (m.hasLabel ∨ m.isJoined) then
        canvas.fillDown (frame.column m.first.cell) (frame.row + 1) (frame.row + row + 2) '|'
          m.style
      else canvas
    match m.shape with
    | .inline | .inner => canvas
    | .opening depth =>
      let canvas := canvas.put (frame.row + row + 1) (frame.columns.bar depth) ' ' m.style
      canvas.fillDown (frame.columns.bar depth) (frame.row + row + 2) (frame.row + below + 2) '|'
        m.style
    | .closing depth =>
      canvas.fillDown (frame.columns.bar depth) frame.row (frame.row + row + 2) '|' m.style

/-- The label behind its mark, or below it. -/
def drawLabel (frame : Frame) (canvas : Canvas) : Nat × Mark → Canvas
  | (0, m) =>
    let gap := if m.last.cell = 0 then 2 else 1
    canvas.write (frame.row + 1) (frame.columns.code + (m.last.cell + gap - frame.cut)) m.label
      m.style
  | (row + 1, m) =>
    canvas.write (frame.row + row + 3) (frame.columns.code + (m.first.cell - frame.cut)) m.label
      m.style

def drawUnderline (frame : Frame) (canvas : Canvas) : Nat × Mark → Canvas
  | (row, m) =>
    let signs := (List.range (m.last.cell - m.first.cell)).map (m.first.cell + ·)
    let canvas := signs.foldl
      (fun canvas cell => canvas.put (frame.row + 1) (frame.column cell) m.sign m.style) canvas
    if m.isJoined ∨ (0 < row ∧ m.hasLabel) then
      canvas.put (frame.row + 1) (frame.column m.first.cell) m.sign m.style
    else canvas

/-- Draw all marks of a line. Wider underlines come first, so that narrower ones stay visible, and
of two of the same width the main one comes last. The marks are given back in that order. -/
def drawMarks (frame : Frame) (canvas : Canvas) (marks : List Mark) : Canvas × List Mark :=
  let rows := MarkRows.of marks
  let canvas := canvas.fillDown frame.columns.separator (frame.row + 1)
    (frame.row + rows.below + 2) '|' .context
  let canvas := rows.marks.foldl frame.drawJoint canvas
  let canvas := rows.marks.foldl (frame.drawDescent rows.below) canvas
  let canvas := rows.marks.foldl frame.drawLabel canvas
  let underlineOrder := rows.marks.mergeSort fun (_, m) (_, n) =>
    n.width < m.width || (n.width = m.width && (!m.isMain || n.isMain))
  (underlineOrder.foldl frame.drawUnderline canvas, underlineOrder.map (·.2))

end Frame

end PatternGraph.Report
