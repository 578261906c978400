import PatternGraph.Report.Drawing
import PatternGraph.Report.Revision

/-!
# Drawing revised lines

A fix is drawn as the lines it makes, or as the lines it removes and the one that stands for them.
What is new is green and what is lost is red; an addition within one line is marked below it.
-/
namespace PatternGraph.Report

/-- A line behind its number and a sign of two columns, all of the sign in one style. -/
def drawSigned (columns : Columns) (number : Nat) (sign : String) (style : Style)
    (text : List Char) (textStyle : Style) (row : Nat) (canvas : Canvas) : Canvas :=
  let canvas := canvas.write row 0 (columns.lineNumber number) .context
  let canvas := canvas.write row columns.separator sign.toList style
  canvas.write row columns.code (shown text) textStyle

/-- Colour the columns that are new on a line. They count the tabs before them once. -/
def colourFresh (columns : Columns) (row : Nat) (text : List Char) (fresh : Option (Nat × Nat))
    (canvas : Canvas) : Canvas :=
  match fresh with
  | none => canvas
  | some (start, stop) =>
    let tabs := 3 * (text.take start).count '\t'
    canvas.restyle row (columns.code + start + tabs) (columns.code + stop + tabs) .addition

/-- Colour the text that is removed, row by row. The last one lies above an added line, two rows
above row `below`, and none lies above row `top`. Lengths are in bytes. -/
def colourRemoved (r : Revision) (columns : Columns) (lines : List SourceLine) (top below : Nat)
    (canvas : Canvas) : Canvas :=
  let (first, last) := locate lines r.edit.range
  let removed := (splitLines r.edit.removed).map (·.1)
  removed.zipIdx.foldl (fun canvas (text, i) =>
    let row := max top (below - 2 - (r.before.length - 1 - i))
    let length := Text.byteLength (shown text)
    let start := if i = 0 then first.cell else 0
    let stop :=
      if i = 0 then first.cell + length
      else if i + 1 = removed.length then last.cell
      else length
    canvas.restyle row (columns.code + start) (columns.code + stop) .removal) canvas

/-- The sign of a line among several: one that is new from its start to its end, one that is not
changed, or one with a part that is new. -/
def severalSign (text : List Char) (fresh : Option (Nat × Nat)) : String × Style :=
  match fresh with
  | none => ("|", .context)
  | some (start, stop) =>
    if start = 0 ∧ stop = Text.byteLength text then ("+ ", .addition)
    else if start = 0 ∧ stop = 0 then ("|", .context)
    else ("~ ", .addition)

/-- A line as it is after the fix. -/
def drawRevised (r : Revision) (columns : Columns) (number : Nat) (text : List Char)
    (fresh : Option (Nat × Nat)) (canvas : Canvas) : Canvas :=
  let row := canvas.height
  let (sign, style) :=
    if r.isOfSeveralLines then severalSign text fresh
    else if r.presentation = .newLines then ("+ ", .addition)
    else ("| ", .context)
  colourFresh columns row text fresh
    (drawSigned columns number sign style text .plain row canvas)

/-- The lines that a fix removes without a trace. Where they are not compared with anything, they
cover the separator above them. -/
def drawVanished (r : Revision) (columns : Columns) (lines : List SourceLine) (canvas : Canvas) :
    Canvas :=
  let top := if r.presentation = .comparison then canvas.height else canvas.height - 1
  (lines.filter fun line => r.firstLine ≤ line.number && line.number ≤ r.lastLine).zipIdx.foldl
    (fun canvas (line, i) =>
      drawSigned columns line.number "- " .removal line.text .removal (top + i) canvas) canvas

/-- The lines that a fix removes and the one it makes of them. The last removed line is left out
with it if it is the same, and a blank one is not shown. -/
def drawComparison (r : Revision) (columns : Columns) (revised : List Char)
    (fresh : Option (Nat × Nat)) (canvas : Canvas) : Canvas :=
  let isKept := (r.before.getLast?.map (·.text)) = some revised
  let removed := if isKept then r.before.dropLast else r.before
  let canvas := removed.zipIdx.foldl (fun canvas (line, i) =>
    drawSigned columns (r.firstLine + i) "- " .removal line.text .plain canvas.height canvas) canvas
  let canvas :=
    if isKept ∨ (Text.trim revised).isEmpty then canvas
    else drawSigned columns r.firstLine "+ " .addition revised .plain canvas.height canvas
  colourFresh columns (canvas.height - 1) revised fresh canvas

/-- An attribute of the item that follows it. -/
def isAttribute (text : List Char) : Bool :=
  let text := Text.trim text
  ['#', '['].isPrefixOf text && text.getLast? = some ']'

/-- The lines that a fix makes. Of more than three lines in front that it does not change only the
first and the last are shown. Behind a new attribute the line it belongs to is shown too. -/
def drawRevisedLines (r : Revision) (columns : Columns) (lines : List SourceLine)
    (canvas : Canvas) : Canvas :=
  let numbered := (r.lines.zip r.fresh).zipIdx.map fun ((text, fresh), i) =>
    (r.firstLine + i, text, fresh)
  let drawAll (canvas : Canvas) (part : List (Nat × List Char × Option (Nat × Nat))) : Canvas :=
    part.foldl (fun canvas (number, text, fresh) => drawRevised r columns number text fresh canvas)
      canvas
  let untouched := numbered.takeWhile fun (_, _, fresh) => fresh.isNone
  let touched := numbered.dropWhile fun (_, _, fresh) => fresh.isNone
  if touched.isEmpty then canvas else
    let canvas :=
      if untouched.length ≤ 3 then drawAll canvas untouched
      else
        let canvas := drawAll canvas (untouched.take 1)
        let canvas := canvas.write canvas.height (columns.digits - dots.length) dots .context
        drawAll canvas (untouched.drop (untouched.length - 1))
    let canvas := drawAll canvas touched
    if r.presentation = .newLines ∧ touched.any fun (_, text, _) => isAttribute text then
      let place := (locate lines r.edit.range).1
      match lines.find? (·.number = place.line) with
      | none => canvas
      | some line =>
        let sign := if r.isOfSeveralLines then "|" else "| "
        drawSigned columns (place.line + numbered.length) sign .context line.text .plain
          canvas.height canvas
    else canvas

/-- The marks below an addition, without the blanks around it unless there is nothing else. A
blank in front takes as many cells as it has bytes. -/
def drawAdditionMarks (r : Revision) (columns : Columns) (lines : List SourceLine) (row : Nat)
    (canvas : Canvas) : Canvas :=
  let replacement := r.edit.replacement
  let trimmed := Text.trim replacement
  let place := (locate lines r.edit.range).1
  let (skipped, text) :=
    if trimmed.isEmpty then (0, replacement)
    else (Text.byteLength (replacement.takeWhile Text.isBlank), trimmed)
  let first := columns.code + place.cell + skipped
  let sign := if r.edit.isAddition then '+' else '~'
  if r.edit.removed = replacement then canvas
  else canvas.fill row first (first + cellWidth text) sign .addition

/-- Draw revised lines below what is on the canvas. -/
def drawRevision (r : Revision) (columns : Columns) (lines : List SourceLine) (canvas : Canvas) :
    Canvas :=
  let canvas := drawSeparator columns canvas
  let top := canvas.height
  let canvas :=
    match r.presentation, r.lines, r.fresh with
    | _, [], _ => drawVanished r columns lines canvas
    | .comparison, revised :: _, fresh :: _ => drawComparison r columns revised fresh canvas
    | _, _, _ => drawRevisedLines r columns lines canvas
  let row := canvas.height
  let canvas := drawSeparator columns canvas
  match r.presentation with
  | .comparison => colourRemoved r columns lines top row canvas
  | .marked => drawAdditionMarks r columns lines row canvas
  | .newLines | .bare => canvas

end PatternGraph.Report
