import PatternGraph.Report.Cut
import PatternGraph.Report.RevisionDrawing

/-!
# Reports

A diagnostic drawn against its source: a title, the place, the marked lines, the fix that is offered
and the general advice.
-/
namespace PatternGraph.Report

/-- The ranges to mark for a diagnostic, the main one first. -/
def markedRanges (d : Diagnostic) (limit : Nat) : List (Span × Bool × String) :=
  (markedRange d.range limit, true, d.message) ::
    d.related.map fun r => (markedRange r.range limit, false, r.message)

/-- The ranges that a source is cut for: those to mark, then that of the fix. -/
def cutRanges (d : Diagnostic) (limit : Nat) : List Span :=
  (markedRanges d limit).map (·.1) ++ (d.fix.map (·.range)).toList

/-- The greatest number that counts for the width of line numbers: that of the line where the last
of the marked ranges ends, unless it ends just behind a line break. -/
def lastMarkedNumber (source : List Char) (ranges : List Span) : Nat :=
  innerBreaks (Text.takeBytes ((ranges.map (·.stop)).foldl max 0) source) + 1

def draw (d : Diagnostic) (source : List Char) (path : Option String) : Canvas :=
  let lines := sourceLines source
  let ranges := markedRanges d (Text.byteLength source)
  let excerpt := Excerpt.of lines (ranges.map fun (range, isMain, label) =>
    .of lines range isMain label)
  let revision := d.fix.map fun fix =>
    Revision.of source lines fix.range fix.replacement.toList
  let lastNumber := max (lastMarkedNumber source (ranges.map (·.1)))
    ((revision.map (·.lastNumber)).getD 0)
  let digits := (toString lastNumber).length
  let canvas := drawHeading "error" .error (shown d.message.toList) .bold {}
  let canvas :=
    match path, excerpt.place? with
    | some path, some place => drawPath path ⟨digits, 0⟩ place canvas
    | _, _ => canvas
  let canvas := drawSeparator ⟨digits, 0⟩ canvas
  let canvas := drawExcerpt excerpt ⟨digits, excerpt.depth⟩ canvas
  match d.fix, revision with
  | some fix, some revision =>
    let canvas := drawSeparator ⟨digits, 0⟩ canvas
    let canvas := drawHeading "help" .help fix.description.toList .plain canvas
    drawRevision revision ⟨digits, 0⟩ lines canvas
  | _, _ => canvas

end PatternGraph.Report

namespace PatternGraph

open Report in
/-- The report of a diagnostic against its source, under the name of the file it came from if there
is one. -/
def Diagnostic.report (d : Diagnostic) (source : List Char) (path : Option String) (styled : Bool) :
    String :=
  (draw d source path).paint styled ++
    match d.hint? with
    | none => ""
    | some hint => "\n  = help: " ++ hint

open Report in
/-- The report of a diagnostic, if no cut for its ranges splits a character. -/
def Diagnostic.render (d : Diagnostic) (source : List Char) (path : Option String) (styled : Bool) :
    Except SplitCharacter String :=
  match (cutRanges d (Text.byteLength source)).findSome? (split? (sourceLines source)) with
  | some split => .error split
  | none => .ok (d.report source path styled)

end PatternGraph
