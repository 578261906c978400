import PatternGraph.Report.Location
import PatternGraph.Text.Blank

/-!
# Revised lines

What a fix makes of the lines it touches. A replacement that only adds to what it replaces is
reduced to the addition. How the revised lines are best shown hangs on whether something is lost.
-/
namespace PatternGraph.Report

/-- The longest text that both texts start with. -/
def sharedStart : List Char → List Char → List Char
  | c :: cs, d :: ds => if c = d then c :: sharedStart cs ds else []
  | _, _ => []

/-- `new` as `old` with one addition: what `old` has before it, the addition, and what `old` has
behind it. -/
def addition? (old new : List Char) : Option (List Char × List Char × List Char) :=
  let before := sharedStart old new
  let behind := old.drop before.length
  let rest := new.drop before.length
  if behind.isSuffixOf rest then some (before, rest.take (rest.length - behind.length), behind)
  else none

/-- A part of a source and what stands there instead. -/
structure Edit where
  range : Span
  removed : List Char
  replacement : List Char
  deriving DecidableEq, Repr

namespace Edit

def of (source : List Char) (range : Span) (replacement : List Char) : Edit :=
  let removed := Text.takeBytes (range.stop - range.start) (Text.dropBytes range.start source)
  ⟨range, removed, replacement⟩

/-- The edit without what the replacement keeps, if it only adds something. -/
def reduce (e : Edit) : Edit :=
  if e.replacement.isEmpty then e
  else match addition? e.removed e.replacement with
    | none => e
    | some (before, added, behind) =>
      let start := e.range.start + Text.byteLength before
      ⟨⟨start, e.range.stop - Text.byteLength behind⟩, [], added⟩

/-- Something other than blanks is removed. -/
def removesText (e : Edit) : Bool := !(Text.trim e.removed).isEmpty

def isAddition (e : Edit) : Bool := !e.replacement.isEmpty && !e.removesText

/-- Text is removed for nothing but blanks, or for another text that does not contain it. -/
def losesText (e : Edit) : Bool :=
  e.removesText &&
    ((Text.trim e.replacement).isEmpty ||
      (addition? (Text.trim e.removed) (Text.trim e.replacement)).isNone)

end Edit

/-- How revised lines are shown. -/
inductive Presentation where
  /-- The removed lines, then the line that stands for them. -/
  | comparison
  /-- Nothing but new lines. -/
  | newLines
  /-- The revised line with the new part marked below. -/
  | marked
  /-- The revised lines without a mark. -/
  | bare
  deriving DecidableEq, Repr

/-- The lines that an edit touches, as they are after it. -/
structure Revision where
  edit : Edit
  /-- The lines that the fix was given for, from the first to the one where it stops. -/
  firstLine : Nat
  lastLine : Nat
  /-- The touched lines as they were. -/
  before : List SourceLine
  text : List Char
  /-- For each line of the text, the columns that are new on it. A tab takes four. -/
  fresh : List (Option (Nat × Nat))

namespace Revision

/-- The columns of a piece of a replacement. -/
def columnCount (cs : List Char) : Nat :=
  (cs.map fun c => if c = '\t' then 4 else 1).foldr (· + ·) 0

/-- The source from the start of the line where the fix starts up to the edit. -/
def leading (lines : List SourceLine) (firstLine : Nat) (place : Location) : List Char :=
  lines.flatMap fun line =>
    if line.number = place.line then line.text.take place.column
    else if firstLine ≤ line.number ∧ line.number < place.line then line.text ++ ['\n']
    else []

/-- The columns that are new on each line, from line `firstLine` on. -/
def freshColumns (firstLine : Nat) (place : Location) (replacement : List Char) :
    List (Option (Nat × Nat)) :=
  List.replicate (place.line - firstLine) none ++
    (pieces replacement).zipIdx.map fun (piece, i) =>
      let start := if i = 0 then place.column else 0
      some (start, start + columnCount piece)

/-- Apply a replacement to the lines of a source. -/
def of (source : List Char) (lines : List SourceLine) (range : Span) (replacement : List Char) :
    Revision :=
  let edit := (Edit.of source range replacement).reduce
  let (first, last) := locate lines range
  let (place, stop) := locate lines edit.range
  let text := leading lines first.line place ++ edit.replacement
  let text :=
    if text.getLast? = some '\n' then text
    else text ++ (lines.filter (·.number = stop.line)).flatMap (·.text.drop stop.column)
  { edit
    firstLine := first.line
    lastLine := last.line
    before := linesOf lines edit.range
    text := (text.reverse.dropWhile (· = '\n')).reverse
    fresh := freshColumns first.line place edit.replacement }

def lines (r : Revision) : List (List Char) := (splitLines r.text).map (·.1)

def isOfSeveralLines (r : Revision) : Bool := 1 < r.lines.length

def presentation (r : Revision) : Presentation :=
  let alone := Text.trim r.edit.replacement = Text.trim r.text
  if r.edit.losesText && !r.isOfSeveralLines then .comparison
  else if r.edit.replacement.getLast? = some '\n' && alone then .newLines
  else if !alone && !r.isOfSeveralLines then .marked
  else .bare

/-- The greatest line number that is shown. -/
def lastNumber (r : Revision) : Nat :=
  match r.presentation with
  | .marked => r.firstLine
  | .comparison => (r.before.map (·.number)).foldl max 0
  | .newLines | .bare => r.firstLine + innerBreaks r.text

end Revision

end PatternGraph.Report
