import PatternGraph.Report.Marks
import PatternGraph.Text.Blank

/-!
# Excerpts of a source

What a report marks in a source, and which lines it shows for that. Ranges within a line become
marks as they are. A range of several lines becomes a mark where it opens and one where it closes,
joined by a bar; ranges that share lines have their bars at different depths.
-/
namespace PatternGraph.Report

/-- The range to mark in a source of `limit` bytes: an empty one takes a byte more where there is
one, so that its mark is seen. -/
def markedRange (range : Span) (limit : Nat) : Span :=
  if range.start = range.stop then ⟨range.start, min (range.start + 1) limit⟩ else range

/-- A range to mark, with its two ends located. -/
structure Highlight where
  range : Span
  first : Location
  last : Location
  isMain : Bool
  label : List Char
  deriving DecidableEq

namespace Highlight

/-- Locate a range to mark. It takes a cell at least. -/
def of (lines : List SourceLine) (range : Span) (isMain : Bool) (label : String) : Highlight :=
  let (first, last) := locate lines range
  let last :=
    if first.line = last.line ∧ first.cell = last.cell then { last with cell := last.cell + 1 }
    else last
  ⟨range, first, last, isMain, label.toList⟩

def isInline (h : Highlight) : Bool := h.first.line = h.last.line

/-- Two ranges of lines meet. -/
def meets (h k : Highlight) : Bool :=
  (k.first.line ≤ h.first.line && h.first.line ≤ k.last.line) ||
    (h.first.line ≤ k.first.line && k.first.line ≤ h.last.line)

end Highlight

/-- A range of several lines to mark, with the depth of its bar. -/
structure Stretch extends Highlight where
  depth : Nat := 1
  /-- A later one has the same range, and its bar stands for both. -/
  isDoubled : Bool := false
  deriving DecidableEq

namespace Stretch

/-- A stretch of the range of the main one counts as main too. -/
def promote (s : Stretch) (mainRanges : List Span) : Stretch :=
  { s with isMain := s.isMain || mainRanges.contains s.range }

/-- Make room for the bar of `s`, the last one listed, beside the bars of those before it, from the
first one on up to one that shares no line with `s`. Stretches of one range share a bar. -/
def makeRoom (s : Stretch) (mainRanges : List Span) : List Stretch → List Stretch
  | [] => []
  | [t] => [t.promote mainRanges]
  | t :: rest =>
    if s.range = t.range then { t with isDoubled := true } :: makeRoom s mainRanges rest
    else if s.meets t.toHighlight then
      { t with depth := t.depth + 1 } :: makeRoom s mainRanges rest
    else t.promote mainRanges :: rest

/-- Order stretches by where they open, the longer first, and give their bars depths: an outer one
lies further left. -/
def layer (stretches : List Stretch) : List Stretch :=
  let ordered := stretches.mergeSort fun s t =>
    s.first.line < t.first.line || (s.first.line = t.first.line && t.last.line ≤ s.last.line)
  let (layered, _) := ordered.foldl (fun (layered, mainRanges) s =>
    let mainRanges := if s.isMain then s.range :: mainRanges else mainRanges
    (s.makeRoom mainRanges (layered ++ [s]), mainRanges)) ([], [])
  let deepest := (layered.map (·.depth)).foldl max 0
  layered.map fun s => { s with depth := deepest - s.depth + 1 }

end Stretch

/-- A line that says nothing about what is around it: blank, a single bracket or a remark behind two
slashes. Remarks that document what follows count as text. -/
def isBare (text : List Char) : Bool :=
  let text := Text.trim text
  let startsWith (opening : String) : Bool := opening.toList.isPrefixOf text
  (startsWith "//" && !startsWith "///" && !startsWith "//!") ||
    ["", "(", ")", "[", "]", "\x7b", "\x7d"].contains (String.ofList text)

namespace Stretch

/-- The lines inside a stretch that are shown: of the first three those up to the last one that is
not bare, and the one before the closing if that is further down and not bare. -/
def innerLines (s : Stretch) (lines : List SourceLine) : List Nat :=
  let bare (number : Nat) : Bool :=
    (lines.find? (·.number = number)).any fun line => isBare line.text
  let inner := (List.range (s.last.line - s.first.line - 1)).map (· + s.first.line + 1)
  let upper := (inner.take 3).reverse.dropWhile bare |>.reverse
  let final := (inner.drop 4).reverse.take 1 |>.filter (!bare ·)
  upper ++ final

/-- The marks of a stretch with their lines. -/
def marks (s : Stretch) (lines : List SourceLine) : List (Nat × Mark) :=
  let mark (first last : Place) (label : List Char) (shape : Shape) : Mark :=
    ⟨first, last, s.isMain, label, shape⟩
  let close (shape : Shape) : Nat × Mark :=
    (s.last.line, mark s.last.previous s.last.toPlace s.label shape)
  if s.isDoubled then [close .inline]
  else
    [(s.first.line, mark s.first.toPlace s.first.next [] (.opening s.depth))] ++
      (s.innerLines lines).map (·, mark ⟨0, 0⟩ ⟨0, 0⟩ [] .inner) ++ [close (.closing s.depth)]

end Stretch

/-- A line of a source with the marks on it. -/
structure MarkedLine where
  line : SourceLine
  marks : List Mark

/-- A source with the lines of it that are shown for the marks on them. -/
structure Excerpt where
  lines : List SourceLine
  marked : List MarkedLine
  /-- The depth of the bar furthest to the right. -/
  depth : Nat

namespace Excerpt

def of (lines : List SourceLine) (highlights : List Highlight) : Excerpt :=
  let inline := highlights.filter (·.isInline)
  let stretches := Stretch.layer ((highlights.filter (!·.isInline)).map ({ toHighlight := · }))
  let marks :=
    inline.map (fun h => (h.first.line,
      (⟨h.first.toPlace, h.last.toPlace, h.isMain, h.label, .inline⟩ : Mark))) ++
      stretches.flatMap (·.marks lines)
  let marked := lines.filterMap fun line =>
    match (marks.filter (·.1 = line.number)).map (·.2) with
    | [] => none
    | here => some ⟨line, here⟩
  ⟨lines, marked, (stretches.map (·.depth)).foldl max 0⟩

/-- The line and the first column of what is reported: the first main mark. -/
def place? (e : Excerpt) : Option (Nat × Nat) := do
  let marked ← e.marked.find? (·.marks.any (·.isMain))
  let columns := (marked.marks.filter (·.isMain)).map (·.first.column)
  return (marked.line.number, columns.foldl min (columns.headD 0))

end Excerpt

end PatternGraph.Report
