import PatternGraph.Diagnostic
import PatternGraph.Text.Bytes
import PatternGraph.Text.Width

/-!
# Locations in a source

Byte offsets are turned into lines and columns. A column counts characters; the cell counts what
they take on a terminal, after tabs and controls are replaced by what is shown for them.
-/
namespace PatternGraph.Report

/-- Characters that reorder the text around them. -/
def reordersText (c : Char) : Bool :=
  (0x202A ≤ c.toNat && c.toNat ≤ 0x202E) || (0x2066 ≤ c.toNat && c.toNat ≤ 0x2069)

/-- What is shown for a character: four spaces for a tab, the control pictures for controls other
than a line feed, nothing for a joiner and a replacement character for one that reorders text. -/
def shownAs (c : Char) : List Char :=
  if c = '\t' then List.replicate 4 ' '
  else if c = '\n' then [c]
  else if c.toNat < 0x20 then [Char.ofNat (0x2400 + c.toNat)]
  else if c.toNat = 0x7F then [Char.ofNat 0x2421]
  else if c.toNat = 0x200D then []
  else if reordersText c then [Char.ofNat 0xFFFD]
  else [c]

/-- What is shown for a text. -/
def shown (cs : List Char) : List Char := cs.flatMap shownAs

/-- The cells that a character takes. -/
def cells (c : Char) : Nat :=
  if c = '\t' then 4
  else if c.toNat < 0x20 || c.toNat = 0x7F || reordersText c then 1
  else Text.columns c

/-- The cells that a text takes. -/
def cellWidth (cs : List Char) : Nat := (cs.map cells).foldr (· + ·) 0

/-- A line of a source, counted from 1, with the bytes from its start to behind its ending. -/
structure SourceLine where
  number : Nat
  text : List Char
  start : Nat
  stop : Nat
  /-- The bytes of the line ending, of which the text is free. -/
  ending : Nat
  deriving Inhabited

/-- Split a text into lines and the lengths of their endings. A text that ends with a line ending
has no line behind it. -/
def splitLines : List Char → List (List Char × Nat)
  | [] => []
  | '\n' :: rest => ([], 1) :: splitLines rest
  | '\r' :: '\n' :: rest => ([], 2) :: splitLines rest
  | c :: rest =>
    match splitLines rest with
    | [] => [([c], 0)]
    | (text, ending) :: more => (c :: text, ending) :: more

/-- Split a text at its line feeds. Behind the last one stands a piece too, if only an empty one. -/
def pieces : List Char → List (List Char)
  | [] => [[]]
  | '\n' :: rest => [] :: pieces rest
  | c :: rest =>
    match pieces rest with
    | [] => [[c]]
    | piece :: more => (c :: piece) :: more

/-- Number split lines and give them their places, from line `number` at byte `start` on. -/
def placeLines (number start : Nat) : List (List Char × Nat) → List SourceLine
  | [] => []
  | (text, ending) :: rest =>
    let stop := start + Text.byteLength text + ending
    ⟨number, text, start, stop, ending⟩ :: placeLines (number + 1) stop rest

/-- The lines of a source. Even an empty one has a line. -/
def sourceLines (source : List Char) : List SourceLine :=
  match source with
  | [] => [⟨1, [], 0, 0, 0⟩]
  | _ => placeLines 1 0 (splitLines source)

/-- The number of line breaks inside a text. One at its end does not count. -/
def innerBreaks (cs : List Char) : Nat := (splitLines cs).length - 1

/-- A place in a line: the characters before it and the cells before it. -/
structure Place where
  column : Nat
  cell : Nat
  deriving DecidableEq, Repr, Inhabited

namespace Place

/-- The place one character and one cell further right. -/
def next (p : Place) : Place := ⟨p.column + 1, p.cell + 1⟩

/-- The place one character and one cell further left. -/
def previous (p : Place) : Place := ⟨p.column - 1, p.cell - 1⟩

/-- `p` is not to the right of `q`. -/
def isUpTo (p q : Place) : Bool := p.cell < q.cell || (p.cell = q.cell && p.column ≤ q.column)

end Place

/-- A place in a source. -/
structure Location extends Place where
  line : Nat
  deriving DecidableEq, Repr

/-- The line that holds byte `offset`; the last one if none does. -/
def lineAt (lines : List SourceLine) (offset : Nat) : SourceLine :=
  (lines.find? fun line => line.start ≤ offset && offset < line.stop).getD (lines.getLastD default)

/-- The lines that `span` meets, with the one that starts where it stops; the last line if there are
none. -/
def linesOf (lines : List SourceLine) (span : Span) : List SourceLine :=
  match lines.filter fun line => span.start < line.stop && line.start ≤ span.stop with
  | [] => lines.getLast?.toList
  | met => met

/-- Where byte `offset` is in `line`. A place inside the line ending counts one column more. -/
def SourceLine.locate (line : SourceLine) (offset : Nat) : Location :=
  let before := Text.takeBytes (offset - line.start) line.text
  let inEnding := Text.byteLength line.text < offset - line.start
  ⟨⟨before.length + (if inEnding then 1 else 0), cellWidth before⟩, line.number⟩

/-- The first place of a range and the one behind its last. A range that goes on from an earlier
line into a line ending takes one more cell for it. -/
def locate (lines : List SourceLine) (span : Span) : Location × Location :=
  let first := (lineAt lines span.start).locate span.start
  if span.start = span.stop then (first, first) else
    let line := lineAt lines span.stop
    let before := Text.takeBytes (span.stop - line.start) line.text
    let inEnding := first.line ≠ line.number && line.stop - line.ending < span.stop
    let beyond := if inEnding then 1 else 0
    (first, ⟨⟨before.length + beyond, cellWidth before + beyond⟩, line.number⟩)

end PatternGraph.Report
