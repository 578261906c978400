/-!
# Canvas of styled characters

A report is drawn on a grid: marks are put at any place and may cover earlier ones, then the rows
are read out as text.
-/
namespace PatternGraph.Report

inductive Style where
  | plain
  | bold
  /-- The level of the report, its main mark and the label of that. -/
  | error
  /-- The gutter, secondary marks and their labels. -/
  | context
  | help
  | addition
  | removal
  deriving DecidableEq, Repr

/-- The code that switches a style on. -/
def Style.code : Style → String
  | plain => ""
  | bold => "\x1b[1m"
  | error => "\x1b[1m\x1b[91m"
  | context => "\x1b[1m\x1b[94m"
  | help => "\x1b[1m\x1b[96m"
  | addition => "\x1b[92m"
  | removal => "\x1b[91m"

/-- The code that switches back from a style. -/
def Style.resetCode : Style → String
  | plain => ""
  | _ => "\x1b[0m"

structure Cell where
  char : Char := ' '
  style : Style := .plain
  deriving DecidableEq

structure Canvas where
  rows : Array (Array Cell) := #[]

namespace Canvas

/-- The number of rows in use, which is also the number of the next free row. -/
def height (canvas : Canvas) : Nat := canvas.rows.size

/-- `cells` with blanks appended up to `width` of them. -/
def widen (cells : Array Cell) (width : Nat) : Array Cell :=
  cells ++ Array.replicate (width - cells.size) ({} : Cell)

/-- The canvas with rows appended up to `height` of them. -/
def extend (canvas : Canvas) (height : Nat) : Canvas :=
  ⟨canvas.rows ++ Array.replicate (height - canvas.rows.size) #[]⟩

def put (canvas : Canvas) (row column : Nat) (char : Char) (style : Style) : Canvas :=
  ⟨(canvas.extend (row + 1)).rows.modify row fun cells =>
    (widen cells (column + 1)).setIfInBounds column ⟨char, style⟩⟩

/-- Put `text` from left to right. -/
def write (canvas : Canvas) (row column : Nat) (text : List Char) (style : Style) : Canvas :=
  text.zipIdx.foldl (fun canvas (c, i) => canvas.put row (column + i) c style) canvas

/-- Put `char` in the columns from `first` up to but not including `last`. -/
def fill (canvas : Canvas) (row first last : Nat) (char : Char) (style : Style) : Canvas :=
  canvas.write row first (List.replicate (last - first) char) style

/-- Put `char` in the rows from `first` up to but not including `last`. -/
def fillDown (canvas : Canvas) (column first last : Nat) (char : Char) (style : Style) : Canvas :=
  (List.range (last - first)).foldl
    (fun canvas i => canvas.put (first + i) column char style) canvas

/-- Append `text` to the last cell of a row. -/
def append (canvas : Canvas) (row : Nat) (text : List Char) (style : Style) : Canvas :=
  canvas.write row (canvas.rows[row]?.getD #[]).size text style

/-- Give the cells in use from column `first` up to but not including `last` another style. -/
def restyle (canvas : Canvas) (row first last : Nat) (style : Style) : Canvas :=
  ⟨canvas.rows.modify row fun cells =>
    cells.mapIdx fun i cell =>
      if first ≤ i ∧ i < last then { cell with style } else cell⟩

/-- The text of a row from a place on where `style` is switched on. -/
def paintCells (style : Style) : List Cell → String
  | [] => style.resetCode
  | cell :: rest =>
    let change := if cell.style = style then "" else style.resetCode ++ cell.style.code
    change ++ cell.char.toString ++ paintCells cell.style rest

/-- The rows as text, with or without the codes of their styles. -/
def paint (canvas : Canvas) (styled : Bool) : String :=
  "\n".intercalate (canvas.rows.toList.map fun row =>
    if styled then paintCells .plain row.toList else String.ofList (row.toList.map (·.char)))

end Canvas

end PatternGraph.Report
