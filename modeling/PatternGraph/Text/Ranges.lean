/-!
# Ranges of code points

A Unicode property is a table of code point ranges in ascending order; the look-up stops at the
first range that lies above the code point.
-/
namespace PatternGraph.Text

/-- The first and the last code point of a range. -/
abbrev CodeRange := Nat × Nat

/-- `n` lies in one of `ranges`, which are in ascending order. -/
def inRanges : List CodeRange → Nat → Bool
  | [], _ => false
  | (first, last) :: rest, n => if n < first then false else n ≤ last || inRanges rest n

end PatternGraph.Text
