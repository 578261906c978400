import PatternGraph.Proofs.Boundaries
import PatternGraph.Proofs.Tokens

/-!
# What spans cut out of a source

A slice of a text by bytes exists only between two boundaries of it. The span of a token cuts out
the character that the token is made of, and the range of an error the characters that no token is
made of, so nothing is ever cut outside the source or inside a character.
-/
namespace PatternGraph

namespace Text

instance (text : List Char) (n : Nat) : Decidable (IsBoundary text n) :=
  decidable_of_iff (∃ front ∈ text.inits, byteLength front = n) (by simp [IsBoundary])

/-- What a span of a text covers, if both its ends are boundaries of the text. -/
def slice? (text : List Char) (span : Span) : Option (List Char) :=
  if span.start ≤ span.stop ∧ IsBoundary text span.start ∧ IsBoundary text span.stop then
    some (takeBytes (span.stop - span.start) (dropBytes span.start text))
  else none

/-- The middle of a text is cut out by the span behind its front. -/
theorem slice?_append (front middle back : List Char) :
    slice? (front ++ (middle ++ back)) ⟨byteLength front, byteLength front + byteLength middle⟩ =
      some middle := by
  have start : IsBoundary (front ++ (middle ++ back)) (byteLength front) :=
    isBoundary_byteLength (List.prefix_append _ _)
  have stop : IsBoundary (front ++ (middle ++ back)) (byteLength front + byteLength middle) := by
    rw [← byteLength_append, ← List.append_assoc]
    exact isBoundary_byteLength (List.prefix_append _ _)
  rw [slice?, if_pos ⟨Nat.le_add_right _ _, start, stop⟩, dropBytes_byteLength,
    Nat.add_sub_cancel_left, takeBytes_byteLength (List.prefix_append _ _)]

end Text

namespace Token
open Text
variable {offset : Nat} {source : List Char} {tokens : List Token}

/-- A token stands where its character does. -/
theorem exists_split_of_mem (read : ofSourceFrom offset source = .ok tokens) {t : Token}
    (member : t ∈ tokens) :
    ∃ front back, source = front ++ t.char :: back ∧ t.start = offset + byteLength front := by
  induction source generalizing offset tokens with
  | nil =>
    cases read
    cases member
  | cons c rest ih =>
    obtain ⟨kind, following, _, readRest, rfl⟩ := ofSourceFrom_cons_eq_ok_iff.1 read
    rcases List.mem_cons.1 member with rfl | later
    · exact ⟨[], rest, rfl, rfl⟩
    · obtain ⟨front, back, rfl, start⟩ := ih readRest later
      refine ⟨c :: front, back, rfl, ?_⟩
      rw [start, byteLength_cons, Nat.add_assoc]

/-- An error is about a stretch of the source. -/
theorem exists_run_of_error {diagnostic : Diagnostic}
    (refused : ofSourceFrom offset source = .error diagnostic) :
    ∃ front run back, source = front ++ (run ++ back) ∧
      diagnostic = unrecognized (offset + byteLength front) run := by
  induction source generalizing offset with
  | nil => cases refused
  | cons c rest ih =>
    rw [ofSourceFrom] at refused
    split at refused
    · cases refused
      refine ⟨[], c :: rest.takeWhile (!Recognized ·), rest.dropWhile (!Recognized ·), ?_, rfl⟩
      simp
    · split at refused
      · next inner =>
        cases refused
        obtain ⟨front, run, back, rfl, same⟩ := ih inner
        refine ⟨c :: front, run, back, rfl, ?_⟩
        rw [same, byteLength_cons, Nat.add_assoc]
      · cases refused

theorem slice?_span (read : ofSource source = .ok tokens) {t : Token} (member : t ∈ tokens) :
    slice? source t.span = some [t.char] := by
  obtain ⟨front, back, rfl, start⟩ := exists_split_of_mem read member
  have span : t.span = ⟨byteLength front, byteLength front + byteLength [t.char]⟩ := by
    simp [Token.span, stop, start]
  rw [span]
  exact slice?_append front [t.char] back

theorem slice?_range {diagnostic : Diagnostic} (refused : ofSource source = .error diagnostic) :
    ∃ run, slice? source diagnostic.range = some run ∧
      diagnostic = unrecognized diagnostic.range.start run := by
  obtain ⟨front, run, back, rfl, rfl⟩ := exists_run_of_error refused
  rw [Nat.zero_add]
  exact ⟨run, slice?_append front run back, rfl⟩

end Token

end PatternGraph
