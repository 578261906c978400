import PatternGraph.Proofs.Grammar

/-!
# What can still become a pattern

Kinds of tokens are viable if the grammar derives them with further kinds behind. The recognizer
gets through exactly the viable ones: it refuses a token only where nothing that follows could
help, and from every position it reaches, some kinds lead to the end of a pattern.
-/
namespace PatternGraph.Grammar
open Token (Kind)

/-- The kinds begin a sequence that the grammar derives. -/
def Viable (w : List Kind) : Prop := ∃ more, Derives .pattern (w ++ more)

namespace Position

/-- The position behind the kinds, which is none if one of them cannot stand where it does. -/
def reach? : Position → List Kind → Option Position
  | p, [] => some p
  | p, k :: rest => (p.next? k).bind (·.reach? rest)

/-- Kinds that lead from a position to the end of a pattern. -/
def completion : Position → List Kind
  | begin => [.char]
  | behindElement | behindQuantifier => []
  | behindOpening => [.char, .classClose]
  | behindMember => [.classClose]

theorem accepts_completion (p : Position) : p.accepts p.completion := by
  cases p <;> rfl

theorem accepts_append (p : Position) (u v : List Kind) :
    p.accepts (u ++ v) = (p.reach? u).any (·.accepts v) := by
  induction u generalizing p with
  | nil => rfl
  | cons k rest ih =>
    rw [List.cons_append, accepts, reach?]
    cases p.next? k with
    | none => rfl
    | some q => exact ih q

theorem accepts_eq_any_isFinal (p : Position) (w : List Kind) :
    p.accepts w = (p.reach? w).any (·.isFinal) := by
  have split := accepts_append p w []
  rwa [List.append_nil] at split

theorem reach?_append (p : Position) (u v : List Kind) :
    p.reach? (u ++ v) = (p.reach? u).bind (·.reach? v) := by
  induction u generalizing p with
  | nil => rfl
  | cons k rest ih =>
    rw [List.cons_append, reach?, reach?]
    cases p.next? k with
    | none => rfl
    | some q => exact ih q

end Position

/-- The viable sequences are those that the recognizer gets through. -/
theorem viable_iff_isSome_reach? {w : List Kind} :
    Viable w ↔ (Position.begin.reach? w).isSome := by
  constructor
  · rintro ⟨more, derivation⟩
    have accepted := accepts_begin_iff_derives.2 derivation
    rw [Position.accepts_append, Option.any_eq_true] at accepted
    obtain ⟨q, reached, _⟩ := accepted
    rw [reached]
    rfl
  · intro reached
    obtain ⟨q, reached⟩ := Option.isSome_iff_exists.1 reached
    have accepted : Position.begin.accepts (w ++ q.completion) := by
      rw [Position.accepts_append, reached]
      exact q.accepts_completion
    exact ⟨q.completion, accepts_begin_iff_derives.1 accepted⟩

section reached
variable {w : List Kind} {q : Position}

theorem viable_of_reach? (reached : Position.begin.reach? w = some q) : Viable w := by
  rw [viable_iff_isSome_reach?, reached]
  rfl

/-- No continuation helps behind a token that the recognizer refuses. -/
theorem not_viable_of_refused (reached : Position.begin.reach? w = some q) {k : Kind}
    (refused : q.next? k = none) : ¬ Viable (w ++ [k]) := by
  rw [viable_iff_isSome_reach?, Position.reach?_append, reached, Option.bind_some,
    Position.reach?, refused]
  simp

/-- Kinds that end where no pattern ends are not derived. -/
theorem not_derives_of_not_isFinal (reached : Position.begin.reach? w = some q)
    (ending : q.isFinal = false) : ¬ Derives .pattern w := by
  rw [← accepts_begin_iff_derives, Position.accepts_eq_any_isFinal, reached]
  simp [ending]

end reached

end PatternGraph.Grammar
