import PatternGraph.Proofs.Acceptance
import PatternGraph.Proofs.Viability

/-!
# How far the reader gets

The token behind a token decides on the steps of a parse, but not on the places that the reader
comes to. So the place behind some tokens is determined by them alone, and a parse that fails has
come to a place where the next token is refused, or the end of the tokens.
-/
namespace PatternGraph.Parse
open Grammar (Position)

variable {place stopped : Place} {t : Token} {diagnostic : Diagnostic} {sourceEnd : Nat}
  {tokens : List Token}

theorem next_readElement (inRun : Bool) (t : Token) (lookahead other : Token.Kind) :
    (readElement inRun t lookahead).next = (readElement inRun t other).next := by
  unfold readElement
  split <;> rfl

theorem next_read (place : Place) (t : Token) (lookahead other : Token.Kind) :
    (place.read t lookahead).next = (place.read t other).next := by
  cases place with
  | start => exact next_readElement false t lookahead other
  | first | further =>
    simp only [Place.read]
    split
    · rfl
    · exact next_readElement true t lookahead other
  | quantified =>
    simp only [Place.read]
    split
    · exact next_readElement false t lookahead other
    · rfl
  | opened inRun opening => rfl
  | inside inRun opening members =>
    simp only [Place.read, readMember]
    split <;> rfl

namespace Place

/-- What reading a token leads to, whatever follows. -/
def advance (place : Place) (t : Token) : Except Diagnostic Place :=
  (place.read t .endOfInput).next

/-- The place behind the tokens, if none of them is refused. -/
def behind? : Place → List Token → Option Place
  | place, [] => some place
  | place, t :: rest => (place.advance t).toOption.bind (·.behind? rest)

theorem behind?_cons_eq_some_iff {rest : List Token} :
    place.behind? (t :: rest) = some stopped ↔
      ∃ next, place.advance t = .ok next ∧ next.behind? rest = some stopped := by
  cases advanced : place.advance t <;> simp [behind?, advanced, Except.toOption]

end Place

/-- The rest of a parse hangs on the place that its first token leads to. -/
theorem failure_ofTokensFrom_cons (sourceEnd : Nat) (place : Place) (t : Token)
    (rest : List Token) :
    (ofTokensFrom sourceEnd place (t :: rest)).failure =
      match place.advance t with
      | .error diagnostic => some diagnostic
      | .ok next => (ofTokensFrom sourceEnd next rest).failure := by
  rw [Place.advance, next_read place t .endOfInput (Token.lookahead rest), ofTokensFrom]
  cases place.read t (Token.lookahead rest) with
  | mk steps next => cases next <;> rfl

/-- Behind tokens that are not refused, a parse fails as from the place that they lead to. -/
theorem failure_ofTokensFrom_append (arrived : place.behind? tokens = some stopped)
    (more : List Token) :
    (ofTokensFrom sourceEnd place (tokens ++ more)).failure =
      (ofTokensFrom sourceEnd stopped more).failure := by
  induction tokens generalizing place with
  | nil =>
    cases arrived
    rfl
  | cons t rest ih =>
    obtain ⟨next, advanced, arrived⟩ := Place.behind?_cons_eq_some_iff.1 arrived
    rw [List.cons_append, failure_ofTokensFrom_cons, advanced]
    exact ih arrived

/-- A parse that fails has come to a token that is refused, or to an end that is. -/
theorem exists_stop_of_failure
    (failed : (ofTokensFrom sourceEnd place tokens).failure = some diagnostic) :
    (∃ before t after stopped, tokens = before ++ t :: after ∧
        place.behind? before = some stopped ∧ stopped.advance t = .error diagnostic) ∨
      ∃ stopped, place.behind? tokens = some stopped ∧
        (stopped.finish sourceEnd).failure = some diagnostic := by
  induction tokens generalizing place with
  | nil => exact .inr ⟨place, rfl, failed⟩
  | cons t rest ih =>
    rw [failure_ofTokensFrom_cons] at failed
    cases advanced : place.advance t with
    | error refusal =>
      rw [advanced] at failed
      cases failed
      exact .inl ⟨[], t, rest, place, rfl, rfl, advanced⟩
    | ok next =>
      rw [advanced] at failed
      rcases ih failed with
        ⟨before, u, after, stopped, rfl, arrived, refused⟩ | ⟨stopped, arrived, refused⟩
      · exact .inl ⟨t :: before, u, after, stopped, rfl,
          Place.behind?_cons_eq_some_iff.2 ⟨next, advanced, arrived⟩, refused⟩
      · exact .inr ⟨stopped, Place.behind?_cons_eq_some_iff.2 ⟨next, advanced, arrived⟩, refused⟩

/-- The recognizer comes to the position of the reader's place. -/
theorem reach?_of_behind? (arrived : place.behind? tokens = some stopped) :
    place.position.reach? (tokens.map (·.kind)) = some stopped.position := by
  induction tokens generalizing place with
  | nil =>
    cases arrived
    rfl
  | cons t rest ih =>
    obtain ⟨next, advanced, arrived⟩ := Place.behind?_cons_eq_some_iff.1 arrived
    have moved := position_read place t .endOfInput
    rw [← Place.advance, advanced] at moved
    rw [List.map_cons, Position.reach?, ← moved]
    exact ih arrived

end PatternGraph.Parse
