import PatternGraph.Proofs.Construction
import PatternGraph.Proofs.Grammar

/-!
# A pattern compiles exactly if the grammar derives it

The reader's places are the recognizer's positions with what the reader remembers besides: whether
it is in a run, where the open class began, and its members. None of this decides whether a token
is refused, so the reader gets through exactly the token sequences that the grammar derives.
-/
namespace PatternGraph

namespace Parse
open Grammar (Position)

/-- The position of the recognizer where the reader stands. -/
def Place.position : Place → Position
  | .start => .begin
  | .first | .further => .behindElement
  | .quantified => .behindQuantifier
  | .opened _ _ => .behindOpening
  | .inside _ _ _ => .behindMember

@[simp] theorem position_opened (inRun : Bool) (opening : Token) :
    (Place.opened inRun opening).position = .behindOpening := rfl

@[simp] theorem position_inside (inRun : Bool) (opening : Token) (members : SymbolSet) :
    (Place.inside inRun opening members).position = .behindMember := rfl

@[simp] theorem position_behindElement (inRun : Bool) :
    (Place.behindElement inRun).position = .behindElement := by
  cases inRun <;> rfl

theorem position_readElement (inRun : Bool) (t : Token) (lookahead : Token.Kind) :
    (readElement inRun t lookahead).next.toOption.map Place.position =
      Position.intoElement? t.kind := by
  cases kind : t.kind <;> simp [readElement, kind, Except.toOption, Position.intoElement?]

/-- Whatever follows, a token moves the reader as it moves the recognizer. -/
theorem position_read (place : Place) (t : Token) (lookahead : Token.Kind) :
    (place.read t lookahead).next.toOption.map Place.position =
      place.position.next? t.kind := by
  cases place with
  | start => exact position_readElement false t lookahead
  | first | further =>
    simp only [Place.read, Place.position, Position.next?]
    split
    · rfl
    · exact position_readElement true t lookahead
  | quantified =>
    simp only [Place.read, Place.position, Position.next?]
    split
    · exact position_readElement false t lookahead
    · next refused =>
      rw [Position.intoElement?_eq_none refused]
      rfl
  | opened inRun opening =>
    cases kind : t.kind <;>
      simp [Place.read, readFirstMember, Move.after, kind, Except.toOption, Position.next?]
  | inside inRun opening members =>
    cases kind : t.kind <;>
      simp [Place.read, readMember, kind, Except.toOption, Position.next?]

theorem failure_finish_eq_none_iff {sourceEnd : Nat} {place : Place} :
    (place.finish sourceEnd).failure = none ↔ place.position.isFinal := by
  cases place <;> simp [Place.finish, Place.position, Position.isFinal]

/-- The reader gets through the tokens from a place on exactly if the recognizer does. -/
theorem failure_eq_none_iff_accepts {sourceEnd : Nat} {place : Place} {tokens : List Token} :
    (ofTokensFrom sourceEnd place tokens).failure = none ↔
      place.position.accepts (tokens.map (·.kind)) := by
  induction tokens generalizing place with
  | nil => exact failure_finish_eq_none_iff
  | cons t rest ih =>
    have step := position_read place t (Token.lookahead rest)
    simp only [ofTokensFrom, List.map_cons, Position.accepts, ← step]
    cases moved : place.read t (Token.lookahead rest) with
    | mk steps next =>
      cases next with
      | error diagnostic => simp [Except.toOption]
      | ok next => simpa [Except.toOption, Parse.after] using ih

end Parse

/-- Whether a text compiles depends on its characters alone, and then it has the graph of its
items. -/
theorem compile_eq_ok_iff_accepts {source : List Char} {g : Graph} :
    compile source = .ok g ↔
      (∀ c ∈ source, Token.InAlphabet c) ∧
        Grammar.Position.begin.accepts (Token.kinds source) ∧
        g = Item.graph (Item.ofText source) := by
  have accepted {tokens : List Token} (read : Token.ofSource source = .ok tokens) :
      (Parse.ofTokens (Text.byteLength source) tokens).failure = none ↔
        Grammar.Position.begin.accepts (Token.kinds source) := by
    rw [← Token.map_kind_eq_kinds read]
    exact Parse.failure_eq_none_iff_accepts
  rw [compile_eq_ok_iff]
  constructor
  · rintro ⟨tokens, read, succeeded, same⟩
    exact ⟨Token.exists_tokens_iff.1 ⟨tokens, read⟩, (accepted read).1 succeeded, same⟩
  · rintro ⟨alphabet, accepts, same⟩
    obtain ⟨tokens, read⟩ : ∃ tokens, Token.ofSource source = .ok tokens :=
      Token.exists_tokens_iff.2 alphabet
    exact ⟨tokens, read, (accepted read).2 accepts, same⟩

/-- A text compiles exactly if its characters belong to the alphabet and the grammar derives their
tokens. -/
theorem compiles_iff_derives (source : List Char) :
    (∃ g, compile source = .ok g) ↔
      (∀ c ∈ source, Token.InAlphabet c) ∧
        ∃ tokens, Token.ofSource source = .ok tokens ∧
          Grammar.Derives .pattern (tokens.map (·.kind)) := by
  have accepted {tokens : List Token} :
      (Parse.ofTokens (Text.byteLength source) tokens).failure = none ↔
        Grammar.Derives .pattern (tokens.map (·.kind)) :=
    Parse.failure_eq_none_iff_accepts.trans Grammar.accepts_begin_iff_derives
  constructor
  · rintro ⟨g, compiled⟩
    obtain ⟨tokens, read, succeeded, _⟩ := compile_eq_ok_iff.1 compiled
    exact ⟨Token.exists_tokens_iff.1 ⟨tokens, read⟩, tokens, read, accepted.1 succeeded⟩
  · rintro ⟨_, tokens, read, derivation⟩
    exact ⟨_, compile_eq_ok_iff.2 ⟨tokens, read, accepted.2 derivation, rfl⟩⟩

end PatternGraph
