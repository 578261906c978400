import PatternGraph.Proofs.ReaderRun

/-!
# Where a parse fails

A failing parse stops at the first token that no pattern goes on with, and its diagnostic covers
exactly that token. If there is no such token, the tokens end inside a pattern, and the diagnostic
stands at the end of the source. So a failure is reported neither too early nor too late.
-/
namespace PatternGraph

namespace Parse
open Grammar (Position)

variable {place : Place} {t : Token} {lookahead : Token.Kind} {diagnostic : Diagnostic}
  {sourceEnd : Nat}

theorem range_unexpected (t : Token) : (unexpected t).range = t.span := by
  unfold unexpected
  split <;> rfl

/-- A token is refused at its own span. -/
theorem Refuses.range_eq (refuses : Refuses place t diagnostic) : diagnostic.range = t.span := by
  cases refuses with
  | noElement => exact range_unexpected t
  | emptyClass | noMember => rfl

/-- The end of the tokens is refused at the end of the source. -/
theorem range_of_finish (refused : (place.finish sourceEnd).failure = some diagnostic) :
    diagnostic.range = ⟨sourceEnd, sourceEnd⟩ := by
  cases place <;> cases refused <;> rfl

/-- A token that the reader refuses, the recognizer refuses too. -/
theorem next?_of_read_eq_error (refused : (place.read t lookahead).next = .error diagnostic) :
    place.position.next? t.kind = none := by
  rw [← position_read place t lookahead, refused]
  rfl

theorem isFinal_of_finish (refused : (place.finish sourceEnd).failure = some diagnostic) :
    place.position.isFinal = false := by
  rw [← Bool.not_eq_true, ← @failure_finish_eq_none_iff sourceEnd place, refused]
  exact Option.some_ne_none diagnostic

/-- A parse that fails has read what the recognizer gets through, up to a token that it refuses or
to an end where no pattern ends. -/
theorem reach?_of_failure {tokens : List Token}
    (failed : (ofTokensFrom sourceEnd place tokens).failure = some diagnostic) :
    (∃ before t after q, tokens = before ++ t :: after ∧ diagnostic.range = t.span ∧
        place.position.reach? (before.map (·.kind)) = some q ∧ q.next? t.kind = none) ∨
      (diagnostic.range = ⟨sourceEnd, sourceEnd⟩ ∧
        ∃ q, place.position.reach? (tokens.map (·.kind)) = some q ∧ q.isFinal = false) := by
  rcases exists_stop_of_failure failed with
    ⟨before, t, after, stopped, split, arrived, refused⟩ | ⟨stopped, arrived, refused⟩
  · exact .inl ⟨before, t, after, stopped.position, split, (refuses_of_read refused).range_eq,
      reach?_of_behind? arrived, next?_of_read_eq_error refused⟩
  · exact .inr ⟨range_of_finish refused, stopped.position, reach?_of_behind? arrived,
      isFinal_of_finish refused⟩

end Parse
open Grammar (Derives Viable)

/-- A text of the alphabet that does not compile is reported at the first token that no pattern
goes on with behind the tokens before it, or at the end of the text if its tokens are no pattern
but begin one. -/
theorem parse_error_at_first_token_not_viable {source : List Char} {error : CompileError}
    (alphabet : ∀ c ∈ source, Token.InAlphabet c) (failed : compile source = .error error) :
    ∃ tokens diagnostic, Token.ofSource source = .ok tokens ∧ error = .parse diagnostic ∧
      ((∃ before t after, tokens = before ++ t :: after ∧ diagnostic.range = t.span ∧
          Viable (before.map (·.kind)) ∧ ¬ Viable ((before ++ [t]).map (·.kind))) ∨
        (diagnostic.range = ⟨Text.byteLength source, Text.byteLength source⟩ ∧
          ¬ Derives .pattern (tokens.map (·.kind)) ∧ Viable (tokens.map (·.kind)))) := by
  obtain ⟨tokens, read⟩ := Token.exists_tokens_iff.2 alphabet
  have parsed := compile_eq_of_tokens read
  rw [failed] at parsed
  split at parsed
  · next diagnostic stopped =>
    cases parsed
    refine ⟨tokens, diagnostic, read, rfl, ?_⟩
    rcases Parse.reach?_of_failure stopped with
      ⟨before, t, after, q, split, range, reached, refused⟩ | ⟨range, q, reached, ending⟩
    · have refusedBehind := Grammar.not_viable_of_refused reached refused
      rw [← List.map_singleton, ← List.map_append] at refusedBehind
      exact .inl ⟨before, t, after, split, range, Grammar.viable_of_reach? reached, refusedBehind⟩
    · exact .inr ⟨range, Grammar.not_derives_of_not_isFinal reached ending,
        Grammar.viable_of_reach? reached⟩
  · cases parsed

/-- The second quantifier is the first token that nothing can repair. -/
theorem parse_error_at_first_token_not_viable_doubled :
    (∀ c ∈ "ab++c".toList, Token.InAlphabet c) ∧
      compile "ab++c".toList = .error (.parse (.naming .nothingToRepeat ⟨3, 4⟩ "`+`")) ∧
      ∃ before t after, Token.ofSource "ab++c".toList = .ok (before ++ t :: after) ∧
        t.span = ⟨3, 4⟩ ∧ Viable (before.map (·.kind)) ∧
        ¬ Viable ((before ++ [t]).map (·.kind)) := by
  have checked : "ab++c".toList.all fun c => decide (Token.InAlphabet c) := by decide
  have alphabet : ∀ c ∈ "ab++c".toList, Token.InAlphabet c :=
    fun c member => of_decide_eq_true (List.all_eq_true.1 checked c member)
  have failed : compile "ab++c".toList =
      .error (.parse (.naming .nothingToRepeat ⟨3, 4⟩ "`+`")) := by decide
  obtain ⟨tokens, diagnostic, read, same, located⟩ :=
    parse_error_at_first_token_not_viable alphabet failed
  cases same
  rcases located with ⟨before, t, after, rfl, range, viable, stuck⟩ | ⟨range, _⟩
  · exact ⟨alphabet, failed, before, t, after, read, range.symm, viable, stuck⟩
  · exact absurd range (by decide)

end PatternGraph
