import PatternGraph.Proofs.ErrorKinds

/-!
# Taking up the fix that is offered

The only failure that offers a fix is a class that is still open at the end of the source, and the
fix closes it there. The text that this makes is a pattern exactly if the class has a member by
then. A source that ends right behind the `[` is offered the same fix, which leaves it with an
empty class and so with another error.
-/
namespace PatternGraph

/-- A source with the replacement of a fix in place of its range. -/
def Diagnostic.Fix.apply (fix : Diagnostic.Fix) (source : List Char) : List Char :=
  Text.takeBytes fix.range.start source ++ fix.replacement.toList ++
    Text.dropBytes fix.range.stop source

namespace Token
variable {offset : Nat} {source : List Char} {tokens : List Token}

/-- The tokens of two texts in a row. -/
theorem ofSourceFrom_append {more : List Char} {following : List Token}
    (read : ofSourceFrom offset source = .ok tokens)
    (readMore : ofSourceFrom (offset + Text.byteLength source) more = .ok following) :
    ofSourceFrom offset (source ++ more) = .ok (tokens ++ following) := by
  induction source generalizing offset tokens with
  | nil =>
    cases read
    exact readMore
  | cons c rest ih =>
    obtain ⟨kind, later, known, readRest, rfl⟩ := ofSourceFrom_cons_eq_ok_iff.1 read
    rw [Text.byteLength_cons, ← Nat.add_assoc] at readMore
    apply ofSourceFrom_cons_eq_ok_iff.2
    exact ⟨kind, later ++ following, known, ih readRest readMore, rfl⟩

/-- A text with tokens ends in `[` exactly if its last token opens a class. -/
theorem getLast?_eq_opening_iff {kind : Kind} (read : ofSourceFrom offset source = .ok tokens)
    (last : tokens.getLast?.map (·.kind) = some kind) :
    source.getLast? = some '[' ↔ kind = .classOpen := by
  obtain ⟨t, held, rfl⟩ := Option.map_eq_some_iff.1 last
  have spelled := ofChar?_eq_some_iff.2 (spells_of_mem read (List.mem_of_getLast? held))
  have char : source.getLast? = some t.char := by
    rw [← map_char_of_ofSourceFrom read, List.getLast?_map, held]
    rfl
  rw [char, Option.some.injEq]
  constructor
  · intro bracket
    rw [bracket] at spelled
    exact (Option.some.inj spelled).symm
  · intro opens
    rw [opens, ofChar?_eq_some_iff] at spelled
    generalize t.char = c at spelled
    cases spelled
    rfl

/-- The `]` that closes a class at the end of a source. -/
def closing (sourceEnd : Nat) : Token := ⟨.classClose, ']', sourceEnd⟩

theorem ofSource_append_closing (read : ofSource source = .ok tokens) :
    ofSource (source ++ [']']) = .ok (tokens ++ [closing (Text.byteLength source)]) := by
  apply ofSourceFrom_append read
  rw [Nat.zero_add]
  rfl

end Token

namespace Parse
variable {sourceEnd : Nat} {tokens : List Token} {diagnostic : Diagnostic}
  {fix : Diagnostic.Fix}

theorem Misplaced.fix_eq_none {before : List Token} {t : Token}
    (misplaced : Misplaced before t diagnostic) : diagnostic.fix = none := by
  cases misplaced <;> rfl

/-- A parse that fails with a fix has come to its end inside a class, behind the `[` or behind a
member. -/
theorem exists_place_of_fix (known : ∀ t ∈ tokens, t.kind ≠ .endOfInput)
    (failed : (ofTokens sourceEnd tokens).failure = some diagnostic)
    (offered : diagnostic.fix = some fix) :
    ∃ inRun opening, diagnostic = unclosed sourceEnd opening ∧
      (Place.start.behind? tokens = some (.opened inRun opening) ∧
          tokens.getLast?.map (·.kind) = some .classOpen ∨
        ∃ members, Place.start.behind? tokens = some (.inside inRun opening members) ∧
          tokens.getLast?.map (·.kind) = some .char) := by
  rcases misplaced_or_end_of_failure known failed with
    ⟨before, t, after, split, misplaced⟩ | ⟨stopped, arrived, fits, refused⟩
  · rw [misplaced.fix_eq_none] at offered
    cases offered
  · cases stopped with
    | start =>
      cases refused
      cases offered
    | first | further | quantified => cases refused
    | opened inRun opening =>
      cases refused
      exact ⟨inRun, opening, rfl, .inl ⟨arrived, fits.2⟩⟩
    | inside inRun opening members =>
      cases refused
      exact ⟨inRun, opening, rfl, .inr ⟨members, arrived, fits.2⟩⟩

/-- Behind the `[` of a class, a `]` is refused. -/
theorem failure_closing_of_opened {inRun : Bool} {opening : Token} {stop : Nat}
    (arrived : Place.start.behind? tokens = some (.opened inRun opening)) :
    (ofTokens stop (tokens ++ [Token.closing sourceEnd])).failure =
      some (.bare .expectedClassMember ⟨sourceEnd, sourceEnd + 1⟩) := by
  rw [ofTokens, failure_ofTokensFrom_append arrived]
  rfl

/-- Behind a member of a class, a `]` completes a pattern. -/
theorem failure_closing_of_inside {inRun : Bool} {opening : Token} {members : SymbolSet}
    {stop : Nat} (arrived : Place.start.behind? tokens = some (.inside inRun opening members)) :
    (ofTokens stop (tokens ++ [Token.closing sourceEnd])).failure = none := by
  rw [ofTokens, failure_ofTokensFrom_append arrived]
  cases inRun <;> rfl

end Parse

/-- The fix of a class that is still open adds a `]` to the source. -/
theorem apply_fix_unclosed {source : List Char} {opening : Token} {fix : Diagnostic.Fix}
    (offered : (Parse.unclosed (Text.byteLength source) opening).fix = some fix) :
    fix.apply source = source ++ [']'] := by
  cases offered
  have front := Text.takeBytes_byteLength (List.prefix_refl source)
  have back := Text.dropBytes_byteLength source []
  have bracket : "]".toList = [']'] := by decide
  rw [List.append_nil] at back
  rw [Diagnostic.Fix.apply, front, back, List.append_nil, bracket]

/-- The fix that an error offers closes the open class at the end of the source, and this makes a
pattern of it exactly if the source does not end in `[`. If it does, the class is empty and the
added `]` is refused. -/
theorem fixed_compiles_iff_class_has_member {source : List Char} {error : CompileError}
    {fix : Diagnostic.Fix} (failed : compile source = .error error)
    (offered : error.diagnostic?.bind (·.fix) = some fix) :
    (∃ diagnostic, error = .parse diagnostic ∧ diagnostic.kind = .unclosedClass) ∧
      fix.apply source = source ++ [']'] ∧
      ((∃ g, compile (fix.apply source) = .ok g) ↔ source.getLast? ≠ some '[') ∧
      (source.getLast? = some '[' →
        compile (fix.apply source) = .error (.parse (.bare .expectedClassMember
          ⟨Text.byteLength source, Text.byteLength source + 1⟩))) := by
  cases read : Token.ofSource source with
  | error diagnostic =>
    obtain ⟨_, _, _, _, rfl⟩ := Token.exists_run_of_error read
    rw [compile, Compilation.ofSource, read] at failed
    cases failed
    cases offered
  | ok tokens =>
    obtain ⟨diagnostic, rfl, stopped⟩ := exists_failure_of_compile read failed
    have known : ∀ t ∈ tokens, t.kind ≠ .endOfInput := fun t => Token.ne_endOfInput_of_mem read
    obtain ⟨inRun, opening, rfl, place⟩ := Parse.exists_place_of_fix known stopped offered
    have closed := apply_fix_unclosed offered
    have compiled := compile_eq_of_tokens (Token.ofSource_append_closing read)
    refine ⟨⟨_, rfl, rfl⟩, closed, ?_⟩
    rw [closed]
    rcases place with ⟨arrived, last⟩ | ⟨members, arrived, last⟩
    · have bracket := (Token.getLast?_eq_opening_iff read last).2 rfl
      rw [Parse.failure_closing_of_opened arrived] at compiled
      simp [compiled, bracket]
    · have member : source.getLast? ≠ some '[' := fun bracket =>
        absurd ((Token.getLast?_eq_opening_iff read last).1 bracket) (by simp)
      rw [Parse.failure_closing_of_inside arrived] at compiled
      simp [compiled, member]

/-- A class with a member is repaired, behind other classes and an optional item. -/
theorem fixed_compiles_iff_class_has_member_accented :
    compile "[a]?b[é".toList = .error (.parse (Parse.unclosed 8 ⟨.classOpen, '[', 5⟩)) ∧
      (Parse.unclosed 8 ⟨.classOpen, '[', 5⟩).fix = some ⟨⟨8, 8⟩, "]", "close the class"⟩ ∧
      (⟨⟨8, 8⟩, "]", "close the class"⟩ : Diagnostic.Fix).apply "[a]?b[é".toList =
        "[a]?b[é]".toList ∧
      ∃ g, compile "[a]?b[é]".toList = .ok g := by
  have failed : compile "[a]?b[é".toList =
      .error (.parse (Parse.unclosed 8 ⟨.classOpen, '[', 5⟩)) := by decide
  obtain ⟨_, closed, repaired, _⟩ := fixed_compiles_iff_class_has_member failed rfl
  refine ⟨failed, rfl, closed, ?_⟩
  rw [closed] at repaired
  exact repaired.2 (by decide)

/-- Taking up the fix for `[` makes `[]`, which does not compile either. -/
theorem fix_leaves_empty_class :
    ∃ diagnostic fix, compile "[".toList = .error (.parse diagnostic) ∧
      diagnostic.fix = some fix ∧ fix.apply "[".toList = "[]".toList ∧
      ∀ g, compile (fix.apply "[".toList) ≠ .ok g := by
  have failed : compile "[]".toList =
      .error (.parse (.bare .expectedClassMember ⟨1, 2⟩)) := by decide
  refine ⟨Parse.unclosed 1 ⟨.classOpen, '[', 0⟩, ⟨⟨1, 1⟩, "]", "close the class"⟩, by decide, rfl,
    by decide, fun g compiled => ?_⟩
  have closed : (⟨⟨1, 1⟩, "]", "close the class"⟩ : Diagnostic.Fix).apply "[".toList =
      "[]".toList := by decide
  rw [closed, failed] at compiled
  cases compiled

end PatternGraph
