import PatternGraph.Proofs.ErrorLocation
import PatternGraph.Proofs.Scanning

/-!
# What an error is about

The kind of an error, its message and its note are determined by where it stands. A character that
is no token comes before all else. The failure of a parse hangs on whether a class is open at the
token where it stands and on the kind of that token, and at the end of the source on whether
anything was read at all.
-/
namespace PatternGraph

namespace Token
variable {before : List Token} {t opening : Token}

/-- A class is open behind the tokens: a `[` among them has no `]` behind it. -/
def ClassOpen (before : List Token) : Prop :=
  ∃ front opening inner, before = front ++ opening :: inner ∧ opening.kind = .classOpen ∧
    ∀ t ∈ inner, t.kind ≠ .classClose

/-- `opening` is the `[` that opens the class that is open behind the tokens. -/
def Opens (opening : Token) (before : List Token) : Prop :=
  ∃ front inner, before = front ++ opening :: inner ∧ opening.kind = .classOpen ∧
    ¬ ClassOpen front ∧ ∀ t ∈ inner, t.kind ≠ .classClose

theorem not_classOpen_nil : ¬ ClassOpen [] := by
  rintro ⟨front, opening, inner, split, _⟩
  simp at split

theorem classOpen_append_singleton_iff :
    ClassOpen (before ++ [t]) ↔
      t.kind = .classOpen ∨ ClassOpen before ∧ t.kind ≠ .classClose := by
  constructor
  · rintro ⟨front, opening, inner, split, opens, unclosed⟩
    rcases List.eq_nil_or_concat inner with rfl | ⟨inner, last, rfl⟩
    · obtain ⟨rfl, same⟩ := List.append_inj' split rfl
      cases same
      exact .inl opens
    · rw [List.concat_eq_append, ← List.cons_append, ← List.append_assoc] at split
      obtain ⟨rfl, same⟩ := List.append_inj' split rfl
      cases same
      have inside : ∀ u ∈ inner, u.kind ≠ .classClose := fun u member =>
        unclosed u (by simp [member])
      exact .inr ⟨⟨front, opening, inner, rfl, opens, inside⟩, unclosed t (by simp)⟩
  · rintro (opens | ⟨⟨front, opening, inner, rfl, opens, unclosed⟩, other⟩)
    · exact ⟨before, t, [], rfl, opens, by simp⟩
    · have within := List.forall_mem_append.2 ⟨unclosed, List.forall_mem_singleton.2 other⟩
      exact ⟨front, opening, inner ++ [t], by simp, opens, within⟩

theorem opens_append_singleton (outside : ¬ ClassOpen before) (opens : t.kind = .classOpen) :
    t.Opens (before ++ [t]) :=
  ⟨before, [], rfl, opens, outside, by simp⟩

theorem Opens.append_singleton (opens : opening.Opens before) (other : t.kind ≠ .classClose) :
    opening.Opens (before ++ [t]) := by
  obtain ⟨front, inner, rfl, kind, outside, unclosed⟩ := opens
  have within := List.forall_mem_append.2 ⟨unclosed, List.forall_mem_singleton.2 other⟩
  exact ⟨front, inner ++ [t], by simp, kind, outside, within⟩

theorem Opens.classOpen (opens : opening.Opens before) : ClassOpen before := by
  obtain ⟨front, inner, split, kind, _, unclosed⟩ := opens
  exact ⟨front, opening, inner, split, kind, unclosed⟩

section spans
variable {offset : Nat} {source : List Char} {tokens after : List Token}

/-- A token stands behind the characters of the tokens before it. -/
theorem start_of_split (read : ofSourceFrom offset source = .ok (before ++ t :: after)) :
    t.start = offset + Text.byteLength (before.map (·.char)) := by
  induction before generalizing offset source with
  | nil =>
    cases source with
    | nil => cases read
    | cons c rest =>
      obtain ⟨kind, following, _, _, same⟩ := ofSourceFrom_cons_eq_ok_iff.1 read
      cases same
      rfl
  | cons u before ih =>
    cases source with
    | nil => cases read
    | cons c rest =>
      obtain ⟨kind, following, _, readRest, same⟩ := ofSourceFrom_cons_eq_ok_iff.1 read
      cases same
      rw [ih readRest, List.map_cons, Text.byteLength_cons, Nat.add_assoc]

/-- No two tokens have the same span. -/
theorem split_eq_of_span_eq {other : List Token} {u : Token} {rest : List Token}
    (read : ofSourceFrom offset source = .ok tokens) (split : tokens = before ++ t :: after)
    (split' : tokens = other ++ u :: rest) (same : t.span = u.span) : before = other ∧ t = u := by
  have start := start_of_split (split ▸ read)
  have start' := start_of_split (split' ▸ read)
  have starts : t.start = u.start := congrArg Span.start same
  have leading : before <+: tokens := ⟨t :: after, split.symm⟩
  have leading' : other <+: tokens := ⟨u :: rest, split'.symm⟩
  -- one of the fronts begins with the other, and every token takes up some bytes
  have equal : before = other := by
    rcases List.prefix_or_prefix_of_prefix leading leading' with ⟨more, rfl⟩ | ⟨more, rfl⟩
    all_goals
      cases more with
      | nil => simp
      | cons v more =>
        have positive := v.char.utf8Size_pos
        simp only [List.map_append, List.map_cons, Text.byteLength_append,
          Text.byteLength_cons] at start start'
        omega
  subst equal
  have heads := List.append_cancel_left (split.symm.trans split')
  exact ⟨rfl, (List.cons.inj heads).1⟩

end spans

end Token

namespace Parse
open Token (ClassOpen Opens)

variable {before tokens : List Token} {t : Token} {place stopped : Place}
  {diagnostic : Diagnostic} {sourceEnd : Nat}

/-- The failure that a token is, behind the tokens before it. -/
inductive Misplaced (before : List Token) (t : Token) : Diagnostic → Prop
  | emptyClass (inside : ClassOpen before) (closing : t.kind = .classClose) :
      Misplaced before t (.bare .expectedClassMember t.span)
  | noMember (inside : ClassOpen before) (other : t.kind ≠ .classClose) :
      Misplaced before t (.naming .expectedClassMember t.span t.kind.describe)
  | closesNothing (outside : ¬ ClassOpen before) (closing : t.kind = .classClose) :
      Misplaced before t (.bare .unmatchedClassClose t.span)
  | repeatsNothing (outside : ¬ ClassOpen before) (quantifying : t.kind.isQuantifier) :
      Misplaced before t (.naming .nothingToRepeat t.span t.kind.describe)

/-- The reader stands at a place of a class exactly if the tokens before it leave one open. -/
def Place.Fits (before : List Token) : Place → Prop
  | .start => before = []
  | .first | .further | .quantified => before ≠ [] ∧ ¬ ClassOpen before
  | .opened _ opening => opening.Opens before ∧ before.getLast?.map (·.kind) = some .classOpen
  | .inside _ opening _ => opening.Opens before ∧ before.getLast?.map (·.kind) = some .char

theorem fits_behindElement {inRun : Bool} (outside : ¬ ClassOpen (before ++ [t])) :
    (Place.behindElement inRun).Fits (before ++ [t]) := by
  cases inRun <;> exact ⟨by simp, outside⟩

section step
variable {next : Place} {lookahead : Token.Kind} {inRun : Bool} {opening : Token}
  {members : SymbolSet}

theorem misplaced_unexpected (outside : ¬ ClassOpen before) (token : t.kind ≠ .endOfInput)
    (beginsNothing : ¬ t.kind.startsAtom) : Misplaced before t (unexpected t) := by
  cases kind : t.kind
  case star | plus | question =>
    have quantifying : t.kind.isQuantifier := by
      rw [kind]
      rfl
    have repeats := Misplaced.repeatsNothing outside quantifying
    simpa [unexpected, kind] using repeats
  case classClose =>
    have closes := Misplaced.closesNothing outside kind
    simpa [unexpected, kind] using closes
  case endOfInput => exact absurd kind token
  all_goals simp [kind, Token.Kind.startsAtom] at beginsNothing

theorem Place.Fits.outside (fits : place.Fits before) (outside : place.class? = none) :
    ¬ ClassOpen before := by
  cases place with
  | start =>
    have empty : before = [] := fits
    rw [empty]
    exact Token.not_classOpen_nil
  | first | further | quantified => exact fits.2
  | opened | inside => cases outside

theorem Place.Fits.opens (fits : place.Fits before)
    (inside : place.class? = some (opening, members)) : opening.Opens before := by
  cases place with
  | start | first | further | quantified => cases inside
  | opened | inside =>
    cases inside
    exact fits.1

/-- A token takes the reader from a place that fits to a place that fits. -/
theorem Place.Fits.takes {symbols? : Option SymbolSet} (fits : place.Fits before)
    (takes : Takes place t symbols? next) : next.Fits (before ++ [t]) := by
  cases takes with
  | literal outside kind inRun | wildcard outside kind inRun =>
    apply fits_behindElement
    simp [Token.classOpen_append_singleton_iff, kind, fits.outside outside]
  | opening outside kind inRun =>
    exact ⟨Token.opens_append_singleton (fits.outside outside) kind, by simp [kind]⟩
  | quantifier behind quantifying =>
    have outside := class?_eq_none_of_behindElement behind
    refine ⟨by simp, ?_⟩
    rw [Token.classOpen_append_singleton_iff]
    rintro (opens | ⟨inside, _⟩)
    · simp [opens, Token.Kind.isQuantifier] at quantifying
    · exact fits.outside outside inside
  | member inside kind inRun =>
    exact ⟨(fits.opens inside).append_singleton (by simp [kind]), by simp [kind]⟩
  | closing inside kind =>
    apply fits_behindElement
    simp [Token.classOpen_append_singleton_iff, kind]

/-- A token that is refused at a place that fits is misplaced behind the tokens before it. -/
theorem Place.Fits.misplaced (fits : place.Fits before) (token : t.kind ≠ .endOfInput)
    (refuses : Refuses place t diagnostic) : Misplaced before t diagnostic := by
  cases refuses with
  | noElement outside beginsNothing =>
    exact misplaced_unexpected (fits.outside outside) token beginsNothing
  | emptyClass inside closing =>
    subst inside
    exact .emptyClass fits.1.classOpen closing
  | noMember inside other => exact .noMember (fits.opens inside).classOpen other

end step

/-- What fits at the start of some tokens fits behind them. -/
theorem Place.Fits.behind? (fits : place.Fits before)
    (arrived : place.behind? tokens = some stopped) : stopped.Fits (before ++ tokens) := by
  induction tokens generalizing place before with
  | nil =>
    cases arrived
    rwa [List.append_nil]
  | cons t rest ih =>
    obtain ⟨next, advanced, arrived⟩ := behind?_cons_eq_some_iff.1 arrived
    obtain ⟨_, takes, _⟩ := takes_of_read advanced
    have later := ih (fits.takes takes) arrived
    rwa [List.append_assoc] at later

/-- The failure that the tokens of a source of `sourceEnd` bytes are. -/
inductive Fails (sourceEnd : Nat) (tokens : List Token) : Diagnostic → Prop
  | nothing (empty : tokens = []) :
      Fails sourceEnd tokens (.bare .expectedAtom ⟨sourceEnd, sourceEnd⟩)
  | unclosed {opening : Token} (opens : opening.Opens tokens) :
      Fails sourceEnd tokens (unclosed sourceEnd opening)
  | misplaced {before : List Token} {t : Token} {after : List Token} {diagnostic : Diagnostic}
      (split : tokens = before ++ t :: after) (misplaced : Misplaced before t diagnostic) :
      Fails sourceEnd tokens diagnostic

/-- The end of the tokens is refused where nothing was read, or inside a class. -/
theorem Place.Fits.fails (fits : place.Fits tokens)
    (refused : (place.finish sourceEnd).failure = some diagnostic) :
    Fails sourceEnd tokens diagnostic := by
  cases place with
  | start =>
    cases refused
    exact .nothing fits
  | first | further | quantified => cases refused
  | opened inRun opening =>
    cases refused
    exact .unclosed fits.1
  | inside inRun opening members =>
    cases refused
    exact .unclosed fits.1

/-- A parse that fails has a misplaced token, or comes to a place that fits all its tokens and
refuses the end. -/
theorem misplaced_or_end_of_failure (known : ∀ t ∈ tokens, t.kind ≠ .endOfInput)
    (failed : (ofTokens sourceEnd tokens).failure = some diagnostic) :
    (∃ before t after, tokens = before ++ t :: after ∧ Misplaced before t diagnostic) ∨
      ∃ stopped, Place.start.behind? tokens = some stopped ∧ stopped.Fits tokens ∧
        (stopped.finish sourceEnd).failure = some diagnostic := by
  have fits : Place.start.Fits [] := rfl
  rcases exists_stop_of_failure failed with
    ⟨before, t, after, stopped, split, arrived, refused⟩ | ⟨stopped, arrived, refused⟩
  · have token := known t (by simp [split])
    have stuck := (fits.behind? arrived).misplaced token (refuses_of_read refused)
    exact .inl ⟨before, t, after, split, stuck⟩
  · exact .inr ⟨stopped, arrived, fits.behind? arrived, refused⟩

/-- A parse that fails, fails as its tokens do. -/
theorem fails_of_failure (known : ∀ t ∈ tokens, t.kind ≠ .endOfInput)
    (failed : (ofTokens sourceEnd tokens).failure = some diagnostic) :
    Fails sourceEnd tokens diagnostic := by
  rcases misplaced_or_end_of_failure known failed with
    ⟨before, t, after, split, misplaced⟩ | ⟨stopped, _, fits, refused⟩
  · exact .misplaced split misplaced
  · exact fits.fails refused

namespace Misplaced

theorem range_eq (misplaced : Misplaced before t diagnostic) : diagnostic.range = t.span := by
  cases misplaced <;> rfl

theorem kind_ne (misplaced : Misplaced before t diagnostic) :
    diagnostic.kind ≠ .expectedAtom ∧ diagnostic.kind ≠ .unclosedClass := by
  cases misplaced <;> simp [Diagnostic.bare, Diagnostic.naming]

theorem eq_of_classOpen (misplaced : Misplaced before t diagnostic) (inside : ClassOpen before) :
    diagnostic = if t.kind = .classClose then .bare .expectedClassMember t.span
      else .naming .expectedClassMember t.span t.kind.describe := by
  cases misplaced with
  | emptyClass _ closing => rw [if_pos closing]
  | noMember _ other => rw [if_neg other]
  | closesNothing outside | repeatsNothing outside => exact absurd inside outside

theorem eq_of_closing (misplaced : Misplaced before t diagnostic) (outside : ¬ ClassOpen before)
    (closing : t.kind = .classClose) : diagnostic = .bare .unmatchedClassClose t.span := by
  cases misplaced with
  | emptyClass inside | noMember inside => exact absurd inside outside
  | closesNothing => rfl
  | repeatsNothing _ quantifying => simp [closing, Token.Kind.isQuantifier] at quantifying

theorem eq_of_quantifying (misplaced : Misplaced before t diagnostic)
    (outside : ¬ ClassOpen before) (quantifying : t.kind.isQuantifier) :
    diagnostic = .naming .nothingToRepeat t.span t.kind.describe := by
  cases misplaced with
  | emptyClass inside | noMember inside => exact absurd inside outside
  | closesNothing _ closing => simp [closing, Token.Kind.isQuantifier] at quantifying
  | repeatsNothing => rfl

end Misplaced

/-- No token spans nothing. -/
theorem span_ne_empty (t : Token) (n : Nat) : t.span ≠ ⟨n, n⟩ := by
  intro same
  have positive := t.char.utf8Size_pos
  simp only [Token.span, Token.stop, Span.mk.injEq] at same
  omega

namespace Fails

theorem kind_eq_expectedAtom_iff (fails : Fails sourceEnd tokens diagnostic) :
    diagnostic.kind = .expectedAtom ↔ tokens = [] := by
  cases fails with
  | nothing empty => simp [Diagnostic.bare, empty]
  | unclosed opens =>
    obtain ⟨front, inner, rfl, _⟩ := opens
    simp [Parse.unclosed, Diagnostic.bare]
  | misplaced split misplaced =>
    subst split
    simp [misplaced.kind_ne.1]

theorem kind_eq_unclosedClass_iff (fails : Fails sourceEnd tokens diagnostic) :
    diagnostic.kind = .unclosedClass ↔
      tokens ≠ [] ∧ diagnostic.range = ⟨sourceEnd, sourceEnd⟩ := by
  cases fails with
  | nothing empty => simp [Diagnostic.bare, empty]
  | unclosed opens =>
    obtain ⟨front, inner, rfl, _⟩ := opens
    simp [Parse.unclosed, Diagnostic.bare]
  | misplaced split misplaced =>
    simp [misplaced.kind_ne.2, misplaced.range_eq, span_ne_empty]

theorem exists_opens (fails : Fails sourceEnd tokens diagnostic)
    (kind : diagnostic.kind = .unclosedClass) :
    ∃ opening : Token, opening.Opens tokens ∧
      diagnostic = Parse.unclosed sourceEnd opening := by
  cases fails with
  | nothing => cases kind
  | unclosed opens => exact ⟨_, opens, rfl⟩
  | misplaced _ misplaced => exact absurd kind misplaced.kind_ne.2

/-- A failure that covers a token is about that token. -/
theorem misplaced_of_range {source : List Char} {after : List Token}
    (fails : Fails sourceEnd tokens diagnostic) (read : Token.ofSource source = .ok tokens)
    (split : tokens = before ++ t :: after) (covers : diagnostic.range = t.span) :
    Misplaced before t diagnostic := by
  cases fails with
  | nothing | unclosed => exact absurd covers.symm (span_ne_empty t sourceEnd)
  | misplaced split' misplaced =>
    have same := misplaced.range_eq.symm.trans covers
    obtain ⟨rfl, rfl⟩ := Token.split_eq_of_span_eq read split' split same
    exact misplaced

end Fails

end Parse
open Token (ClassOpen Opens)
open Parse (Misplaced Fails)

/-- A text of the alphabet that does not compile fails as its tokens do. -/
theorem exists_fails {source : List Char} {error : CompileError}
    (alphabet : ∀ c ∈ source, Token.InAlphabet c) (failed : compile source = .error error) :
    ∃ tokens diagnostic, Token.ofSource source = .ok tokens ∧ error = .parse diagnostic ∧
      Fails (Text.byteLength source) tokens diagnostic := by
  obtain ⟨tokens, read⟩ := Token.exists_tokens_iff.2 alphabet
  obtain ⟨diagnostic, same, stopped⟩ := exists_failure_of_compile read failed
  have known : ∀ t ∈ tokens, t.kind ≠ .endOfInput := fun t => Token.ne_endOfInput_of_mem read
  exact ⟨tokens, diagnostic, read, same, Parse.fails_of_failure known stopped⟩

/-- The kind of an error, its message and its note are determined by its place. A character outside
the alphabet comes before all else. A parse of nothing lacks an element, and one that ends
elsewhere ends in a class, of which the note tells the `[`. At a token the failure hangs on whether
a class is open there and on the kind of the token. There is no other failure. -/
theorem error_determined_by_place {source : List Char} {error : CompileError}
    (failed : compile source = .error error) :
    ((∃ c ∈ source, ¬ Token.InAlphabet c) →
      ∃ diagnostic, error = .lex diagnostic ∧ diagnostic.kind = .unrecognizedInput ∧
        diagnostic.related = []) ∧
    ((∀ c ∈ source, Token.InAlphabet c) →
      ∃ tokens diagnostic, Token.ofSource source = .ok tokens ∧ error = .parse diagnostic ∧
        Fails (Text.byteLength source) tokens diagnostic ∧
        (diagnostic.kind = .expectedAtom ↔ source = []) ∧
        (diagnostic.kind = .unclosedClass ↔
          source ≠ [] ∧ diagnostic.range = ⟨Text.byteLength source, Text.byteLength source⟩) ∧
        (diagnostic.kind = .unclosedClass →
          ∃ opening : Token, opening.Opens tokens ∧ ClassOpen tokens ∧
            diagnostic.related = [⟨opening.span, "class opened here"⟩]) ∧
        ∀ before t after, tokens = before ++ t :: after → diagnostic.range = t.span →
          (ClassOpen before →
            diagnostic = if t.kind = .classClose then .bare .expectedClassMember t.span
              else .naming .expectedClassMember t.span t.kind.describe) ∧
          (¬ ClassOpen before → t.kind = .classClose →
            diagnostic = .bare .unmatchedClassClose t.span) ∧
          (¬ ClassOpen before → t.kind.isQuantifier →
            diagnostic = .naming .nothingToRepeat t.span t.kind.describe)) := by
  constructor
  · intro unknown
    obtain ⟨front, run, back, first⟩ := Token.exists_firstRun unknown
    have refused : Token.ofSource source = _ := first.ofSourceFrom_eq_error 0
    rw [compile, Compilation.ofSource, refused] at failed
    cases failed
    exact ⟨_, rfl, rfl, rfl⟩
  · intro alphabet
    obtain ⟨tokens, diagnostic, read, same, fails⟩ := exists_fails alphabet failed
    have nothing : tokens = [] ↔ source = [] := by
      rw [← Token.map_char_of_ofSourceFrom read, List.map_eq_nil_iff]
    refine ⟨tokens, diagnostic, read, same, fails, ?_, ?_, ?_, ?_⟩
    · rw [fails.kind_eq_expectedAtom_iff, nothing]
    · rw [fails.kind_eq_unclosedClass_iff, Ne, nothing]
    · intro kind
      obtain ⟨opening, opens, rfl⟩ := fails.exists_opens kind
      exact ⟨opening, opens, opens.classOpen, rfl⟩
    · intro before t after split covers
      have misplaced := fails.misplaced_of_range read split covers
      exact ⟨misplaced.eq_of_classOpen, misplaced.eq_of_closing, misplaced.eq_of_quantifying⟩

/-- The note is about the class that is open, not about the one that is closed. -/
theorem error_determined_by_place_unclosed :
    compile "[a]b[é".toList = .error (.parse (Parse.unclosed 7 ⟨.classOpen, '[', 4⟩)) ∧
      ∃ tokens, Token.ofSource "[a]b[é".toList = .ok tokens ∧
        ∃ opening : Token, opening.Opens tokens ∧ ClassOpen tokens ∧
          [⟨opening.span, "class opened here"⟩] =
            [(⟨⟨4, 5⟩, "class opened here"⟩ : Diagnostic.Related)] := by
  have failed : compile "[a]b[é".toList =
      .error (.parse (Parse.unclosed 7 ⟨.classOpen, '[', 4⟩)) := by decide
  have checked : "[a]b[é".toList.all fun c => decide (Token.InAlphabet c) := by decide
  have alphabet : ∀ c ∈ "[a]b[é".toList, Token.InAlphabet c :=
    fun c member => of_decide_eq_true (List.all_eq_true.1 checked c member)
  obtain ⟨tokens, diagnostic, read, same, _, _, _, note, _⟩ :=
    (error_determined_by_place failed).2 alphabet
  cases same
  obtain ⟨opening, opens, inside, related⟩ := note rfl
  exact ⟨failed, tokens, read, opening, opens, inside, related.symm⟩

end PatternGraph
