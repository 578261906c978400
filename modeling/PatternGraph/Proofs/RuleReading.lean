import PatternGraph.Pattern.Parse

/-!
# Reading rule by rule

The grammar read by recursive descent: one function for each rule, which takes tokens from the front
and leaves the rest to the rule that called it. The rules that end in themselves are loops. The
reader that goes from place to place takes the same steps and stops with the same failure, since
each of its places is one where a rule goes on.
-/
namespace PatternGraph

/-- How far a rule gets: the steps taken, and the tokens that are left or the refusal. -/
structure Descent where
  steps : List Parse.Step
  left : Except Diagnostic (List Token)

namespace Descent
open Parse (unexpected unclosed ofTokensFrom readElement)
variable {sourceEnd : Nat} {place : Parse.Place} {opening t : Token} {tokens rest : List Token}

/-- The same with steps taken before it. -/
def after (d : Descent) (steps : List Parse.Step) : Descent := ⟨steps ++ d.steps, d.left⟩

/-- Go on with another rule at the tokens that are left. -/
def followedBy (d : Descent) (rule : List Token → Descent) : Descent :=
  match d.left with
  | .ok rest => (rule rest).after d.steps
  | .error _ => d

section rules

/-- Take characters as members of a class as long as there are any. -/
def memberLoop (members : SymbolSet) : List Token → SymbolSet × List Token
  | [] => (members, [])
  | t :: rest =>
    if t.kind = .char then memberLoop (members.insert t.char) rest else (members, t :: rest)

/-- `ListBody := CHAR ListBodyTail`. The end of the tokens is not refused yet. -/
def listBody : List Token → Except Diagnostic (SymbolSet × List Token)
  | [] => .ok (∅, [])
  | t :: rest =>
    match t.kind with
    | .char => .ok (memberLoop ∅ (t :: rest))
    | .classClose => .error (.bare .expectedClassMember t.span)
    | _ => .error (.naming .expectedClassMember t.span t.kind.describe)

/-- The `]` of a class, behind its members. -/
def classClose (sourceEnd : Nat) (opening : Token) (members : SymbolSet) : List Token → Descent
  | [] => ⟨[], .error (unclosed sourceEnd opening)⟩
  | t :: rest =>
    if t.kind = .classClose then ⟨[.element members (Token.lookahead rest)], .ok rest⟩
    else ⟨[], .error (.naming .expectedClassMember t.span t.kind.describe)⟩

/-- `'[' ListBody ']'`, with the `[` taken. -/
def charClass (sourceEnd : Nat) (opening : Token) (tokens : List Token) : Descent :=
  let body : Descent :=
    match listBody tokens with
    | .ok (members, rest) => classClose sourceEnd opening members rest
    | .error diagnostic => ⟨[], .error diagnostic⟩
  body.after [.rule .charClass opening.kind, .rule .listBody (Token.lookahead tokens)]

/-- A literal, wildcard or class. -/
def element (sourceEnd : Nat) : List Token → Descent
  | [] => ⟨[], .error (.bare .expectedAtom ⟨sourceEnd, sourceEnd⟩)⟩
  | t :: rest =>
    match t.kind with
    | .char => ⟨[.element (.single t.char) (Token.lookahead rest)], .ok rest⟩
    | .wildcard => ⟨[.element .alphanumeric (Token.lookahead rest)], .ok rest⟩
    | .classOpen => charClass sourceEnd t rest
    | _ => ⟨[], .error (unexpected t)⟩

/-- `Quantifier := '*' | '+' | '?'`. A second one is refused. -/
def quantifier (tokens : List Token) : Descent :=
  let behind : Descent :=
    match tokens.tail with
    | [] => ⟨[], .ok []⟩
    | t :: rest =>
      if t.kind.isQuantifier then
        ⟨[], .error (.naming .nothingToRepeat t.span t.kind.describe)⟩
      else ⟨[], .ok (t :: rest)⟩
  behind.after [.rule .quantifier (Token.lookahead tokens)]

theorem length_memberLoop_le (members : SymbolSet) (tokens : List Token) :
    (memberLoop members tokens).2.length ≤ tokens.length := by
  induction tokens generalizing members with
  | nil => exact Nat.le_refl _
  | cons t rest ih =>
    rw [memberLoop]
    split
    · exact Nat.le_succ_of_le (ih _)
    · exact Nat.le_refl _

theorem length_le_of_listBody {members : SymbolSet}
    (listed : listBody tokens = .ok (members, rest)) : rest.length ≤ tokens.length := by
  unfold listBody at listed
  split at listed
  · cases listed
    exact Nat.le_refl _
  · next t behind =>
    split at listed
    · have shorter := length_memberLoop_le ∅ (t :: behind)
      rw [Except.ok.inj listed] at shorter
      exact shorter
    · cases listed
    · cases listed

theorem length_le_of_charClass (taken : (charClass sourceEnd opening tokens).left = .ok rest) :
    rest.length ≤ tokens.length := by
  cases listed : listBody tokens with
  | error diagnostic => simp [charClass, after, listed] at taken
  | ok body =>
    obtain ⟨members, behind⟩ := body
    have shorter := length_le_of_listBody listed
    simp only [charClass, after, listed] at taken
    unfold classClose at taken
    split at taken
    · cases taken
    · split at taken
      · cases taken
        exact Nat.le_of_succ_le shorter
      · cases taken

/-- An element is made of one token at least. -/
theorem length_lt_of_element (taken : (element sourceEnd tokens).left = .ok rest) :
    rest.length < tokens.length := by
  unfold element at taken
  split at taken
  · cases taken
  · split at taken
    · cases taken
      exact Nat.lt_succ_self _
    · cases taken
      exact Nat.lt_succ_self _
    · exact Nat.lt_succ_of_le (length_le_of_charClass taken)
    · cases taken

theorem length_le_of_quantifier (taken : (quantifier tokens).left = .ok rest) :
    rest.length ≤ tokens.length := by
  have shorter : tokens.tail.length ≤ tokens.length := by simp
  cases behind : tokens.tail with
  | nil =>
    simp only [quantifier, after, behind] at taken
    cases taken
    exact Nat.zero_le _
  | cons t later =>
    simp only [quantifier, after, behind] at taken
    split at taken
    · cases taken
    · cases taken
      rw [← behind]
      exact shorter

/-- The loop of a `Run`: it takes elements, and may end with a quantifier. -/
def runLoop (sourceEnd : Nat) (tokens : List Token) : Descent :=
  if (Token.lookahead tokens).startsAtom then
    match _taken : (element sourceEnd tokens).left with
    | .ok rest => (runLoop sourceEnd rest).after (element sourceEnd tokens).steps
    | .error _ => element sourceEnd tokens
  else if (Token.lookahead tokens).isQuantifier then quantifier tokens
  else ⟨[], .ok tokens⟩
termination_by tokens.length
decreasing_by exact length_lt_of_element _taken

/-- `AtomSuffix := Quantifier | Run` -/
def atomSuffix (sourceEnd : Nat) (tokens : List Token) : Descent :=
  let suffix :=
    if (Token.lookahead tokens).isQuantifier then quantifier tokens
    else (runLoop sourceEnd tokens).after [.rule .run (Token.lookahead tokens)]
  suffix.after [.rule .atomSuffix (Token.lookahead tokens)]

/-- `Atom := (CHAR | WILDCARD | '[' ListBody ']') AtomSuffix` -/
def atom (sourceEnd : Nat) (tokens : List Token) : Descent :=
  ((element sourceEnd tokens).followedBy (atomSuffix sourceEnd)).after
    [.rule .atom (Token.lookahead tokens)]

theorem length_le_of_runLoop (taken : (runLoop sourceEnd tokens).left = .ok rest) :
    rest.length ≤ tokens.length := by
  fun_induction runLoop sourceEnd tokens with
  | case1 tokens begins behind found ih =>
    exact Nat.le_of_lt (Nat.lt_of_le_of_lt (ih taken) (length_lt_of_element found))
  | case2 tokens begins diagnostic refused => exact Nat.le_of_lt (length_lt_of_element taken)
  | case3 tokens other quantifies => exact length_le_of_quantifier taken
  | case4 tokens other once =>
    cases taken
    exact Nat.le_refl _

theorem length_le_of_atomSuffix (taken : (atomSuffix sourceEnd tokens).left = .ok rest) :
    rest.length ≤ tokens.length := by
  by_cases quantifies : (Token.lookahead tokens).isQuantifier
  · simp only [atomSuffix, after, quantifies] at taken
    exact length_le_of_quantifier taken
  · simp only [atomSuffix, after, quantifies] at taken
    exact length_le_of_runLoop taken

theorem length_lt_of_atom (taken : (atom sourceEnd tokens).left = .ok rest) :
    rest.length < tokens.length := by
  cases found : (element sourceEnd tokens).left with
  | error diagnostic =>
    simp only [atom, followedBy, after, found] at taken
    cases taken
  | ok behind =>
    simp only [atom, followedBy, after, found] at taken
    exact Nat.lt_of_le_of_lt (length_le_of_atomSuffix taken) (length_lt_of_element found)

/-- The loop of a `Pattern` over its atoms. -/
def atomLoop (sourceEnd : Nat) (tokens : List Token) : Descent :=
  match _taken : (atom sourceEnd tokens).left with
  | .ok rest =>
    if (Token.lookahead rest).startsAtom then
      (atomLoop sourceEnd rest).after (atom sourceEnd tokens).steps
    else atom sourceEnd tokens
  | .error _ => atom sourceEnd tokens
termination_by tokens.length
decreasing_by exact length_lt_of_atom _taken

/-- `Pattern := Atom TailOpt` -/
def pattern (sourceEnd : Nat) (tokens : List Token) : Descent :=
  (atomLoop sourceEnd tokens).after [.rule .pattern (Token.lookahead tokens)]

/-- What is left behind a complete pattern is refused. -/
def expectEnd (d : Descent) : Parse :=
  match d.left with
  | .ok [] => ⟨d.steps, none⟩
  | .ok (t :: _) => ⟨d.steps, some (unexpected t)⟩
  | .error diagnostic => ⟨d.steps, some diagnostic⟩

end rules

section places

/-- Let the reader go on from a place at the tokens that are left. -/
def onTo (d : Descent) (sourceEnd : Nat) (place : Parse.Place) : Parse :=
  match d.left with
  | .ok rest => (ofTokensFrom sourceEnd place rest).after d.steps
  | .error diagnostic => ⟨d.steps, some diagnostic⟩

theorem onTo_after (d : Descent) (steps : List Parse.Step) (sourceEnd : Nat)
    (place : Parse.Place) :
    (d.after steps).onTo sourceEnd place = (d.onTo sourceEnd place).after steps := by
  obtain ⟨own, left⟩ := d
  cases left with
  | ok rest => simp [onTo, after, Parse.after]
  | error diagnostic => rfl

/-- Rules follow each other where the reader goes on from the place between them as the second. -/
theorem onTo_followedBy (d : Descent) {rule : List Token → Descent} {between : Parse.Place}
    (goesOn : ∀ tokens,
      ofTokensFrom sourceEnd between tokens = (rule tokens).onTo sourceEnd place) :
    (d.followedBy rule).onTo sourceEnd place = d.onTo sourceEnd between := by
  obtain ⟨own, left⟩ := d
  cases left with
  | ok rest =>
    rw [followedBy, onTo_after, ← goesOn]
    rfl
  | error diagnostic => rfl

theorem ofTokensFrom_inside (sourceEnd : Nat) (inRun : Bool) (opening : Token)
    (members : SymbolSet) (tokens : List Token) :
    ofTokensFrom sourceEnd (.inside inRun opening members) tokens =
      (classClose sourceEnd opening (memberLoop members tokens).1
        (memberLoop members tokens).2).onTo sourceEnd (.behindElement inRun) := by
  induction tokens generalizing members with
  | nil => rfl
  | cons t rest ih =>
    rw [ofTokensFrom, Parse.Place.read, Parse.readMember, memberLoop]
    cases kind : t.kind
    case char => exact ih (members.insert t.char)
    all_goals simp [classClose, kind, onTo]

theorem ofTokensFrom_opened (sourceEnd : Nat) (inRun : Bool) (opening : Token)
    (tokens : List Token) :
    (ofTokensFrom sourceEnd (.opened inRun opening) tokens).after
        [.rule .charClass opening.kind] =
      (charClass sourceEnd opening tokens).onTo sourceEnd (.behindElement inRun) := by
  rw [charClass, onTo_after]
  cases tokens with
  | nil => rfl
  | cons t rest =>
    rw [ofTokensFrom, Parse.Place.read, Parse.readFirstMember, listBody]
    cases kind : t.kind
    case char =>
      have first : SymbolSet.single t.char = (∅ : SymbolSet).insert t.char := rfl
      have inside := ofTokensFrom_inside sourceEnd inRun opening (.single t.char) rest
      rw [first] at inside
      simp [Parse.Move.after, Parse.after, memberLoop, Token.lookahead, kind, first, inside]
    all_goals simp [Parse.Move.after, Parse.after, onTo, Token.lookahead, kind]

/-- Where an element is to begin, the reader takes it as its rule does. -/
theorem ofTokensFrom_of_read {inRun : Bool} {steps : List Parse.Step}
    (begins : place.read t (Token.lookahead rest) =
      (readElement inRun t (Token.lookahead rest)).after steps) :
    ofTokensFrom sourceEnd place (t :: rest) =
      ((element sourceEnd (t :: rest)).onTo sourceEnd (.behindElement inRun)).after steps := by
  rw [ofTokensFrom, begins, readElement, element]
  cases kind : t.kind
  case classOpen =>
    rw [← ofTokensFrom_opened]
    simp [Parse.Move.after, Parse.after, kind]
  all_goals simp [Parse.Move.after, Parse.after, onTo]

theorem readElement_of_not_startsAtom (inRun : Bool) (other : ¬ t.kind.startsAtom)
    (lookahead : Token.Kind) :
    readElement inRun t lookahead = ⟨[], .error (unexpected t)⟩ := by
  unfold readElement
  split <;> simp_all [Token.Kind.startsAtom]

theorem not_startsAtom_of_isQuantifier {kind : Token.Kind} (quantifies : kind.isQuantifier) :
    ¬ kind.startsAtom := by
  cases kind <;> simp_all [Token.Kind.isQuantifier, Token.Kind.startsAtom]

theorem unexpected_of_isQuantifier (quantifies : t.kind.isQuantifier) :
    unexpected t = .naming .nothingToRepeat t.span t.kind.describe := by
  unfold unexpected
  split <;> simp_all [Token.Kind.isQuantifier]

/-- Behind a complete atom, what begins no other one is left behind the pattern. -/
theorem ofTokensFrom_quantified_of_not_startsAtom
    (other : ¬ (Token.lookahead tokens).startsAtom) :
    ofTokensFrom sourceEnd .quantified tokens = expectEnd ⟨[], .ok tokens⟩ := by
  cases tokens with
  | nil => rfl
  | cons t rest =>
    have ends : ¬ t.kind.startsAtom := other
    rw [ofTokensFrom, Parse.Place.read, if_neg ends]
    rfl

theorem onTo_quantifier (sourceEnd : Nat) (t : Token) (rest : List Token) :
    (quantifier (t :: rest)).onTo sourceEnd .quantified =
      (ofTokensFrom sourceEnd .quantified rest).after [.rule .quantifier t.kind] := by
  rw [quantifier, onTo_after]
  cases rest with
  | nil => rfl
  | cons u later =>
    by_cases doubled : u.kind.isQuantifier
    · have ends : ¬ (Token.lookahead (u :: later)).startsAtom :=
        not_startsAtom_of_isQuantifier doubled
      rw [ofTokensFrom_quantified_of_not_startsAtom ends]
      simp [doubled, onTo, expectEnd, unexpected_of_isQuantifier doubled, Token.lookahead]
    · simp [doubled, onTo, Parse.after, Token.lookahead]

/-- A run goes on until a token neither begins an element nor is a quantifier, and such a token is
refused at either place. -/
theorem ofTokensFrom_further (sourceEnd : Nat) (tokens : List Token) :
    ofTokensFrom sourceEnd .further tokens =
      (runLoop sourceEnd tokens).onTo sourceEnd .quantified := by
  have loops {t : Token} {rest : List Token} (begins : t.kind.startsAtom) :
      ofTokensFrom sourceEnd .further (t :: rest) =
        (element sourceEnd (t :: rest)).onTo sourceEnd .further := by
    have once : ¬ t.kind.isQuantifier := fun quantifies =>
      not_startsAtom_of_isQuantifier quantifies begins
    have read : Parse.Place.further.read t (Token.lookahead rest) =
      (readElement true t (Token.lookahead rest)).after [] := if_neg once
    exact ofTokensFrom_of_read read
  fun_induction runLoop sourceEnd tokens with
  | case1 tokens begins behind found ih =>
    cases tokens with
    | nil => cases begins
    | cons t rest =>
      rw [loops begins, onTo_after, ← ih, onTo, found]
  | case2 tokens begins diagnostic refused =>
    cases tokens with
    | nil => cases begins
    | cons t rest => rw [loops begins, onTo, onTo, refused]
  | case3 tokens other quantifies =>
    cases tokens with
    | nil => cases quantifies
    | cons t rest =>
      have quantifying : t.kind.isQuantifier := quantifies
      rw [onTo_quantifier, ofTokensFrom, Parse.Place.read, if_pos quantifying]
  | case4 tokens other once =>
    -- what ends a run is left for the end of the pattern, also where the run took no quantifier
    have ended : (Descent.mk [] (.ok tokens)).onTo sourceEnd .quantified =
        ofTokensFrom sourceEnd .quantified tokens := rfl
    rw [ended, ofTokensFrom_quantified_of_not_startsAtom other]
    cases tokens with
    | nil => rfl
    | cons t rest =>
      have single : ¬ t.kind.isQuantifier := once
      rw [ofTokensFrom, Parse.Place.read, if_neg single, readElement_of_not_startsAtom true other]
      rfl

theorem ofTokensFrom_first (sourceEnd : Nat) (tokens : List Token) :
    ofTokensFrom sourceEnd .first tokens =
      (atomSuffix sourceEnd tokens).onTo sourceEnd .quantified := by
  rw [atomSuffix, onTo_after]
  split
  · next quantifies =>
    cases tokens with
    | nil => cases quantifies
    | cons t rest =>
      have quantifying : t.kind.isQuantifier := quantifies
      rw [onTo_quantifier, ofTokensFrom, Parse.Place.read, if_pos quantifying]
      rfl
  · next once =>
    rw [onTo_after, ← ofTokensFrom_further]
    cases tokens with
    | nil => rfl
    | cons t rest =>
      have single : ¬ t.kind.isQuantifier := once
      have alike : Parse.Place.first.read t (Token.lookahead rest) =
          (Parse.Place.further.read t (Token.lookahead rest)).after
            [.rule .atomSuffix t.kind, .rule .run t.kind] := by
        rw [Parse.Place.read, Parse.Place.read, if_neg single, if_neg single]
      rw [ofTokensFrom, ofTokensFrom, alike]
      cases Parse.Place.further.read t (Token.lookahead rest) with
      | mk steps next => cases next <;> simp [Parse.Move.after, Parse.after, Token.lookahead]

theorem onTo_atom (sourceEnd : Nat) (tokens : List Token) :
    (atom sourceEnd tokens).onTo sourceEnd .quantified =
      ((element sourceEnd tokens).onTo sourceEnd .first).after
        [.rule .atom (Token.lookahead tokens)] := by
  rw [atom, onTo_after, onTo_followedBy _ (ofTokensFrom_first sourceEnd)]

theorem ofTokensFrom_quantified_of_startsAtom (begins : (Token.lookahead tokens).startsAtom) :
    ofTokensFrom sourceEnd .quantified tokens =
      (atom sourceEnd tokens).onTo sourceEnd .quantified := by
  cases tokens with
  | nil => cases begins
  | cons t rest =>
    have read : Parse.Place.quantified.read t (Token.lookahead rest) =
      (readElement false t (Token.lookahead rest)).after [.rule .atom t.kind] := if_pos begins
    exact (ofTokensFrom_of_read read).trans (onTo_atom sourceEnd (t :: rest)).symm

theorem expectEnd_after (d : Descent) (steps : List Parse.Step) :
    expectEnd (d.after steps) = (expectEnd d).after steps := by
  obtain ⟨own, left⟩ := d
  cases left with
  | ok rest => cases rest <;> rfl
  | error diagnostic => rfl

/-- From one atom to the next, as long as another one begins. -/
theorem onTo_atom_eq_atomLoop (sourceEnd : Nat) (tokens : List Token) :
    (atom sourceEnd tokens).onTo sourceEnd .quantified =
      expectEnd (atomLoop sourceEnd tokens) := by
  fun_induction atomLoop sourceEnd tokens with
  | case1 tokens rest found begins ih =>
    rw [expectEnd_after, ← ih, ← ofTokensFrom_quantified_of_startsAtom begins, onTo, found]
  | case2 tokens rest found ends =>
    rw [onTo, found, expectEnd, found]
    simp only [ofTokensFrom_quantified_of_not_startsAtom ends]
    cases rest <;> simp [expectEnd, Parse.after]
  | case3 tokens diagnostic refused => rw [onTo, expectEnd, refused]

/-- The reader takes the steps of the rules, and stops where they do. -/
theorem ofTokens_eq_expectEnd_pattern (sourceEnd : Nat) (tokens : List Token) :
    Parse.ofTokens sourceEnd tokens = expectEnd (pattern sourceEnd tokens) := by
  rw [pattern, expectEnd_after, ← onTo_atom_eq_atomLoop, onTo_atom, Parse.ofTokens]
  cases tokens with
  | nil => rfl
  | cons t rest =>
    have read : Parse.Place.start.read t (Token.lookahead rest) =
      (readElement false t (Token.lookahead rest)).after
        [.rule .pattern t.kind, .rule .atom t.kind] := rfl
    exact ofTokensFrom_of_read read

end places

end Descent

end PatternGraph
