import PatternGraph.Pattern.Token

/-!
# The grammar of patterns and its recognizer

The grammar derives sequences of token kinds. Its `Run` and its `TailOpt` overlap: an element that
follows another one belongs to the same run or begins an atom of its own. What the grammar derives
is regular all the same: elements, each with at most one quantifier behind it. A recognizer with
five positions reads it from left to right, and accepts exactly what `Pattern` derives.
-/
namespace PatternGraph.Grammar
open Token (Kind)

inductive Nonterminal where
  | pattern | tailOpt | atom | atomSuffix | run
  /-- The group `CHAR | WILDCARD | '[' ListBody ']'` that begins an atom or goes on with a run. -/
  | element
  | quantifier | listBody | listBodyTail
  deriving DecidableEq, Repr

/-- The productions of the grammar. -/
inductive Derives : Nonterminal → List Kind → Prop
  | pattern {u v : List Kind} (atom : Derives .atom u) (tail : Derives .tailOpt v) :
      Derives .pattern (u ++ v)
  | tailPattern {u : List Kind} (pattern : Derives .pattern u) : Derives .tailOpt u
  | tailEmpty : Derives .tailOpt []
  | atom {u v : List Kind} (element : Derives .element u) (suffix : Derives .atomSuffix v) :
      Derives .atom (u ++ v)
  | suffixQuantifier {u : List Kind} (quantifier : Derives .quantifier u) : Derives .atomSuffix u
  | suffixRun {u : List Kind} (run : Derives .run u) : Derives .atomSuffix u
  | runElement {u v : List Kind} (element : Derives .element u) (run : Derives .run v) :
      Derives .run (u ++ v)
  | runQuantifier {u : List Kind} (quantifier : Derives .quantifier u) : Derives .run u
  | runEmpty : Derives .run []
  | char : Derives .element [.char]
  | wildcard : Derives .element [.wildcard]
  | charClass {u : List Kind} (body : Derives .listBody u) :
      Derives .element (.classOpen :: (u ++ [.classClose]))
  | star : Derives .quantifier [.star]
  | plus : Derives .quantifier [.plus]
  | question : Derives .quantifier [.question]
  | listBody {u : List Kind} (tail : Derives .listBodyTail u) : Derives .listBody (.char :: u)
  | listChar {u : List Kind} (tail : Derives .listBodyTail u) : Derives .listBodyTail (.char :: u)
  | listEmpty : Derives .listBodyTail []

/-- Where a reader of token kinds stands, as far as it matters for what may follow. -/
inductive Position where
  | begin | behindElement | behindQuantifier | behindOpening | behindMember
  deriving DecidableEq, Repr

namespace Position

/-- The position behind the first token of an element, where an element begins. -/
def intoElement? : Kind → Option Position
  | .char | .wildcard => some behindElement
  | .classOpen => some behindOpening
  | _ => none

theorem intoElement?_eq_none {k : Kind} (refused : ¬ k.startsAtom) : intoElement? k = none := by
  cases k <;> first | rfl | exact absurd rfl refused

/-- The position behind a token of kind `k`, which is none where the token cannot stand. -/
def next? : Position → Kind → Option Position
  | begin, k | behindQuantifier, k => intoElement? k
  | behindElement, k => if k.isQuantifier then some behindQuantifier else intoElement? k
  | behindOpening, .char | behindMember, .char => some behindMember
  | behindMember, .classClose => some behindElement
  | behindOpening, _ | behindMember, _ => none

/-- A pattern may end here. -/
def isFinal : Position → Bool
  | behindElement | behindQuantifier => true
  | begin | behindOpening | behindMember => false

/-- The kinds complete a pattern from here. -/
def accepts : Position → List Kind → Bool
  | p, [] => p.isFinal
  | p, k :: rest =>
    match p.next? k with
    | some q => q.accepts rest
    | none => false

end Position

/-- What follows an element in a pattern: the rest of its run and further atoms. -/
def FollowsElement (w : List Kind) : Prop :=
  ∃ u v, Derives .run u ∧ Derives .tailOpt v ∧ w = u ++ v

/-- The kinds that complete a pattern from a position, in terms of the grammar. -/
def Completes : Position → List Kind → Prop
  | .begin, w => Derives .pattern w
  | .behindElement, w => FollowsElement w
  | .behindQuantifier, w => Derives .tailOpt w
  | .behindOpening, w =>
    ∃ u v, Derives .listBody u ∧ FollowsElement v ∧ w = u ++ .classClose :: v
  | .behindMember, w =>
    ∃ u v, Derives .listBodyTail u ∧ FollowsElement v ∧ w = u ++ .classClose :: v

theorem followsElement_of_element {x w : List Kind} (element : Derives .element x)
    (follows : FollowsElement w) : FollowsElement (x ++ w) := by
  obtain ⟨u, v, run, tail, rfl⟩ := follows
  exact ⟨x ++ u, v, .runElement element run, tail, (List.append_assoc x u v).symm⟩

theorem followsElement_of_quantifier {x w : List Kind} (quantifier : Derives .quantifier x)
    (tail : Derives .tailOpt w) : FollowsElement (x ++ w) :=
  ⟨x, w, .runQuantifier quantifier, tail, rfl⟩

/-- Where an element begins, the tokens up to its end are that element. -/
theorem exists_element_of_intoElement? {k : Kind} {q : Position} {rest : List Kind}
    (into : Position.intoElement? k = some q) (completes : Completes q rest) :
    ∃ x w, Derives .element x ∧ FollowsElement w ∧ k :: rest = x ++ w := by
  cases k <;> cases into
  case char => exact ⟨[.char], rest, .char, completes, rfl⟩
  case wildcard => exact ⟨[.wildcard], rest, .wildcard, completes, rfl⟩
  case classOpen =>
    obtain ⟨u, v, body, follows, rfl⟩ := completes
    exact ⟨.classOpen :: (u ++ [.classClose]), v, .charClass body, follows, by simp⟩

theorem derives_pattern_of_intoElement? {k : Kind} {q : Position} {rest : List Kind}
    (into : Position.intoElement? k = some q) (completes : Completes q rest) :
    Derives .pattern (k :: rest) := by
  obtain ⟨x, _, element, ⟨u, v, run, tail, rfl⟩, split⟩ :=
    exists_element_of_intoElement? into completes
  rw [split, ← List.append_assoc]
  exact .pattern (.atom element (.suffixRun run)) tail

/-- A step of the recognizer is licensed by the grammar. -/
theorem completes_cons {p q : Position} {k : Kind} {rest : List Kind}
    (step : p.next? k = some q) (completes : Completes q rest) : Completes p (k :: rest) := by
  cases p with
  | begin => exact derives_pattern_of_intoElement? step completes
  | behindQuantifier => exact .tailPattern (derives_pattern_of_intoElement? step completes)
  | behindElement =>
    simp only [Position.next?] at step
    split at step
    · next quantifying =>
      cases step
      cases k with
      | star => exact followsElement_of_quantifier .star completes
      | plus => exact followsElement_of_quantifier .plus completes
      | question => exact followsElement_of_quantifier .question completes
      | _ => cases quantifying
    · obtain ⟨x, w, element, follows, split⟩ := exists_element_of_intoElement? step completes
      rw [split]
      exact followsElement_of_element element follows
  | behindOpening =>
    cases k <;> cases step
    obtain ⟨u, v, tail, follows, rfl⟩ := completes
    exact ⟨.char :: u, v, .listBody tail, follows, rfl⟩
  | behindMember =>
    cases k with
    | char =>
      cases step
      obtain ⟨u, v, tail, follows, rfl⟩ := completes
      exact ⟨.char :: u, v, .listChar tail, follows, rfl⟩
    | classClose =>
      cases step
      exact ⟨[], rest, .listEmpty, completes, rfl⟩
    | _ => cases step

/-- Soundness of the recognizer, from any position. -/
theorem completes_of_accepts {p : Position} {w : List Kind} (accepted : p.accepts w) :
    Completes p w := by
  induction w generalizing p with
  | nil =>
    cases p with
    | behindElement => exact ⟨[], [], .runEmpty, .tailEmpty, rfl⟩
    | behindQuantifier => exact .tailEmpty
    | begin | behindOpening | behindMember => cases accepted
  | cons k rest ih =>
    simp only [Position.accepts] at accepted
    split at accepted
    · next q step => exact completes_cons step (ih accepted)
    · cases accepted

/-- The kinds may follow an element as well as a quantifier. -/
def Continues (w : List Kind) : Prop :=
  Position.behindElement.accepts w ∧ Position.behindQuantifier.accepts w

/-- What the recognizer makes of the sequences of a nonterminal, whatever acceptable sequence `v`
follows them. -/
def Recognizes : Nonterminal → List Kind → Prop
  | .pattern, w => Position.begin.accepts w ∧ Continues w
  | .tailOpt, w => Continues w
  | .atom, w => ∀ v, Continues v → Position.begin.accepts (w ++ v) ∧ Continues (w ++ v)
  | .atomSuffix, w | .run, w => ∀ v, Continues v → Position.behindElement.accepts (w ++ v)
  | .element, w =>
    ∀ v, Position.behindElement.accepts v → Position.begin.accepts (w ++ v) ∧ Continues (w ++ v)
  | .quantifier, w =>
    ∀ v, Position.behindQuantifier.accepts v → Position.behindElement.accepts (w ++ v)
  | .listBody, w =>
    ∀ v, Position.behindElement.accepts v →
      Position.behindOpening.accepts (w ++ .classClose :: v)
  | .listBodyTail, w =>
    ∀ v, Position.behindElement.accepts v →
      Position.behindMember.accepts (w ++ .classClose :: v)

/-- Completeness of the recognizer, for every nonterminal. -/
theorem recognizes_of_derives {n : Nonterminal} {w : List Kind} (derivation : Derives n w) :
    Recognizes n w := by
  induction derivation with
  | pattern _ _ atom tail => exact atom _ tail
  | tailPattern _ pattern => exact pattern.2
  | tailEmpty => exact ⟨rfl, rfl⟩
  | atom _ _ element suffix =>
    intro v continues
    rw [List.append_assoc]
    exact element _ (suffix v continues)
  | suffixQuantifier _ quantifier => exact fun v continues => quantifier v continues.2
  | suffixRun _ run => exact run
  | runElement _ _ element run =>
    intro v continues
    rw [List.append_assoc]
    exact (element _ (run v continues)).2.1
  | runQuantifier _ quantifier => exact fun v continues => quantifier v continues.2
  | runEmpty => exact fun v continues => continues.1
  | char | wildcard => exact fun v accepted => ⟨accepted, accepted, accepted⟩
  | charClass _ body =>
    intro v accepted
    have inside := body v accepted
    rw [List.cons_append, List.append_assoc]
    exact ⟨inside, inside, inside⟩
  | star | plus | question => exact fun v accepted => accepted
  | listBody _ tail | listChar _ tail => exact tail
  | listEmpty => exact fun v accepted => accepted

/-- The recognizer accepts exactly what the grammar derives. -/
theorem accepts_begin_iff_derives {w : List Kind} :
    Position.begin.accepts w ↔ Derives .pattern w :=
  ⟨completes_of_accepts, fun derivation => (recognizes_of_derives derivation).1⟩

end PatternGraph.Grammar
