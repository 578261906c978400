import PatternGraph.Proofs.Acceptance
import PatternGraph.Proofs.Gluing
import PatternGraph.Proofs.Viability

/-!
# Patterns put one behind the other

A pattern behind another one is a pattern again, with the items of both in order: a pattern ends
outside a class, and none begins with a quantifier. If the first pattern leaves no optional item
waiting, the graph of the whole is the first graph glued to the second.
-/
namespace PatternGraph

namespace Grammar.Position
open Token (Kind)

theorem accepts_of_isFinal {p : Position} (final : p.isFinal) {w : List Kind}
    (accepted : begin.accepts w) : p.accepts w := by
  obtain ⟨_, behindElement, behindQuantifier⟩ :=
    recognizes_of_derives (accepts_begin_iff_derives.1 accepted)
  cases p with
  | behindElement => exact behindElement
  | behindQuantifier => exact behindQuantifier
  | begin | behindOpening | behindMember => cases final

/-- A pattern may follow another one. -/
theorem accepts_append_of_accepts {p : Position} {u v : List Kind} (first : p.accepts u)
    (second : begin.accepts v) : p.accepts (u ++ v) := by
  rw [accepts_eq_any_isFinal, Option.any_eq_true] at first
  obtain ⟨q, reached, final⟩ := first
  rw [accepts_append, reached]
  exact accepts_of_isFinal final second

end Grammar.Position

namespace Item

/-- Whatever follows a text without beginning with a quantifier leaves its quantifiers alone. -/
theorem quantifierAhead_append {text more : List Char} (plain : quantifierAhead more = none) :
    quantifierAhead (text ++ more) = quantifierAhead text := by
  cases text with
  | nil => exact plain
  | cons c rest => rfl

/-- No pattern begins with a quantifier. -/
theorem quantifierAhead_eq_none {source : List Char}
    (accepted : Grammar.Position.begin.accepts (Token.kinds source)) :
    quantifierAhead source = none := by
  cases source with
  | nil => rfl
  | cons c rest =>
    unfold quantifierAhead
    rw [List.head?_cons, Option.bind_some]
    cases known : Token.Kind.ofChar? c with
    | none => rfl
    | some kind =>
      rw [Token.kinds_cons known] at accepted
      cases kind with
      | star | plus | question => cases accepted
      | _ => rfl

end Item

namespace Parse

/-- A parse that succeeds from a place on ends outside a class, so the items of what follows are
those that it has by itself. -/
theorem ofTextFrom_append {sourceEnd offset : Nat} {place : Place} {source more : List Char}
    {tokens : List Token} (read : Token.ofSourceFrom offset source = .ok tokens)
    (succeeded : (ofTokensFrom sourceEnd place tokens).failure = none)
    (plain : Item.quantifierAhead more = none) :
    Item.ofTextFrom place.members? (source ++ more) =
      Item.ofTextFrom place.members? source ++ Item.ofTextFrom none more := by
  induction source generalizing offset place tokens with
  | nil =>
    cases read
    cases place <;> cases succeeded <;> rfl
  | cons c rest ih =>
    obtain ⟨kind, following, known, readRest, rfl⟩ := Token.ofSourceFrom_cons_eq_ok_iff.1 read
    have ahead := ofKind?_lookahead readRest
    have aheadMore := ahead.trans (Item.quantifierAhead_append plain).symm
    obtain ⟨next, arrived, _, succeeded⟩ := exists_next_of_failure_eq_none succeeded
    rw [List.cons_append, ofTextFrom_of_read known aheadMore arrived,
      ofTextFrom_of_read known ahead arrived, ih readRest succeeded, List.append_assoc]

end Parse

/-- The items of a pattern and those of what follows, which must not begin with a quantifier. -/
theorem Item.ofText_append {first second : List Char} {g : Graph} (compiled : compile first = .ok g)
    (plain : quantifierAhead second = none) :
    Item.ofText (first ++ second) = Item.ofText first ++ Item.ofText second := by
  obtain ⟨tokens, read, succeeded, _⟩ := compile_eq_ok_iff.1 compiled
  exact Parse.ofTextFrom_append read succeeded plain

/-- Patterns in a row are a pattern, and its items are those of both. -/
theorem compile_append {first second : List Char} {g h : Graph}
    (compiledFirst : compile first = .ok g) (compiledSecond : compile second = .ok h) :
    compile (first ++ second) = .ok (Item.graph (Item.ofText first ++ Item.ofText second)) := by
  obtain ⟨alphabetFirst, acceptedFirst, _⟩ := compile_eq_ok_iff_accepts.1 compiledFirst
  obtain ⟨alphabetSecond, acceptedSecond, _⟩ := compile_eq_ok_iff_accepts.1 compiledSecond
  refine compile_eq_ok_iff_accepts.2 ⟨?_, ?_, ?_⟩
  · exact List.forall_mem_append.2 ⟨alphabetFirst, alphabetSecond⟩
  · rw [Token.kinds_append]
    exact Grammar.Position.accepts_append_of_accepts acceptedFirst acceptedSecond
  · rw [Item.ofText_append compiledFirst (Item.quantifierAhead_eq_none acceptedSecond)]

/-- Compilation respects concatenation: behind a pattern that leaves no optional item waiting,
another pattern adds its graph, with its start state on the last state so far. -/
theorem compile_append_eq_glue {first second : List Char} {g h : Graph}
    (compiledFirst : compile first = .ok g) (compiledSecond : compile second = .ok h)
    (settled : Item.Settled (Item.ofText first)) :
    compile (first ++ second) = .ok (g.glue h) := by
  obtain ⟨_, _, _, rfl⟩ := compile_eq_ok_iff.1 compiledFirst
  obtain ⟨_, _, _, rfl⟩ := compile_eq_ok_iff.1 compiledSecond
  rw [compile_append compiledFirst compiledSecond, Item.graph_append settled]

/-- On the seam, the loop under `*` of the first pattern stands before the edge of the second. -/
theorem compile_append_eq_glue_looping :
    compile "a?bc*".toList = .ok (Item.graph (Item.ofText "a?bc*".toList)) ∧
      compile "d+e?".toList = .ok (Item.graph (Item.ofText "d+e?".toList)) ∧
      Item.Settled (Item.ofText "a?bc*".toList) ∧
      compile "a?bc*d+e?".toList =
        .ok ⟨#[⟨[⟨1, .single 'a'⟩, ⟨2, .single 'b'⟩], false⟩,
          ⟨[⟨2, .single 'b'⟩], false⟩,
          ⟨[⟨2, .single 'c'⟩, ⟨3, .single 'd'⟩], false⟩,
          ⟨[⟨3, .single 'd'⟩, ⟨4, .single 'e'⟩], true⟩,
          ⟨[], true⟩]⟩ := by
  have first : compile "a?bc*".toList = .ok (Item.graph (Item.ofText "a?bc*".toList)) := by decide
  have second : compile "d+e?".toList = .ok (Item.graph (Item.ofText "d+e?".toList)) := by decide
  have settled : Item.Settled (Item.ofText "a?bc*".toList) := by decide
  refine ⟨first, second, settled, ?_⟩
  exact (compile_append_eq_glue first second settled).trans (by decide)

/-! An optional item that waits gets its bypass edge from the second pattern, across the seam. -/
example : compile ("a?".toList ++ "b".toList) ≠
    .ok ((Item.graph (Item.ofText "a?".toList)).glue (Item.graph (Item.ofText "b".toList))) := by
  decide

end PatternGraph
