import PatternGraph.Proofs.Elements
import PatternGraph.Proofs.TextbookAgreement

/-!
# Leading walks and a loop at the end

A leading walk stops at the first accepting state that it enters, so transitions that leave
accepting states are of no use to it. An element under `*` at the end of a pattern adds a loop to
the last state, which accepts, and no other state ceases to accept unless the last item was
optional. So a leading walk finds the same with the element and without it.
-/
namespace PatternGraph

namespace Graph
variable {g h : Graph}

/-- Graphs with the same accepting states, from whose other states each character leads to the same
state. -/
structure AgreesUpToAcceptance (g h : Graph) : Prop where
  accepts : ∀ id, g.accepts id = h.accepts id
  target? : ∀ id, g.accepts id = false → ∀ c, g.target? id c = h.target? id c

theorem AgreesUpToAcceptance.matchFrom_leading (agrees : g.AgreesUpToAcceptance h) (id : StateId)
    (offset : Nat) (text : List Char) :
    g.matchFrom .leading id offset text = h.matchFrom .leading id offset text := by
  induction text generalizing id offset with
  | nil => rw [matchFrom_nil, matchFrom_nil, agrees.accepts]
  | cons c rest ih =>
    rw [matchFrom_leading_cons, matchFrom_leading_cons, ← agrees.accepts]
    cases accepting : g.accepts id with
    -- the walk ends here, before any transition is looked at
    | true => rfl
    | false =>
      rw [← agrees.target? id accepting c]
      simp only [ih]

end Graph

namespace Item
variable {items : List Item} {i : Item} {id : StateId}

theorem accepts_append_of_starred (starred : i.isStarred) (required : endsOptional items = false) :
    accepts (items ++ [i]) id = accepts items id := by
  have ends : endsOptional (items ++ [i]) = false := by
    simp [endsOptional, isOptional_eq_false_of_isStarred starred]
  rw [accepts, accepts, numbered_append_of_starred items starred, ends, required]

/-- An item under `*` at the end changes the last state only, unless it takes the end from an
optional one. -/
theorem get?_graph_append_of_starred (starred : i.isStarred)
    (required : endsOptional items = false) (inner : id ≠ (numbered items).length) :
    (graph (items ++ [i])).get? id = (graph items).get? id := by
  rw [graph_get?, graph_get?, numbered_append_of_starred items starred]
  split
  · next within =>
    rw [transitions_append_of_starred starred within, if_neg inner, List.append_nil,
      accepts_append_of_starred starred required]
  · rfl

theorem accepts_last (items : List Item) :
    (graph items).accepts (numbered items).length = true := by
  rw [accepts_graph (Nat.le_refl _)]
  exact accepts_length items

/-- The state that gets the loop accepts, with it and without it. -/
theorem agreesUpToAcceptance_append (starred : i.isStarred)
    (required : endsOptional items = false) :
    (graph (items ++ [i])).AgreesUpToAcceptance (graph items) := by
  have looping := accepts_last (items ++ [i])
  rw [numbered_append_of_starred items starred] at looping
  constructor
  · intro id
    by_cases last : id = (numbered items).length
    · rw [last, looping, accepts_last]
    · rw [Graph.accepts, Graph.accepts, get?_graph_append_of_starred starred required last]
  · intro id rejecting c
    have inner : id ≠ (numbered items).length := by
      rintro rfl
      rw [looping] at rejecting
      cases rejecting
    rw [Graph.target?, Graph.target?, get?_graph_append_of_starred starred required inner]

end Item

/-- A leading match of a pattern that does not end in an optional item stays the same when an
element under `*` is added at the end. -/
theorem matchLeading_ignores_trailing_loop {pattern element : String} {a : Automaton}
    {symbols : SymbolSet} (compiled : Automaton.compile pattern = .ok a)
    (required : ∀ i ∈ (Item.ofText pattern.toList).getLast?, i.quantifier ≠ some .question)
    (written : Writes element.toList symbols) :
    ∃ b, Automaton.compile (pattern ++ element ++ "*") = .ok b ∧
      ∀ text, b.matchLeading text = a.matchLeading text := by
  obtain ⟨g, graphed, rfl⟩ := Automaton.compile_eq_ok_iff.1 compiled
  obtain rfl := compiled_graph_eq_graph_of_items graphed
  have ends : Item.endsOptional (Item.ofText pattern.toList) = false := by
    rw [Item.endsOptional, Option.any_eq_false]
    intro i last
    simpa [Item.isOptional] using required i last
  have extended : PatternGraph.compile (pattern ++ element ++ "*").toList =
      .ok (Item.graph (Item.ofText pattern.toList ++ [⟨symbols, some .star⟩])) := by
    rw [String.toList_append, String.toList_append]
    exact (compile_around_element_iff (.inr ⟨_, graphed⟩) written).2
      ⟨List.forall_mem_singleton.2 (by decide), by decide, rfl⟩
  refine ⟨⟨_, Item.graph (Item.ofText pattern.toList ++ [⟨symbols, some .star⟩])⟩,
    Automaton.compile_eq_ok_iff.2 ⟨_, extended, rfl⟩, fun text => ?_⟩
  have agrees := Item.agreesUpToAcceptance_append (i := ⟨symbols, some .star⟩) rfl ends
  exact agrees.matchFrom_leading Graph.start 0 text.toList

/-- The loop has a character of the class in front of it, and the walk stops before it could take
that. -/
theorem matchLeading_ignores_trailing_loop_overlapping :
    ∃ a b, Automaton.compile "a?b+[bc]" = .ok a ∧
      (∀ i ∈ (Item.ofText "a?b+[bc]".toList).getLast?, i.quantifier ≠ some .question) ∧
      Writes "[cd]".toList (.ofList ['c', 'd']) ∧
      Automaton.compile "a?b+[bc][cd]*" = .ok b ∧
      (∀ text, b.matchLeading text = a.matchLeading text) ∧
      a.matchLeading "abccd" = some ⟨3, 3⟩ := by
  have compiled : Automaton.compile "a?b+[bc]" =
      .ok ⟨"a?b+[bc]", Item.graph (Item.ofText "a?b+[bc]".toList)⟩ := by decide
  have required : ∀ i ∈ (Item.ofText "a?b+[bc]".toList).getLast?,
      i.quantifier ≠ some .question := by decide
  have written : Writes "[cd]".toList (.ofList ['c', 'd']) :=
    @Writes.charClass ['c', 'd'] (by decide) (List.all_eq_true.1 (by decide))
  obtain ⟨b, extended, same⟩ := matchLeading_ignores_trailing_loop compiled required written
  exact ⟨_, b, compiled, required, written, extended, same, by decide⟩

/-! Behind an optional item at the end, the element takes away the state before it. -/
example : (Automaton.compile "a?b*").map (·.matchLeading "") ≠
    (Automaton.compile "a?").map (·.matchLeading "") := by decide

end PatternGraph
