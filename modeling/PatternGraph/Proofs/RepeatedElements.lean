import PatternGraph.Proofs.Elements

/-!
# One or more is one and then any number

An element under `+` gets a state with a loop at once; the same element under no quantifier and
once more under `*` gets a state, and then a loop on it. Where no optional item waits for its bypass
edge, both leave the graph alike: the same transitions in the same order, nothing waiting, and no
optional item at the end. What is built alike so far is built alike whatever follows.
-/
namespace PatternGraph

namespace Item

/-- The graphs of the items so far are the same, and so is all that decides how they grow. -/
structure Alike (xs ys : List Item) : Prop where
  length : (numbered xs).length = (numbered ys).length
  transitions : ∀ k ≤ (numbered xs).length, transitions xs k = transitions ys k
  waiting : ∀ k, waiting (numbered xs) k = waiting (numbered ys) k
  ends : endsOptional xs = endsOptional ys

section alike
variable {xs ys : List Item}

theorem Alike.growth (alike : Alike xs ys) (i : Item) (k : Nat) :
    growth xs i k = growth ys i k := by
  unfold Item.growth
  rw [alike.length, alike.waiting]

theorem Alike.append_singleton (alike : Alike xs ys) (i : Item) :
    Alike (xs ++ [i]) (ys ++ [i]) := by
  have older (k : Nat) (within : k ≤ (numbered xs).length) :
      Item.transitions (xs ++ [i]) k = Item.transitions (ys ++ [i]) k := by
    rw [transitions_concat xs i within, transitions_concat ys i (alike.length ▸ within),
      alike.transitions k within, alike.growth]
  have ends : endsOptional (xs ++ [i]) = endsOptional (ys ++ [i]) := by
    simp [endsOptional]
  cases starred : i.isStarred with
  | true =>
    have numbers := numbered_append_of_starred xs starred
    have numbersOther := numbered_append_of_starred ys starred
    refine ⟨?_, ?_, ?_, ends⟩
    · rw [numbers, numbersOther, alike.length]
    · rw [numbers]
      exact older
    · rw [numbers, numbersOther]
      exact alike.waiting
  | false =>
    have numbers := numbered_append_of_not_starred xs starred
    have numbersOther := numbered_append_of_not_starred ys starred
    refine ⟨?_, ?_, ?_, ends⟩
    · rw [numbers, numbersOther, List.length_append, List.length_append, alike.length]
    · intro k within
      rw [numbers, List.length_append, List.length_singleton] at within
      rcases Nat.lt_or_eq_of_le within with before | rfl
      · exact older k (Nat.le_of_lt_succ before)
      · have new : Item.transitions (ys ++ [i]) ((numbered ys).length + 1) = _ :=
          transitions_append_new starred
        rw [← alike.length] at new
        rw [transitions_append_new starred, new]
    · intro k
      rw [numbers, numbersOther, waiting_append, waiting_append, alike.waiting, alike.length]

theorem Alike.append (alike : Alike xs ys) (more : List Item) :
    Alike (xs ++ more) (ys ++ more) := by
  -- graphs grow at the end of the items, so the induction takes the last item off
  induction more using List.reverseRecOn with
  | nil => simpa using alike
  | append_singleton more i ih =>
    rw [← List.append_assoc, ← List.append_assoc]
    exact ih.append_singleton i

theorem Alike.graph_eq (alike : Alike xs ys) : graph xs = graph ys := by
  refine Graph.ext_get? fun k => ?_
  rw [graph_get?, graph_get?, ← alike.length]
  split
  · next within => rw [alike.transitions k within, accepts, accepts, alike.length, alike.ends]
  · rfl

end alike

section repeated
variable {items : List Item} (symbols : SymbolSet)

/-- Behind settled items, one item under `+` does what one under no quantifier and one under `*`
do. -/
theorem alike_repeated (settled : Settled items) :
    Alike (items ++ [⟨symbols, some .plus⟩])
      (items ++ [⟨symbols, none⟩] ++ [⟨symbols, some .star⟩]) := by
  have idle := waiting_eq_false_of_settled (settled_numbered settled)
  have numbers : numbered (items ++ [⟨symbols, some .plus⟩]) =
      numbered items ++ [⟨symbols, some .plus⟩] := numbered_append_of_not_starred items rfl
  have numbersOnce : numbered (items ++ [⟨symbols, none⟩]) = numbered items ++ [⟨symbols, none⟩] :=
    numbered_append_of_not_starred items rfl
  have numbersTwice : numbered (items ++ [⟨symbols, none⟩] ++ [⟨symbols, some .star⟩]) =
      numbered (items ++ [⟨symbols, none⟩]) := numbered_append_of_starred _ rfl
  refine ⟨?_, ?_, ?_, ?_⟩
  · rw [numbers, numbersTwice, numbersOnce, List.length_append, List.length_append]
    rfl
  · intro k within
    rw [numbers, List.length_append, List.length_singleton] at within
    have inner : k ≤ (numbered (items ++ [⟨symbols, none⟩])).length := by
      rwa [numbersOnce, List.length_append, List.length_singleton]
    rw [transitions_append_of_starred rfl inner, numbersOnce, List.length_append,
      List.length_singleton]
    rcases Nat.lt_or_eq_of_le within with before | rfl
    · have old := Nat.le_of_lt_succ before
      rw [transitions_append_of_not_starred rfl old, transitions_append_of_not_starred rfl old,
        idle]
      simp [Nat.ne_of_lt before]
    · rw [transitions_append_new rfl, transitions_append_new rfl]
      simp [isRepeated]
  · intro k
    rw [numbers, numbersTwice, numbersOnce, waiting_append, waiting_append]
    simp [isRepeated, isOptional, idle]
  · simp [endsOptional, isOptional]

end repeated

end Item

section compile
variable {front text rest : List Char} {symbols : SymbolSet} {g : Graph}

/-- What may follow an element may follow it under a quantifier if it begins with that. -/
theorem accepts_quantified {c : Char} {kind : Token.Kind} (known : Token.Kind.ofChar? c = some kind)
    (quantifying : kind.isQuantifier) (rest : List Char) :
    Grammar.Position.behindElement.accepts (Token.kinds (c :: rest)) =
      Grammar.Position.behindQuantifier.accepts (Token.kinds rest) := by
  rw [Token.kinds_cons known, Grammar.Position.accepts, Grammar.Position.next?, if_pos quantifying]

/-- An element under `+` may be written once plainly and once under `*`, behind a pattern that
leaves no optional item waiting: one text compiles exactly if the other does, and to the same
graph. -/
theorem compile_repeated_iff_starred (complete : Complete front)
    (settled : Item.Settled (Item.ofText front)) (written : Writes text symbols) :
    compile (front ++ text ++ '+' :: rest) = .ok g ↔
      compile (front ++ text ++ text ++ '*' :: rest) = .ok g := by
  have alphabets : (∀ c ∈ '+' :: rest, Token.InAlphabet c) ↔
      ∀ c ∈ text ++ '*' :: rest, Token.InAlphabet c := by
    have plus : Token.InAlphabet '+' := by decide
    have star : Token.InAlphabet '*' := by decide
    rw [List.forall_mem_append, List.forall_mem_cons, List.forall_mem_cons, and_iff_right plus,
      and_iff_right star, and_iff_right written.inAlphabet]
  have accepted : Grammar.Position.behindElement.accepts (Token.kinds ('+' :: rest)) =
      Grammar.Position.behindElement.accepts (Token.kinds (text ++ '*' :: rest)) := by
    rw [Token.kinds_append, Grammar.Position.accepts_append,
      Grammar.Position.reach?_of_writes rfl written, Option.any_some, accepts_quantified rfl rfl,
      accepts_quantified rfl rfl]
  have graphs : Item.graph (Item.ofText front ++
        ⟨symbols, Item.quantifierAhead ('+' :: rest)⟩ :: Item.ofText ('+' :: rest)) =
      Item.graph (Item.ofText front ++
        ⟨symbols, Item.quantifierAhead (text ++ '*' :: rest)⟩ ::
          Item.ofText (text ++ '*' :: rest)) := by
    have same := ((Item.alike_repeated symbols settled).append (Item.ofText rest)).graph_eq
    simp only [List.append_assoc, List.singleton_append] at same
    rw [Item.quantifierAhead_of_writes written, Item.ofText_of_writes written]
    exact same
  rw [List.append_assoc (front ++ text), compile_around_element_iff complete written,
    compile_around_element_iff complete written, alphabets, accepted, graphs]

end compile

/-- The bypass edge of the optional item has been drawn before the class, and the state of the class
has its loop before the edges that lead on. -/
theorem compile_repeated_iff_starred_class :
    let g : Graph := ⟨#[⟨[⟨1, .single 'a'⟩, ⟨2, .single 'b'⟩], false⟩,
      ⟨[⟨2, .single 'b'⟩], false⟩,
      ⟨[⟨3, .ofList ['c', 'd']⟩], false⟩,
      ⟨[⟨3, .ofList ['c', 'd']⟩, ⟨4, .single 'e'⟩, ⟨5, .single 'f'⟩], false⟩,
      ⟨[⟨5, .single 'f'⟩], false⟩,
      ⟨[], true⟩]⟩
    Complete "a?b".toList ∧ Item.Settled (Item.ofText "a?b".toList) ∧
      Writes "[dc]".toList (.ofList ['d', 'c']) ∧
      compile "a?b[dc]+e?f".toList = .ok g ∧ compile "a?b[dc][dc]*e?f".toList = .ok g := by
  intro g
  have complete : Complete "a?b".toList :=
    .inr ⟨Item.graph (Item.ofText "a?b".toList), by decide⟩
  have settled : Item.Settled (Item.ofText "a?b".toList) := by decide
  have written : Writes "[dc]".toList (.ofList ['d', 'c']) :=
    @Writes.charClass ['d', 'c'] (by decide) (List.all_eq_true.1 (by decide))
  have compiled : compile ("a?b".toList ++ "[dc]".toList ++ '+' :: "e?f".toList) = .ok g := by
    decide
  exact ⟨complete, settled, written, compiled,
    (compile_repeated_iff_starred complete settled written).1 compiled⟩

/-! An optional item that waits is passed over by an item under `+`, but not by one under none. -/
example : compile "a?b+".toList ≠ compile "a?bb*".toList := by decide

end PatternGraph
