import Mathlib.Data.List.Chain
import PatternGraph.Automaton
import PatternGraph.Proofs.Construction
import PatternGraph.Proofs.Language
import PatternGraph.Proofs.WalkResult

/-!
# Agreement with the textbook language

A walk takes the first transition that fires and never goes back, and loops and bypass edges are
shared by items that follow one another, so a pattern does not in general match the textbook
language of its items. It does where at most one transition fires and the items do not run into
each other. The invariant of the proof: from state `k` on, the walk accepts the words of the loop
of item `k`, followed by those of the items behind it.
-/
namespace PatternGraph

/-- The sets have no character in common. -/
def SymbolSet.Disjoint (s t : SymbolSet) : Prop := ∀ c ∈ s, c ∉ t

/-- Only the members are asked, not all characters there are. -/
instance (s t : SymbolSet) : Decidable (s.Disjoint t) :=
  List.decidableBAll (· ∉ t) s.members

namespace Graph

/-- No character fires two transitions that leave the same state. -/
def Deterministic (g : Graph) : Prop :=
  ∀ state ∈ g.states, state.transitions.Pairwise fun t u => t.symbols.Disjoint u.symbols

instance (g : Graph) : Decidable g.Deterministic :=
  inferInstanceAs (Decidable (∀ state ∈ g.states, state.transitions.Pairwise _))

theorem find?_firesOn_eq_some_iff {ts : List Transition} {c : Char} {t : Transition}
    (disjoint : ts.Pairwise fun t u => t.symbols.Disjoint u.symbols) :
    ts.find? (·.firesOn c) = some t ↔ t ∈ ts ∧ c ∈ t.symbols := by
  constructor
  · intro found
    have fires := List.find?_some found
    exact ⟨List.mem_of_find?_eq_some found, SymbolSet.contains_iff.1 fires⟩
  · rintro ⟨member, fires⟩
    obtain ⟨before, after, rfl⟩ := List.append_of_mem member
    refine List.find?_eq_some_iff_append.2
      ⟨SymbolSet.contains_iff.2 fires, before, after, rfl, ?_⟩
    intro earlier within
    have apart := (List.pairwise_append.1 disjoint).2.2 earlier within t List.mem_cons_self
    simp only [Transition.firesOn, Bool.not_eq_true', Bool.eq_false_iff, Ne,
      SymbolSet.contains_iff]
    exact fun firesEarlier => apart c firesEarlier fires

/-- In a deterministic graph a step may take any transition that fires, as there is only one. -/
theorem target?_eq_some_iff {g : Graph} (deterministic : g.Deterministic) {id target : StateId}
    {state : State} (held : g.get? id = some state) {c : Char} :
    g.target? id c = some target ↔
      ∃ t ∈ state.transitions, c ∈ t.symbols ∧ t.target = target := by
  have disjoint := deterministic state (Array.mem_of_getElem? held)
  rw [target?, held, Option.bind_some, Option.map_eq_some_iff]
  simp only [State.next?, find?_firesOn_eq_some_iff disjoint, and_assoc]

end Graph

namespace Item

/-- No item under `*` directly follows one under `*` or `+`. Their loops would share a state, as
in `a*b*`, which matches `ba`. -/
def LoopsApart (items : List Item) : Prop :=
  items.IsChain fun i j => j.isStarred → ¬ i.isStarred ∧ ¬ i.isRepeated

/-- Each optional item is the last one, or the next one carries no quantifier. A bypass edge does
not lead around two items, so `a?b?` does not match the empty text. -/
def OptionalsLeadOn (items : List Item) : Prop :=
  items.IsChain fun i j => i.isOptional → j.quantifier = none

instance (items : List Item) : Decidable (LoopsApart items) :=
  inferInstanceAs (Decidable (items.IsChain _))

instance (items : List Item) : Decidable (OptionalsLeadOn items) :=
  inferInstanceAs (Decidable (items.IsChain _))

section remainder
open scoped Computability
variable {items : List Item} {i : Item} {k : Nat} {c : Char} {w : List Char}

/-- The words that lead from state `k` to the end of the pattern. -/
def remainder (items : List Item) (k : Nat) : Language Char :=
  ((ownLoop (numbered items) k).map (·.language∗)).prod * languageOf (behind k items)

theorem remainder_zero (items : List Item) : remainder items 0 = languageOf items := by
  simp [remainder, ownLoop]

theorem languageOf_of_starred (starred : ∀ i ∈ items, i.isStarred) :
    languageOf items = ((items.map (·.symbols)).map (·.language∗)).prod := by
  rw [languageOf, List.map_map]
  refine congrArg List.prod (List.map_congr_left fun i member => ?_)
  have star : i.quantifier = some .star := by simpa [isStarred] using starred i member
  simp [language, star]

/-- All loops of a state stand in front of what leads on from it. -/
theorem remainder_eq_loops (items : List Item) (k : Nat) :
    remainder items k =
      ((loops items k).map (·.language∗)).prod *
        languageOf ((behind k items).dropWhile (·.isStarred)) := by
  have starred : ∀ i ∈ (behind k items).takeWhile (·.isStarred), i.isStarred :=
    fun i member => List.mem_takeWhile_imp member
  calc remainder items k
      = ((ownLoop (numbered items) k).map (·.language∗)).prod *
          languageOf ((behind k items).takeWhile (·.isStarred) ++
            (behind k items).dropWhile (·.isStarred)) := by
        rw [List.takeWhile_append_dropWhile, remainder]
    _ = _ := by
        rw [languageOf_append, languageOf_of_starred starred, ← mul_assoc, ← List.prod_append,
          ← List.map_append, loops, starLoops]

theorem remainder_succ (own : (numbered items)[k]? = some i) :
    remainder items (k + 1) =
      (if i.isRepeated then i.symbols.language∗ else 1) * languageOf (behind (k + 1) items) := by
  cases repeated : i.isRepeated <;> simp [remainder, ownLoop, own, repeated]

/-- Of items kept apart at most one is under `*` before another one comes. -/
theorem length_takeWhile_le_one (apart : LoopsApart items) :
    (items.takeWhile (·.isStarred)).length ≤ 1 := by
  match items, apart with
  | [], _ => simp
  | [i], _ => exact (List.takeWhile_prefix _).length_le
  | i :: j :: rest, apart =>
    have follows := (List.isChain_cons_cons.1 apart).1
    cases first : i.isStarred <;> cases second : j.isStarred <;> simp_all

/-- A state has at most one loop if the items keep loops apart. -/
theorem length_loops_le_one (apart : LoopsApart items) (k : Nat) :
    (loops items k).length ≤ 1 := by
  have starLoop : (starLoops items k).length ≤ 1 := by
    rw [starLoops, List.length_map]
    exact length_takeWhile_le_one (apart.suffix (behind_suffix items k))
  rw [loops, List.length_append]
  cases k with
  | zero => simpa [ownLoop] using starLoop
  | succ k =>
    cases own : (numbered items)[k]? with
    | none => simpa [ownLoop, own] using starLoop
    | some i =>
      cases repeated : i.isRepeated with
      | false => simpa [ownLoop, own, repeated] using starLoop
      | true =>
        -- the item right behind one under `+` is not under `*`
        have tail : (i :: behind (k + 1) items) <:+ items := by
          rw [← dropWhile_behind own]
          exact (List.dropWhile_suffix _).trans (behind_suffix items k)
        have follows := (List.isChain_cons.1 (apart.suffix tail)).1
        have bare : starLoops items (k + 1) = [] := by
          rw [starLoops]
          cases next : behind (k + 1) items with
          | nil => rfl
          | cons j rest =>
            have plain : ¬ j.isStarred := fun starred =>
              (follows j (by simp [next]) starred).2 repeated
            simp [plain]
        simp [ownLoop, own, repeated, bare]

/-- An item that may not be left out takes a character and leads to its own state. -/
theorem cons_mem_languageOf_iff_of_required (own : (numbered items)[k]? = some i)
    (required : i.isOptional = false) :
    c :: w ∈ languageOf (i :: behind (k + 1) items) ↔
      c ∈ i.symbols ∧ w ∈ remainder items (k + 1) := by
  have numbered := isStarred_of_getElem?_numbered own
  rw [languageOf_cons, language, remainder_succ own]
  cases quantifier : i.quantifier with
  | none =>
    have once : i.isRepeated = false := by simp [isRepeated, quantifier]
    simp [once, SymbolSet.cons_mem_language_mul_iff]
  | some q =>
    cases q with
    | star => simp [isStarred, quantifier] at numbered
    | plus =>
      have repeated : i.isRepeated := by simp [isRepeated, quantifier]
      simp [repeated, mul_assoc, SymbolSet.cons_mem_language_mul_iff]
    | question => simp [isOptional, quantifier] at required

/-- An optional item takes a character and leads to its own state, or leaves the word to the items
behind it. -/
theorem cons_mem_languageOf_iff_of_optional (own : (numbered items)[k]? = some i)
    (optional : i.isOptional) :
    c :: w ∈ languageOf (i :: behind (k + 1) items) ↔
      (c ∈ i.symbols ∧ w ∈ remainder items (k + 1)) ∨
        c :: w ∈ languageOf (behind (k + 1) items) := by
  have quantifier : i.quantifier = some .question := by simpa [isOptional] using optional
  have once : i.isRepeated = false := by simp [isRepeated, quantifier]
  have moved : remainder items (k + 1) = languageOf (behind (k + 1) items) := by
    simp [remainder_succ own, once]
  rw [languageOf_cons, language, quantifier, add_mul, one_mul, Language.mem_add,
    SymbolSet.cons_mem_language_mul_iff, moved]

/-- The bypass edge of an optional item leads to the state behind the item after it. -/
theorem bypass_eq_of_plain {j : Item} (own : (numbered items)[k]? = some i)
    (optional : i.isOptional) (next : (numbered items)[k + 1]? = some j)
    (plain : j.quantifier = none) : bypass (numbered items) k = [⟨k + 2, j.symbols⟩] := by
  have first : (later (numbered items) k).head? = some (j, k + 2) := by
    rw [later, List.head?_drop, List.getElem?_zipIdx, next, Nat.add_comm 1]
    rfl
  obtain ⟨rest, list⟩ := List.head?_eq_some_iff.1 first
  simp [bypass, own, optional, list, isRepeated, plain]

/-- Behind an optional item there is nothing, or an item without a quantifier. -/
theorem behind_of_isOptional (leads : OptionalsLeadOn items)
    (own : (numbered items)[k]? = some i) (optional : i.isOptional) :
    behind (k + 1) items = [] ∨
      ∃ j, j.quantifier = none ∧ (numbered items)[k + 1]? = some j ∧
        behind (k + 1) items = j :: behind (k + 2) items := by
  cases next : behind (k + 1) items with
  | nil => exact .inl rfl
  | cons j rest =>
    have tail : (i :: j :: rest) <:+ items := by
      rw [← next, ← dropWhile_behind own]
      exact (List.dropWhile_suffix _).trans (behind_suffix items k)
    have plain := (List.isChain_cons_cons.1 (leads.suffix tail)).1 optional
    have once : j.isStarred = false := by simp [isStarred, plain]
    have ownNext := getElem?_numbered_of_behind next once
    have split := dropWhile_behind ownNext
    rw [next, List.dropWhile_cons_of_neg (by simp [once])] at split
    exact .inr ⟨j, plain, ownNext, split⟩

/-- A word that leaves out an optional item fires the bypass edge. -/
theorem cons_mem_languageOf_behind_iff (leads : OptionalsLeadOn items)
    (own : (numbered items)[k]? = some i) (optional : i.isOptional) :
    c :: w ∈ languageOf (behind (k + 1) items) ↔
      ∃ t ∈ bypass (numbered items) k, c ∈ t.symbols ∧ w ∈ remainder items t.target := by
  rcases behind_of_isOptional leads own optional with last | ⟨j, plain, ownNext, next⟩
  · rw [last, bypass_eq_nil (length_numbered_le_of_behind last)]
    simp
  · have required : j.isOptional = false := by simp [isOptional, plain]
    rw [next, cons_mem_languageOf_iff_of_required ownNext required,
      bypass_eq_of_plain own optional ownNext plain]
    simp

/-- What the first character of a word decides behind the loops of a state: it fires the edge to
the next state or the bypass edge. -/
theorem cons_mem_onward_iff (leads : OptionalsLeadOn items) :
    c :: w ∈ languageOf ((behind k items).dropWhile (·.isStarred)) ↔
      ∃ t ∈ chain (numbered items) k ++ bypass (numbered items) k,
        c ∈ t.symbols ∧ w ∈ remainder items t.target := by
  cases own : (numbered items)[k]? with
  | none =>
    have beyond : (numbered items).length ≤ k := List.getElem?_eq_none_iff.1 own
    rw [dropWhile_behind_eq_nil beyond, chain_eq_nil beyond, bypass_eq_nil (by omega)]
    simp
  | some i =>
    have onward : chain (numbered items) k = [⟨k + 1, i.symbols⟩] := by simp [chain, own]
    rw [dropWhile_behind own, onward]
    cases optional : i.isOptional with
    | false =>
      have direct : bypass (numbered items) k = [] := by simp [bypass, own, optional]
      rw [cons_mem_languageOf_iff_of_required own optional, direct]
      simp
    | true =>
      rw [cons_mem_languageOf_iff_of_optional own optional,
        cons_mem_languageOf_behind_iff leads own optional]
      simp

/-- The empty word leads from a state to the end of the pattern exactly if the state accepts. -/
theorem nil_mem_remainder_iff (leads : OptionalsLeadOn items)
    (within : k ≤ (numbered items).length) : [] ∈ remainder items k ↔ accepts items k := by
  rw [remainder_eq_loops, SymbolSet.nil_mem_loops_mul_iff]
  cases own : (numbered items)[k]? with
  | none =>
    have beyond : (numbered items).length ≤ k := List.getElem?_eq_none_iff.1 own
    rw [dropWhile_behind_eq_nil beyond]
    simp [accepts, Nat.le_antisymm within beyond]
  | some i =>
    rw [accepts_iff_of_numbered own, dropWhile_behind own, languageOf_cons,
      SymbolSet.nil_mem_mul_iff, nil_mem_language_iff, isStarred_of_getElem?_numbered own]
    cases optional : i.isOptional with
    | false => simp
    | true =>
      rcases behind_of_isOptional leads own optional with last | ⟨j, plain, _, next⟩
      · simp [last]
      · have required : [] ∉ j.language := by
          simp [nil_mem_language_iff, isStarred, isOptional, plain]
        simp [next, SymbolSet.nil_mem_mul_iff, required]

/-- The first character of a word leads from a state to the end of the pattern exactly if it fires
a transition and the rest leads on from where that goes. -/
theorem cons_mem_remainder_iff (apart : LoopsApart items) (leads : OptionalsLeadOn items) :
    c :: w ∈ remainder items k ↔
      ∃ t ∈ transitions items k, c ∈ t.symbols ∧ w ∈ remainder items t.target := by
  have looping : (∃ s ∈ loops items k, c ∈ s ∧ w ∈ remainder items k) ↔
      ∃ t ∈ (loops items k).map (Transition.mk k),
        c ∈ t.symbols ∧ w ∈ remainder items t.target := by
    simp
  rw [remainder_eq_loops, SymbolSet.cons_mem_loops_mul_iff (length_loops_le_one apart k),
    ← remainder_eq_loops, cons_mem_onward_iff leads, looping, transitions]
  simp only [List.mem_append, or_and_right, exists_or, or_assoc]

end remainder

/-- Along a deterministic graph of items that do not run into each other, a walk from state `k`
accepts the words that lead from there to the end of the pattern. -/
theorem isSome_matchFrom_iff {items : List Item} (apart : LoopsApart items)
    (leads : OptionalsLeadOn items) (deterministic : (graph items).Deterministic) {k offset : Nat}
    (within : k ≤ (numbered items).length) {text : List Char} :
    ((graph items).matchFrom .whole k offset text).isSome ↔ text ∈ remainder items k := by
  induction text generalizing k offset with
  | nil =>
    rw [nil_mem_remainder_iff leads within, Graph.matchFrom_nil, Graph.accepts, graph_get?,
      if_pos within]
    cases accepts items k <;> simp
  | cons c rest ih =>
    have held : (graph items).get? k = some ⟨transitions items k, accepts items k⟩ := by
      rw [graph_get?, if_pos within]
    rw [Graph.matchFrom_whole_cons, cons_mem_remainder_iff apart leads, Option.isSome_bind,
      Option.any_eq_true]
    constructor
    · rintro ⟨target, moved, found⟩
      obtain ⟨t, member, fires, rfl⟩ := (Graph.target?_eq_some_iff deterministic held).1 moved
      exact ⟨t, member, fires, (ih (target_le_of_mem_transitions within member)).1 found⟩
    · rintro ⟨t, member, fires, leading⟩
      have moved := (Graph.target?_eq_some_iff deterministic held).2 ⟨t, member, fires, rfl⟩
      exact ⟨t.target, moved, (ih (target_le_of_mem_transitions within member)).2 leading⟩

end Item

theorem Automaton.compile_eq_ok_iff {pattern : String} {a : Automaton} :
    Automaton.compile pattern = .ok a ↔
      ∃ g, PatternGraph.compile pattern.toList = .ok g ∧ a = ⟨pattern, g⟩ := by
  rw [Automaton.compile]
  cases PatternGraph.compile pattern.toList with
  | error e => simp [Except.map]
  | ok g => simp [Except.map, eq_comm]

/-- A pattern whose items do not run into each other and whose graph is deterministic matches, as a
whole, exactly the texts of the textbook language of its items. -/
theorem isWholeMatch_iff_mem_languageOf {pattern : String} {a : Automaton}
    (compiled : Automaton.compile pattern = .ok a)
    (apart : Item.LoopsApart (Item.ofText pattern.toList))
    (leads : Item.OptionalsLeadOn (Item.ofText pattern.toList))
    (deterministic : a.graph.Deterministic) (text : String) :
    a.isWholeMatch text ↔ text.toList ∈ Item.languageOf (Item.ofText pattern.toList) := by
  obtain ⟨g, graphed, rfl⟩ := Automaton.compile_eq_ok_iff.1 compiled
  obtain ⟨_, _, _, rfl⟩ := compile_eq_ok_iff.1 graphed
  rw [Automaton.isWholeMatch, Automaton.matchWhole, Graph.run_eq_matchFrom,
    ← Item.remainder_zero]
  exact Item.isSome_matchFrom_iff apart leads deterministic (Nat.zero_le _)

/-- The items of this pattern loop, may be left out and repeat, and two texts that differ in the
optional item decide alike on both sides. -/
theorem isWholeMatch_iff_mem_languageOf_mixed :
    Automaton.compile "a*b?cd+" =
        .ok ⟨"a*b?cd+", Item.graph (Item.ofText "a*b?cd+".toList)⟩ ∧
      Item.LoopsApart (Item.ofText "a*b?cd+".toList) ∧
      Item.OptionalsLeadOn (Item.ofText "a*b?cd+".toList) ∧
      (Item.graph (Item.ofText "a*b?cd+".toList)).Deterministic ∧
      "aacdd".toList ∈ Item.languageOf (Item.ofText "a*b?cd+".toList) ∧
      "abbcd".toList ∉ Item.languageOf (Item.ofText "a*b?cd+".toList) := by
  have compiled : Automaton.compile "a*b?cd+" =
      .ok ⟨"a*b?cd+", Item.graph (Item.ofText "a*b?cd+".toList)⟩ := by decide
  have agreement := isWholeMatch_iff_mem_languageOf compiled (by decide) (by decide) (by decide)
  refine ⟨compiled, by decide, by decide, by decide, (agreement "aacdd").1 (by decide), ?_⟩
  exact fun member => absurd ((agreement "abbcd").2 member) (by decide)

end PatternGraph
