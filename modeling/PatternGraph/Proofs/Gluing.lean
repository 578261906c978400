import Mathlib.Data.List.Induction
import PatternGraph.Proofs.ClosedForm

/-!
# Gluing graphs

Two graphs are glued by laying the start state of the second over the last state of the first. The
graph of items followed by further items is the graph of the former glued to that of the latter,
as long as the former leave no optional item waiting for its bypass edge: that edge would lead
across the seam.
-/
namespace PatternGraph

/-- The transition with its target moved up by `d` states. -/
def Transition.shift (d : Nat) (t : Transition) : Transition := { t with target := t.target + d }

namespace Graph

def transitionsOf (g : Graph) (id : StateId) : List Transition :=
  ((g.get? id).map (·.transitions)).getD []

/-- State `k` of two glued graphs. Only states of the second graph accept. -/
def gluedState (g h : Graph) (k : StateId) : State :=
  let d := g.size - 1
  if k < d then ⟨g.transitionsOf k, false⟩
  else if k = d then
    ⟨g.transitionsOf d ++ (h.transitionsOf start).map (·.shift d), h.accepts start⟩
  else ⟨(h.transitionsOf (k - d)).map (·.shift d), h.accepts (k - d)⟩

/-- The graph `g` with the start state of `h` on its last state. -/
def glue (g h : Graph) : Graph where
  states := Array.ofFn fun k : Fin (g.size - 1 + h.size) => g.gluedState h k

theorem glue_get? (g h : Graph) (k : StateId) :
    (g.glue h).get? k = if k < g.size - 1 + h.size then some (g.gluedState h k) else none := by
  simp only [glue, get?, Array.getElem?_ofFn]
  split <;> rfl

end Graph

namespace Item
variable {xs ys ns ms : List Item} {i : Item} {j k : Nat}

/-- A text takes one character for the item, or may leave it out: such an item ends the bypass
edge of an optional one. -/
def isSingle (i : Item) : Bool := i.quantifier = none || i.isOptional

/-- No optional item waits for its bypass edge: of the items under no quantifier or under `?` there
is none, or the last one is under no quantifier. -/
def Settled (items : List Item) : Prop :=
  ∀ i ∈ (items.filter (·.isSingle)).getLast?, i.quantifier = none

instance (items : List Item) : Decidable (Settled items) :=
  inferInstanceAs (Decidable (∀ i ∈ _, _))

theorem not_settled_of_trailing {front rest : List Item} (optional : i.isOptional)
    (passed : ∀ j ∈ rest, j.isSingle = false) : ¬ Settled (front ++ i :: rest) := by
  intro settled
  have single : i.isSingle := by simp [isSingle, optional]
  have none : rest.filter (·.isSingle) = [] :=
    List.filter_eq_nil_iff.2 fun j member => by simp [passed j member]
  have plain := settled i (by simp [single, none])
  simp [isOptional, plain] at optional

theorem settled_numbered (settled : Settled xs) : Settled (numbered xs) := by
  have same : (numbered xs).filter (·.isSingle) = xs.filter (·.isSingle) := by
    rw [numbered, List.filter_filter]
    refine List.filter_congr fun i _ => ?_
    cases quantifier : i.quantifier with
    | none => simp [isSingle, isStarred, quantifier]
    | some q => cases q <;> simp [isSingle, isStarred, isOptional, quantifier]
  rwa [Settled, same]

theorem waiting_eq_false_of_settled (settled : Settled ns) (k : Nat) : waiting ns k = false := by
  rw [← Bool.not_eq_true]
  intro waits
  rw [waiting, Bool.and_eq_true, Option.any_eq_true] at waits
  obtain ⟨⟨i, own, optional⟩, repeated⟩ := waits
  have passed : ∀ j ∈ ns.drop (k + 1), j.isSingle = false := by
    intro j member
    have loops := List.all_eq_true.1 repeated j member
    simp_all [isSingle, isRepeated, isOptional]
  obtain ⟨within, rfl⟩ := List.getElem?_eq_some_iff.1 own
  have split : ns.take k ++ ns[k] :: ns.drop (k + 1) = ns := by
    rw [← List.drop_eq_getElem_cons within, List.take_append_drop]
  have unsettled : ¬ Settled (ns.take k ++ ns[k] :: ns.drop (k + 1)) :=
    not_settled_of_trailing optional passed
  rw [split] at unsettled
  exact unsettled settled

theorem endsOptional_eq_false_of_settled (settled : Settled xs) : endsOptional xs = false := by
  rw [← Bool.not_eq_true]
  intro ends
  obtain ⟨i, last, optional⟩ := (Option.any_eq_true ..).1 ends
  obtain ⟨front, rfl⟩ := List.getLast?_eq_some_iff.1 last
  exact not_settled_of_trailing optional (by simp) settled

theorem numbered_append (xs ys : List Item) :
    numbered (xs ++ ys) = numbered xs ++ numbered ys :=
  List.filter_append xs ys

theorem length_numbered_append (xs ys : List Item) :
    (numbered (xs ++ ys)).length = (numbered xs).length + (numbered ys).length := by
  rw [numbered_append, List.length_append]

/-! What waits, leads on and accepts in front of the seam and behind it. -/

theorem waiting_append_left (settled : Settled ns) (before : k < ns.length) :
    waiting (ns ++ ms) k = false := by
  have none := waiting_eq_false_of_settled settled k
  unfold waiting at none ⊢
  rw [List.getElem?_append_left before, List.drop_append_of_le_length (by omega), List.all_append,
    ← Bool.and_assoc, none, Bool.false_and]

theorem waiting_append_right (ns ms : List Item) (j : Nat) :
    waiting (ns ++ ms) (ns.length + j) = waiting ms j := by
  have past : ns.length + j + 1 = ns.length + (j + 1) := by omega
  unfold waiting
  rw [List.getElem?_append_right (by omega), Nat.add_sub_cancel_left, past,
    List.drop_length_add_append]

/-- The transitions that a state gets when an item is appended. -/
def growth (items : List Item) (i : Item) (k : Nat) : List Transition :=
  if i.isStarred then if k = (numbered items).length then [⟨k, i.symbols⟩] else []
  else
    (if waiting (numbered items) k && !i.isRepeated then
      [⟨(numbered items).length + 1, i.symbols⟩]
    else []) ++
    if k = (numbered items).length then [⟨k + 1, i.symbols⟩] else []

theorem transitions_concat (items : List Item) (i : Item)
    (within : k ≤ (numbered items).length) :
    transitions (items ++ [i]) k = transitions items k ++ growth items i k := by
  unfold growth
  cases starred : i.isStarred with
  | true =>
    rw [transitions_append_of_starred starred within]
    simp
  | false =>
    rw [transitions_append_of_not_starred starred within]
    simp

theorem growth_append_left (settled : Settled xs) (before : k < (numbered xs).length) :
    growth (xs ++ ys) i k = [] := by
  have size := length_numbered_append xs ys
  have inner : k ≠ (numbered (xs ++ ys)).length := by omega
  have none : waiting (numbered (xs ++ ys)) k = false := by
    rw [numbered_append]
    exact waiting_append_left (settled_numbered settled) before
  simp [growth, inner, none]

theorem growth_append_right (xs ys : List Item) (i : Item) (j : Nat) :
    growth (xs ++ ys) i ((numbered xs).length + j) =
      (growth ys i j).map (·.shift (numbered xs).length) := by
  have size := length_numbered_append xs ys
  have last : (numbered xs).length + j = (numbered (xs ++ ys)).length ↔
      j = (numbered ys).length := by omega
  have waits : waiting (numbered (xs ++ ys)) ((numbered xs).length + j) =
      waiting (numbered ys) j := by
    rw [numbered_append]
    exact waiting_append_right (numbered xs) (numbered ys) j
  have fresh : (numbered (xs ++ ys)).length + 1 =
      (numbered ys).length + 1 + (numbered xs).length := by omega
  have onward : (numbered xs).length + j + 1 = j + 1 + (numbered xs).length := by omega
  simp only [growth, waits, last, fresh]
  split
  · split <;> simp [Transition.shift, Nat.add_comm]
  · rw [List.map_append]
    congr 1
    · split <;> simp [Transition.shift]
    · split <;> simp [Transition.shift, onward]

/-- The states in front of the seam lead where they led before. -/
theorem transitions_append_left (settled : Settled xs) (before : k < (numbered xs).length) :
    transitions (xs ++ ys) k = transitions xs k := by
  induction ys using List.reverseRecOn with
  | nil => rw [List.append_nil]
  | append_singleton ys i ih =>
    have size := length_numbered_append xs ys
    rw [← List.append_assoc, transitions_concat (xs ++ ys) i (by omega), ih,
      growth_append_left settled before, List.append_nil]

/-- The states behind the seam lead where they led before, but as many states further up as there
are in front of it. The state on the seam first leads where the last state led. -/
theorem transitions_append_right (xs : List Item) (within : j ≤ (numbered ys).length) :
    transitions (xs ++ ys) ((numbered xs).length + j) =
      (if j = 0 then transitions xs (numbered xs).length else []) ++
        (transitions ys j).map (·.shift (numbered xs).length) := by
  induction ys using List.reverseRecOn with
  | nil =>
    obtain rfl : j = 0 := Nat.le_zero.1 within
    simp [transitions, loops, ownLoop, starLoops, chain, bypass, numbered]
  | append_singleton ys i ih =>
    have size := length_numbered_append xs ys
    rw [← List.append_assoc]
    by_cases inside : j ≤ (numbered ys).length
    · rw [transitions_concat (xs ++ ys) i (by omega), ih inside, transitions_concat ys i inside,
        growth_append_right, List.map_append, List.append_assoc]
    · -- the state of the new item
      have own : i.isStarred = false := by
        rw [← Bool.not_eq_true]
        intro starred
        rw [numbered_append_of_starred ys starred] at within
        exact inside within
      rw [numbered_append_of_not_starred ys own, List.length_append,
        List.length_singleton] at within
      obtain rfl : j = (numbered ys).length + 1 := by omega
      have new : transitions (xs ++ ys ++ [i]) ((numbered (xs ++ ys)).length + 1) = _ :=
        transitions_append_new own
      rw [size] at new
      rw [← Nat.add_assoc, new, transitions_append_new own]
      cases i.isRepeated <;> simp [Transition.shift, Nat.add_comm, Nat.add_left_comm]

theorem accepts_append_left (settled : Settled xs) (before : k < (numbered xs).length) :
    accepts (xs ++ ys) k = false := by
  have size := length_numbered_append xs ys
  have beyond : k ≠ (numbered (xs ++ ys)).length := by omega
  have required : ¬ (k + 1 = (numbered (xs ++ ys)).length ∧ endsOptional (xs ++ ys)) := by
    rintro ⟨last, ends⟩
    have starred : numbered ys = [] := List.eq_nil_of_length_eq_zero (by omega)
    cases final : ys.getLast? with
    | none =>
      obtain rfl := List.getLast?_eq_none_iff.1 final
      rw [List.append_nil, endsOptional_eq_false_of_settled settled] at ends
      cases ends
    | some i =>
      have loops := List.filter_eq_nil_iff.1 starred i (List.mem_of_getLast? final)
      rw [endsOptional, List.getLast?_append, final] at ends
      simp [isStarred_eq_false_of_isOptional ends] at loops
  simpa [accepts, beyond] using required

theorem accepts_append_right (xs ys : List Item) (j : Nat) :
    accepts (xs ++ ys) ((numbered xs).length + j) = accepts ys j := by
  have ends (last : j + 1 = (numbered ys).length) : endsOptional (xs ++ ys) = endsOptional ys := by
    cases final : ys.getLast? with
    | none =>
      obtain rfl := List.getLast?_eq_none_iff.1 final
      cases last
    | some i => simp [endsOptional, final]
  have size := length_numbered_append xs ys
  by_cases last : j + 1 = (numbered ys).length
  · simp [accepts, size, last, ends last, Nat.add_assoc]
  · simp [accepts, size, last, Nat.add_assoc]

theorem transitionsOf_graph (within : k ≤ (numbered xs).length) :
    (graph xs).transitionsOf k = transitions xs k := by
  rw [Graph.transitionsOf, graph_get?, if_pos within]
  rfl

theorem gluedState_graph (settled : Settled xs)
    (within : k ≤ (numbered (xs ++ ys)).length) :
    (graph xs).gluedState (graph ys) k =
      ⟨transitions (xs ++ ys) k, accepts (xs ++ ys) k⟩ := by
  have size := length_numbered_append xs ys
  have seam : (graph xs).size - 1 = (numbered xs).length := by simp
  simp only [Graph.gluedState, seam]
  rcases Nat.lt_trichotomy k (numbered xs).length with before | rfl | behind
  · rw [if_pos before, transitionsOf_graph (Nat.le_of_lt before),
      transitions_append_left settled before, accepts_append_left settled before]
  · have leads := transitions_append_right xs (Nat.zero_le (numbered ys).length)
    have accepting := accepts_append_right xs ys 0
    rw [Nat.add_zero, if_pos rfl] at leads
    rw [Nat.add_zero] at accepting
    rw [if_neg (Nat.lt_irrefl _), if_pos rfl, leads, accepting, Graph.start,
      transitionsOf_graph (Nat.le_refl _), transitionsOf_graph (Nat.zero_le _),
      accepts_graph (Nat.zero_le _)]
  · obtain ⟨j, rfl⟩ := Nat.exists_eq_add_of_lt behind
    have inside : j + 1 ≤ (numbered ys).length := by omega
    have leads := transitions_append_right xs inside
    rw [if_neg (Nat.succ_ne_zero j), List.nil_append] at leads
    have past : ¬ (numbered xs).length + j + 1 < (numbered xs).length := by omega
    have beyond : (numbered xs).length + j + 1 ≠ (numbered xs).length := by omega
    rw [if_neg past, if_neg beyond, Nat.add_assoc, Nat.add_sub_cancel_left, leads,
      accepts_append_right, transitionsOf_graph inside, accepts_graph inside]

/-- The graph of items behind settled ones is glued to the graph of these. -/
theorem graph_append (settled : Settled xs) (ys : List Item) :
    graph (xs ++ ys) = (graph xs).glue (graph ys) := by
  refine Graph.ext_get? fun k => ?_
  have count : (graph xs).size - 1 + (graph ys).size = (numbered (xs ++ ys)).length + 1 := by
    rw [size_graph, size_graph, length_numbered_append]
    omega
  rw [graph_get?, Graph.glue_get?, count, if_congr Nat.lt_succ_iff rfl rfl]
  split
  · next within => rw [gluedState_graph settled within]
  · rfl

end Item

end PatternGraph
