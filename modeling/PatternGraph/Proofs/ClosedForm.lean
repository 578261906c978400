import Mathlib.Data.List.TakeWhile
import PatternGraph.Proofs.Items
import PatternGraph.Proofs.WalkResult

/-!
# The graph of a list of items in closed form

Each item but those under `*` has a state of its own, so the states are numbered like these items,
behind the start state 0. The transitions of state `k` are, in order: the loop of item `k` if that
is under `+`, a loop for each item under `*` between items `k` and `k + 1`, the edge to state
`k + 1`, and, if item `k + 1` is optional, an edge to the first later state whose item is not
under `+`. The main statements say how these transitions grow as an item is appended.
-/
namespace PatternGraph.Item

/-- The items with a state of their own; item `k + 1` of them is `(numbered items)[k]?`. -/
def numbered (items : List Item) : List Item := items.filter fun i => !i.isStarred

/-- The items behind numbered item `k`, or all items for `k = 0`. -/
def behind : Nat → List Item → List Item
  | 0, items => items
  | _ + 1, [] => []
  | k + 1, i :: rest => if i.isStarred then behind (k + 1) rest else behind k rest

/-- The loop of numbered item `k` on its own state. -/
def ownLoop (ns : List Item) : Nat → List SymbolSet
  | 0 => []
  | k + 1 =>
    match ns[k]? with
    | some i => if i.isRepeated then [i.symbols] else []
    | none => []

/-- The loops of the items under `*` that stand between the numbered items `k` and `k + 1`. -/
def starLoops (items : List Item) (k : Nat) : List SymbolSet :=
  ((behind k items).takeWhile (·.isStarred)).map (·.symbols)

/-- The edge to the next state. -/
def chain (ns : List Item) (k : Nat) : List Transition :=
  match ns[k]? with
  | some i => [⟨k + 1, i.symbols⟩]
  | none => []

/-- The numbered items behind item `k + 1`, each with its number. -/
def later (ns : List Item) (k : Nat) : List (Item × Nat) := (ns.zipIdx 1).drop (k + 1)

/-- The edge that leaves out item `k + 1`, if that is optional. -/
def bypass (ns : List Item) (k : Nat) : List Transition :=
  if ns[k]?.any (·.isOptional) then
    match (later ns k).find? fun p => !p.1.isRepeated with
    | some (i, l) => [⟨l, i.symbols⟩]
    | none => []
  else []

/-- The sets of the loops on state `k`. -/
def loops (items : List Item) (k : Nat) : List SymbolSet :=
  ownLoop (numbered items) k ++ starLoops items k

def transitions (items : List Item) (k : Nat) : List Transition :=
  (loops items k).map (⟨k, ·⟩) ++ chain (numbered items) k ++ bypass (numbered items) k

/-- The last item may be left out. -/
def endsOptional (items : List Item) : Bool := items.getLast?.any (·.isOptional)

def accepts (items : List Item) (k : Nat) : Bool :=
  k = (numbered items).length || (k + 1 = (numbered items).length && endsOptional items)

/-- The graph of a list of items. -/
def graph (items : List Item) : Graph where
  states := Array.ofFn fun k : Fin ((numbered items).length + 1) =>
    ⟨transitions items k, accepts items k⟩

theorem graph_get? (items : List Item) (k : StateId) :
    (graph items).get? k =
      if k ≤ (numbered items).length then some ⟨transitions items k, accepts items k⟩
      else none := by
  simp only [graph, Graph.get?, Array.getElem?_ofFn, Nat.lt_succ_iff]
  split <;> rfl

@[simp] theorem size_graph (items : List Item) :
    (graph items).size = (numbered items).length + 1 := by
  simp [graph, Graph.size]

theorem accepts_graph {items : List Item} {k : StateId} (within : k ≤ (numbered items).length) :
    (graph items).accepts k = accepts items k := by
  rw [Graph.accepts, graph_get?, if_pos within]
  rfl

/-- Item `k + 1` is optional and no later item but those under `+` has a state. -/
def waiting (ns : List Item) (k : Nat) : Bool :=
  ns[k]?.any (·.isOptional) && (ns.drop (k + 1)).all (·.isRepeated)

section numbering
variable {items : List Item} {i : Item} {k : Nat}

theorem numbered_append_of_starred (items : List Item) (starred : i.isStarred) :
    numbered (items ++ [i]) = numbered items := by
  simp [numbered, starred]

theorem numbered_append_of_not_starred (items : List Item) (own : i.isStarred = false) :
    numbered (items ++ [i]) = numbered items ++ [i] := by
  simp [numbered, own]

@[simp] theorem behind_zero (items : List Item) : behind 0 items = items := by
  cases items <;> rfl

theorem numbered_behind (items : List Item) (k : Nat) :
    numbered (behind k items) = (numbered items).drop k := by
  induction items generalizing k with
  | nil => cases k <;> rfl
  | cons i rest ih =>
    cases k with
    | zero => rfl
    | succ k =>
      rw [behind]
      cases starred : i.isStarred with
      | true => simpa [numbered, starred] using ih (k + 1)
      | false => simpa [numbered, starred] using ih k

theorem behind_append (within : k ≤ (numbered items).length) (more : List Item) :
    behind k (items ++ more) = behind k items ++ more := by
  induction items generalizing k with
  | nil =>
    obtain rfl : k = 0 := Nat.le_zero.1 within
    simp
  | cons i rest ih =>
    cases k with
    | zero => rfl
    | succ k =>
      rw [List.cons_append, behind, behind]
      cases starred : i.isStarred with
      | true => exact ih (by simpa [numbered, starred] using within)
      | false => exact ih (by simpa [numbered, starred] using within)

/-- Nothing stands behind the last item. -/
theorem behind_append_of_not_starred (own : i.isStarred = false) :
    behind ((numbered items).length + 1) (items ++ [i]) = [] := by
  induction items with
  | nil => simp [numbered, behind, own]
  | cons j rest ih =>
    cases starred : j.isStarred with
    | true => simpa [numbered, behind, starred] using ih
    | false => simpa [numbered, behind, starred] using ih

/-- Behind the last numbered item there are only items under `*`. -/
theorem isStarred_of_mem_behind (beyond : (numbered items).length ≤ k)
    (member : i ∈ behind k items) : i.isStarred := by
  have none : numbered (behind k items) = [] := by
    rw [numbered_behind, List.drop_eq_nil_of_le beyond]
  simpa using List.filter_eq_nil_iff.1 none i member

/-- Behind any other state there is an item that is not under `*`. -/
theorem exists_not_starred_of_lt (within : k < (numbered items).length) :
    ∃ j ∈ behind k items, j.isStarred = false := by
  have some : numbered (behind k items) ≠ [] := by
    rw [numbered_behind]
    simpa using within
  obtain ⟨j, member⟩ := List.exists_mem_of_ne_nil _ some
  exact ⟨j, (List.mem_filter.1 member).1, by simpa using (List.mem_filter.1 member).2⟩

theorem behind_suffix (items : List Item) (k : Nat) : behind k items <:+ items := by
  induction items generalizing k with
  | nil => cases k <;> exact List.suffix_rfl
  | cons i rest ih =>
    cases k with
    | zero => simp
    | succ k =>
      rw [behind]
      split
      · exact (ih (k + 1)).trans (List.suffix_cons i rest)
      · exact (ih k).trans (List.suffix_cons i rest)

/-- Behind item `k` and the items under `*` that follow it comes item `k + 1`. -/
theorem dropWhile_behind (next : (numbered items)[k]? = some i) :
    (behind k items).dropWhile (·.isStarred) = i :: behind (k + 1) items := by
  induction items generalizing k with
  | nil => simp [numbered] at next
  | cons j rest ih =>
    cases starred : j.isStarred with
    | true =>
      have same : numbered (j :: rest) = numbered rest := by simp [numbered, starred]
      rw [same] at next
      cases k with
      | zero => simpa [behind, starred] using ih next
      | succ k => simpa [behind, starred] using ih next
    | false =>
      have first : numbered (j :: rest) = j :: numbered rest := by simp [numbered, starred]
      rw [first] at next
      cases k with
      | zero =>
        obtain rfl : j = i := by simpa using next
        simp [behind, starred]
      | succ k => simpa [behind, starred] using ih (by simpa using next)

theorem dropWhile_behind_eq_nil (beyond : (numbered items).length ≤ k) :
    (behind k items).dropWhile (·.isStarred) = [] :=
  List.dropWhile_eq_nil_iff.2 fun _ member => isStarred_of_mem_behind beyond member

theorem isStarred_of_getElem?_numbered (own : (numbered items)[k]? = some i) :
    i.isStarred = false := by
  simpa using (List.mem_filter.1 (List.mem_of_getElem? own)).2

theorem getElem?_numbered_of_behind {rest : List Item} (next : behind k items = i :: rest)
    (own : i.isStarred = false) : (numbered items)[k]? = some i := by
  rw [← List.head?_drop, ← numbered_behind, next]
  simp [numbered, own]

theorem length_numbered_le_of_behind (last : behind k items = []) :
    (numbered items).length ≤ k := by
  rw [← List.drop_eq_nil_iff, ← numbered_behind, last]
  rfl

/-- Item `k + 1` is an optional one with nothing behind it exactly if it is the last numbered item
and the items end with an optional one. -/
theorem endsOptional_iff (own : (numbered items)[k]? = some i) :
    (i.isOptional ∧ behind (k + 1) items = []) ↔
      k + 1 = (numbered items).length ∧ endsOptional items := by
  have within : k < (numbered items).length := (List.getElem?_eq_some_iff.1 own).1
  constructor
  · rintro ⟨optional, last⟩
    have size := length_numbered_le_of_behind last
    have tail : [i] <:+ items := by
      rw [← last, ← dropWhile_behind own]
      exact (List.dropWhile_suffix _).trans (behind_suffix items k)
    obtain ⟨front, rfl⟩ := tail
    exact ⟨by omega, by simpa [endsOptional] using optional⟩
  · rintro ⟨size, ends⟩
    cases last : items.getLast? with
    | none => simp [endsOptional, last] at ends
    | some l =>
      obtain ⟨front, rfl⟩ := List.getLast?_eq_some_iff.1 last
      have optional : l.isOptional := by simpa [endsOptional] using ends
      have once := isStarred_eq_false_of_isOptional optional
      have numbers := numbered_append_of_not_starred front once
      rw [numbers, List.length_append, List.length_singleton, Nat.add_right_cancel_iff] at size
      rw [numbers, size, List.getElem?_concat_length] at own
      cases own
      exact ⟨optional, size ▸ behind_append_of_not_starred once⟩

/-- A state with an item behind it that has a state of its own accepts exactly if that item is
optional and the last one. -/
theorem accepts_iff_of_numbered (own : (numbered items)[k]? = some i) :
    accepts items k ↔ i.isOptional ∧ behind (k + 1) items = [] := by
  have before : k < (numbered items).length := (List.getElem?_eq_some_iff.1 own).1
  rw [endsOptional_iff own]
  simp [accepts, Nat.ne_of_lt before]

theorem accepts_length (items : List Item) : accepts items (numbered items).length := by
  simp [accepts]

end numbering

section growth
variable {items ns : List Item} {i : Item} {k : Nat}

theorem ownLoop_append (within : k ≤ ns.length) : ownLoop (ns ++ [i]) k = ownLoop ns k := by
  cases k with
  | zero => rfl
  | succ k => rw [ownLoop, ownLoop, List.getElem?_append_left (by omega)]

theorem ownLoop_append_last (ns : List Item) (i : Item) :
    ownLoop (ns ++ [i]) (ns.length + 1) = if i.isRepeated then [i.symbols] else [] := by
  simp [ownLoop]

theorem starLoops_append (within : k ≤ (numbered items).length) :
    starLoops (items ++ [i]) k =
      starLoops items k ++
        if k = (numbered items).length ∧ i.isStarred then [i.symbols] else [] := by
  unfold starLoops
  rw [behind_append within]
  rcases Nat.lt_or_eq_of_le within with before | rfl
  · obtain ⟨j, member, own⟩ := exists_not_starred_of_lt before
    have cut : ((behind k items).takeWhile (·.isStarred)).length ≠ (behind k items).length := by
      intro same
      have whole := (List.takeWhile_prefix fun i : Item => i.isStarred).eq_of_length same
      have starred := List.takeWhile_eq_self_iff.1 whole j member
      rw [own] at starred
      cases starred
    simp [List.takeWhile_append, cut, Nat.ne_of_lt before]
  · have all : ∀ j ∈ behind (numbered items).length items, j.isStarred :=
      fun j member => isStarred_of_mem_behind (Nat.le_refl _) member
    rw [List.takeWhile_append_of_pos all, List.takeWhile_eq_self_iff.2 all]
    cases starred : i.isStarred <;> simp [starred]

theorem starLoops_append_new (own : i.isStarred = false) :
    starLoops (items ++ [i]) ((numbered items).length + 1) = [] := by
  simp [starLoops, behind_append_of_not_starred own]

theorem chain_append (within : k ≤ ns.length) :
    chain (ns ++ [i]) k = chain ns k ++ if k = ns.length then [⟨k + 1, i.symbols⟩] else [] := by
  by_cases last : k = ns.length
  · simp [chain, last]
  · simp [chain, last, List.getElem?_append_left (by omega : k < ns.length)]

theorem chain_eq_nil (beyond : ns.length ≤ k) : chain ns k = [] := by
  simp [chain, List.getElem?_eq_none beyond]

theorem bypass_eq_nil (beyond : ns.length ≤ k + 1) : bypass ns k = [] := by
  have rest : later ns k = [] := by simpa [later] using beyond
  simp [bypass, rest]

theorem later_append (within : k < ns.length) :
    later (ns ++ [i]) k = later ns k ++ [(i, ns.length + 1)] := by
  have inside : k + 1 ≤ (ns.zipIdx 1).length := by simpa using Nat.succ_le_of_lt within
  rw [later, List.zipIdx_append, List.drop_append_of_le_length inside, Nat.add_comm 1]
  rfl

/-- The search for the end of a bypass edge fails where items under `+` only are left. -/
theorem find?_later_eq_none_iff :
    ((later ns k).find? fun p => !p.1.isRepeated) = none ↔
      (ns.drop (k + 1)).all (·.isRepeated) := by
  have firsts : (later ns k).map Prod.fst = ns.drop (k + 1) := by
    rw [later, List.map_drop, List.zipIdx_map_fst]
  rw [← firsts, List.find?_eq_none, List.all_map, List.all_eq_true]
  simp

theorem waiting_eq_false (beyond : ns.length ≤ k) : waiting ns k = false := by
  simp [waiting, List.getElem?_eq_none beyond]

theorem waiting_append (ns : List Item) (i : Item) (k : Nat) :
    waiting (ns ++ [i]) k =
      if i.isRepeated then waiting ns k else (decide (k = ns.length) && i.isOptional) := by
  unfold waiting
  rcases Nat.lt_trichotomy k ns.length with before | rfl | beyond
  · rw [List.getElem?_append_left before, List.drop_append_of_le_length (by omega)]
    cases repeated : i.isRepeated <;> simp [repeated, Nat.ne_of_lt before]
  · cases repeated : i.isRepeated <;> simp [isOptional, isRepeated] at repeated ⊢
    simp [repeated]
  · have none : (ns ++ [i])[k]? = none := by simpa using Nat.succ_le_of_lt beyond
    simp [none, Nat.ne_of_gt beyond, List.getElem?_eq_none (Nat.le_of_lt beyond)]

theorem bypass_append (ns : List Item) (i : Item) (k : Nat) :
    bypass (ns ++ [i]) k =
      bypass ns k ++
        if waiting ns k && !i.isRepeated then [⟨ns.length + 1, i.symbols⟩] else [] := by
  by_cases within : k < ns.length
  · unfold bypass waiting
    rw [List.getElem?_append_left within, later_append within, List.find?_append]
    cases optional : ns[k]?.any (·.isOptional) with
    | false => simp
    | true =>
      cases found : (later ns k).find? fun p => !p.1.isRepeated with
      | none =>
        have rest := find?_later_eq_none_iff.1 found
        cases repeated : i.isRepeated <;> simp [rest, repeated]
      | some p =>
        have rest : (ns.drop (k + 1)).all (·.isRepeated) = false := by
          rw [Bool.eq_false_iff, Ne, ← find?_later_eq_none_iff, found]
          simp
        simp [rest]
  · have beyond : ns.length ≤ k := Nat.le_of_not_lt within
    rw [bypass_eq_nil (by simpa using beyond), bypass_eq_nil (by omega)]
    simp [waiting_eq_false beyond]

/-- An item under `*` puts a loop on the last state. -/
theorem transitions_append_of_starred (starred : i.isStarred)
    (within : k ≤ (numbered items).length) :
    transitions (items ++ [i]) k =
      transitions items k ++ if k = (numbered items).length then [⟨k, i.symbols⟩] else [] := by
  unfold transitions loops
  rw [numbered_append_of_starred items starred, starLoops_append within]
  by_cases last : k = (numbered items).length
  · rw [chain_eq_nil (by omega), bypass_eq_nil (by omega)]
    simp [starred, last]
  · simp [last]

/-- Any other item has the last state lead on to its own state, and the waiting state as well
unless the item is under `+`. -/
theorem transitions_append_of_not_starred (own : i.isStarred = false)
    (within : k ≤ (numbered items).length) :
    transitions (items ++ [i]) k =
      transitions items k ++
        (if waiting (numbered items) k && !i.isRepeated then
          [⟨(numbered items).length + 1, i.symbols⟩]
        else []) ++
        if k = (numbered items).length then [⟨k + 1, i.symbols⟩] else [] := by
  unfold transitions loops
  rw [numbered_append_of_not_starred items own, ownLoop_append within, starLoops_append within,
    chain_append within, bypass_append]
  by_cases last : k = (numbered items).length
  · rw [chain_eq_nil (by omega), bypass_eq_nil (by omega), waiting_eq_false (by omega)]
    simp [own, last]
  · simp [last]

/-- The state of a new item has no transitions but a loop if the item is under `+`. -/
theorem transitions_append_new (own : i.isStarred = false) :
    transitions (items ++ [i]) ((numbered items).length + 1) =
      if i.isRepeated then [⟨(numbered items).length + 1, i.symbols⟩] else [] := by
  unfold transitions loops
  rw [numbered_append_of_not_starred items own, ownLoop_append_last, starLoops_append_new own,
    chain_eq_nil (by simp), bypass_eq_nil (by simp)]
  cases i.isRepeated <;> simp

end growth

section edges
variable {items ns : List Item} {i : Item} {k : Nat} {t : Transition} {s : SymbolSet}

theorem mem_of_mem_numbered (member : i ∈ numbered items) : i ∈ items :=
  (List.mem_filter.1 member).1

theorem exists_item_of_mem_loops (member : s ∈ loops items k) : ∃ i ∈ items, s = i.symbols := by
  rcases List.mem_append.1 member with own | starred
  · cases k with
    | zero => cases own
    | succ k =>
      rw [ownLoop] at own
      split at own
      · next i held =>
        split at own
        · exact ⟨i, mem_of_mem_numbered (List.mem_of_getElem? held), List.mem_singleton.1 own⟩
        · cases own
      · cases own
  · obtain ⟨i, among, rfl⟩ := List.mem_map.1 starred
    have follows := (List.takeWhile_prefix _).subset among
    exact ⟨i, (behind_suffix items k).subset follows, rfl⟩

theorem exists_item_of_mem_chain (member : t ∈ chain ns k) : ∃ i ∈ ns, t = ⟨k + 1, i.symbols⟩ := by
  unfold chain at member
  split at member
  · next i held => exact ⟨i, List.mem_of_getElem? held, List.mem_singleton.1 member⟩
  · cases member

theorem exists_item_of_mem_bypass (member : t ∈ bypass ns k) :
    ∃ i l, (i, l) ∈ later ns k ∧ t = ⟨l, i.symbols⟩ := by
  unfold bypass at member
  split at member
  · split at member
    · next i l found =>
      exact ⟨i, l, List.mem_of_find?_eq_some found, List.mem_singleton.1 member⟩
    · cases member
  · cases member

/-- Every edge carries the set of an item. -/
theorem exists_item_of_mem_transitions (member : t ∈ transitions items k) :
    ∃ i ∈ items, t.symbols = i.symbols := by
  simp only [transitions, List.mem_append] at member
  rcases member with (looping | onward) | skipping
  · obtain ⟨s, within, rfl⟩ := List.mem_map.1 looping
    exact exists_item_of_mem_loops within
  · obtain ⟨i, among, rfl⟩ := exists_item_of_mem_chain onward
    exact ⟨i, mem_of_mem_numbered among, rfl⟩
  · obtain ⟨i, l, found, rfl⟩ := exists_item_of_mem_bypass skipping
    have among : i ∈ numbered items := List.fst_mem_of_mem_zipIdx (List.mem_of_mem_drop found)
    exact ⟨i, mem_of_mem_numbered among, rfl⟩

/-- A bypass edge leads past the next state, to one that the graph holds. -/
theorem lt_target_of_mem_bypass (member : t ∈ bypass ns k) :
    k + 1 < t.target ∧ t.target ≤ ns.length := by
  obtain ⟨i, l, found, rfl⟩ := exists_item_of_mem_bypass member
  obtain ⟨p, within, found⟩ := List.getElem_of_mem found
  have size : (later ns k).length = ns.length - (k + 1) := by simp [later]
  simp only [later, List.getElem_drop, List.getElem_zipIdx, Prod.mk.injEq] at found
  have number : 1 + (k + 1 + p) = l := found.2
  change k + 1 < l ∧ l ≤ ns.length
  omega

theorem target_le_of_mem_transitions (within : k ≤ (numbered items).length)
    (member : t ∈ transitions items k) : t.target ≤ (numbered items).length := by
  simp only [transitions, List.mem_append] at member
  rcases member with (looping | onward) | skipping
  · obtain ⟨s, _, rfl⟩ := List.mem_map.1 looping
    exact within
  · unfold chain at onward
    split at onward
    · next i own =>
      obtain rfl := List.mem_singleton.1 onward
      exact (List.getElem?_eq_some_iff.1 own).1
    · cases onward
  · exact (lt_target_of_mem_bypass skipping).2

end edges

end PatternGraph.Item
