import PatternGraph.Proofs.Acceptance
import PatternGraph.Proofs.WellFormed

/-!
# Which states a walk enters

That a transition leads to a state does not mean that a walk can get there: the walk takes the
first transition that fires, so a transition is of use only with a character that none before it
fires on. A loop can shadow the edge that leads on, as in `a*a`, which matches nothing. The walks
over all texts enter exactly the states that are reached over transitions with such a character.
As all but the loops lead upward, all states are entered exactly if each of them is opened onto by
a state before it, and then some text is matched as a whole.
-/
namespace PatternGraph

/-- The state in which a walk has consumed its whole text. -/
def Walk.lastState? (w : Walk) : Option StateId :=
  match w.events.getLast? with
  | some (.accept id _) | some (.exhausted id) => some id
  | _ => none

namespace Graph
variable {g : Graph} {id k : StateId} {c : Char} {text u v : List Char}

/-- Where the first transitions that fire lead to from state `id`, character by character. -/
def endFrom? (g : Graph) (id : StateId) : List Char → Option StateId
  | [] => if id < g.size then some id else none
  | c :: rest => (g.target? id c).bind fun target => g.endFrom? target rest

theorem get?_eq_none (missing : ¬ id < g.size) : g.get? id = none :=
  Array.getElem?_eq_none (Nat.le_of_not_lt missing)

theorem target?_eq_none (missing : ¬ id < g.size) : g.target? id c = none := by
  rw [target?, get?_eq_none missing]
  rfl

theorem endFrom?_eq_none (missing : ¬ id < g.size) (text : List Char) :
    g.endFrom? id text = none := by
  cases text with
  | nil => exact if_neg missing
  | cons c rest =>
    rw [endFrom?, target?_eq_none missing]
    rfl

theorem endFrom?_append (g : Graph) (id : StateId) (u v : List Char) :
    g.endFrom? id (u ++ v) = (g.endFrom? id u).bind fun k => g.endFrom? k v := by
  induction u generalizing id with
  | nil =>
    by_cases held : id < g.size
    · simp [endFrom?, held]
    · simp [endFrom?, held, endFrom?_eq_none held]
  | cons c rest ih =>
    rw [List.cons_append, endFrom?, endFrom?, Option.bind_assoc]
    exact congrArg (Option.bind (g.target? id c)) (funext fun target => ih target)

theorem events_continueFrom_ne_nil (g : Graph) (mode : Mode) (id : StateId) (offset : Nat)
    (text : List Char) : (Walk.continueFrom g mode id offset text).events ≠ [] := by
  cases text <;> rw [Walk.continueFrom] <;> split
  · simp
  · split <;> simp
  · simp
  · split
    · simp
    · split <;> simp [Walk.after]

/-- The events of a whole walk end in the state that the transitions lead to. -/
theorem lastState?_continueFrom (g : Graph) (id : StateId) (offset : Nat) (text : List Char) :
    (Walk.continueFrom g .whole id offset text).lastState? = g.endFrom? id text := by
  induction text generalizing id offset with
  | nil =>
    by_cases held : id < g.size
    · obtain ⟨current, _, asked⟩ := state_eq_ok held
      rw [Walk.continueFrom, asked, endFrom?, if_pos held]
      cases accepting : current.accept <;> simp [accepting, Walk.lastState?]
    · rw [Walk.continueFrom, endFrom?, if_neg held, state, get?_eq_none held]
      rfl
  | cons c rest ih =>
    have told (target : StateId) (before : List Walk.Event) :
        ((Walk.continueFrom g .whole target (offset + c.utf8Size) rest).after
          before).lastState? = g.endFrom? target rest := by
      have some := events_continueFrom_ne_nil g .whole target (offset + c.utf8Size) rest
      rw [← ih target (offset + c.utf8Size), Walk.lastState?, Walk.lastState?, Walk.after,
        List.getLast?_append, List.getLast?_eq_some_getLast some]
      rfl
    by_cases held : id < g.size
    · obtain ⟨current, found, asked⟩ := state_eq_ok held
      rw [Walk.continueFrom, asked, endFrom?, target?, found]
      cases fired : current.next? c with
      | none => simp [fired, Walk.lastState?]
      | some t => simp [fired, told]
    · rw [Walk.continueFrom, endFrom?, target?, get?_eq_none held, state, get?_eq_none held]
      rfl

theorem lastState?_walk (g : Graph) (text : List Char) :
    (g.walk text .whole).lastState? = g.endFrom? start text :=
  lastState?_continueFrom g start 0 text

/-- A text matches as a whole exactly if it leads to an accepting state. -/
theorem isSome_matchFrom_whole (g : Graph) (id : StateId) (offset : Nat) (text : List Char) :
    (g.matchFrom .whole id offset text).isSome = (g.endFrom? id text).any g.accepts := by
  induction text generalizing id offset with
  | nil =>
    rw [matchFrom_nil, endFrom?]
    by_cases held : id < g.size
    · cases accepting : g.accepts id <;> simp [held, accepting]
    · have rejects : g.accepts id = false := by
        rw [accepts, get?_eq_none held]
        rfl
      simp [held, rejects]
  | cons c rest ih =>
    rw [matchFrom_whole_cons, endFrom?]
    cases g.target? id c with
    | none => rfl
    | some target => exact ih target (offset + c.utf8Size)

end Graph

/-- Some character of the set is in none of the others. -/
def SymbolSet.Exceeds (s : SymbolSet) (others : List SymbolSet) : Prop :=
  ∃ c ∈ s.members, ∀ other ∈ others, c ∉ other

instance (s : SymbolSet) (others : List SymbolSet) : Decidable (s.Exceeds others) :=
  List.decidableBEx (fun c => ∀ other ∈ others, c ∉ other) s.members

namespace Item
variable {items ns : List Item} {k l id : Nat} {c : Char} {t : Transition}
  {text : List Char}

/-- A character leads from state `k` on to state `l`: along the chain with one that no loop of `k`
takes, or over the bypass edge with one that the edge passed over does not take either. -/
def OpensOnto (items : List Item) (k l : Nat) : Prop :=
  (∃ t ∈ chain (numbered items) k, t.target = l ∧ t.symbols.Exceeds (loops items k)) ∨
    ∃ t ∈ bypass (numbered items) k, t.target = l ∧
      t.symbols.Exceeds (loops items k ++ (chain (numbered items) k).map (·.symbols))

instance (items : List Item) (k l : Nat) : Decidable (OpensOnto items k l) :=
  inferInstanceAs (Decidable (_ ∨ _))

/-- The states that are reached from the start over edges that a character leads along. -/
inductive Entered (items : List Item) : Nat → Prop
  | start : Entered items Graph.start
  | step {k l : Nat} (before : Entered items k) (opens : OpensOnto items k l) :
      Entered items l

theorem eq_singleton_of_mem_chain (member : t ∈ chain ns k) : chain ns k = [t] := by
  unfold chain at member ⊢
  split at member
  · exact congrArg (fun t => [t]) (List.mem_singleton.1 member).symm
  · cases member

theorem eq_singleton_of_mem_bypass (member : t ∈ bypass ns k) : bypass ns k = [t] := by
  unfold bypass at member ⊢
  split at member
  · next optional =>
    rw [if_pos optional]
    split at member
    · exact congrArg (fun t => [t]) (List.mem_singleton.1 member).symm
    · cases member
  · cases member

theorem target_of_mem_chain (member : t ∈ chain ns k) : t.target = k + 1 ∧ k < ns.length := by
  unfold chain at member
  split at member
  · next own =>
    obtain rfl := List.mem_singleton.1 member
    exact ⟨rfl, (List.getElem?_eq_some_iff.1 own).1⟩
  · cases member

/-- States are opened onto from below only. -/
theorem lt_of_opensOnto (opens : OpensOnto items k l) : k < l ∧ l ≤ (numbered items).length := by
  rcases opens with ⟨t, onward, rfl, _⟩ | ⟨t, skipping, rfl, _⟩
  · obtain ⟨target, within⟩ := target_of_mem_chain onward
    rw [target]
    exact ⟨Nat.lt_succ_self k, within⟩
  · obtain ⟨beyond, within⟩ := lt_target_of_mem_bypass skipping
    exact ⟨Nat.lt_of_succ_lt beyond, within⟩

theorem le_length_of_entered (entered : Entered items id) : id ≤ (numbered items).length := by
  cases entered with
  | start => exact Nat.zero_le _
  | step _ opens => exact (lt_of_opensOnto opens).2

/-- The loops of a state come first, then the edge to the next state, then the bypass edge. -/
theorem target?_graph (within : k ≤ (numbered items).length) (c : Char) :
    (graph items).target? k c =
      ((((loops items k).map (Transition.mk k)).find? (·.firesOn c)).or
        (((chain (numbered items) k).find? (·.firesOn c)).or
          ((bypass (numbered items) k).find? (·.firesOn c)))).map (·.target) := by
  rw [Graph.target?, graph_get?, if_pos within, Option.bind_some, State.next?]
  simp only [transitions, List.find?_append, Option.or_assoc]

theorem mem_of_find?_firesOn {ts : List Transition} (found : ts.find? (·.firesOn c) = some t) :
    c ∈ t.symbols := by
  have fires : t.firesOn c := by simpa using List.find?_some found
  exact SymbolSet.contains_iff.1 fires

theorem find?_eq_none_of_exceeded {ts : List Transition}
    (outside : ∀ s ∈ ts.map (·.symbols), c ∉ s) : ts.find? (·.firesOn c) = none := by
  refine List.find?_eq_none.2 fun t member fires => ?_
  exact outside t.symbols (List.mem_map_of_mem member) (SymbolSet.contains_iff.1 fires)

theorem notMem_of_find?_eq_none {ts : List Transition} (none : ts.find? (·.firesOn c) = none) :
    ∀ s ∈ ts.map (·.symbols), c ∉ s := by
  rintro s among within
  obtain ⟨t, member, rfl⟩ := List.mem_map.1 among
  exact List.find?_eq_none.1 none t member (SymbolSet.contains_iff.2 within)

theorem map_symbols_loops (items : List Item) (k : Nat) :
    ((loops items k).map (Transition.mk k)).map (·.symbols) = loops items k := by
  rw [List.map_map]
  exact List.map_id _

/-- A step of a walk stays, or leads on to a state that is opened onto. -/
theorem eq_or_opensOnto_of_target? (within : k ≤ (numbered items).length)
    (leads : (graph items).target? k c = some l) : l = k ∨ OpensOnto items k l := by
  rw [target?_graph within] at leads
  obtain ⟨t, found, rfl⟩ := Option.map_eq_some_iff.1 leads
  rcases Option.or_eq_some_iff.1 found with looping | ⟨past, found⟩
  · obtain ⟨s, _, rfl⟩ := List.mem_map.1 (List.mem_of_find?_eq_some looping)
    exact .inl rfl
  · have outside := notMem_of_find?_eq_none past
    rw [map_symbols_loops] at outside
    refine .inr ?_
    rcases Option.or_eq_some_iff.1 found with onward | ⟨passed, skipping⟩
    · have fires := mem_of_find?_firesOn onward
      exact .inl ⟨t, List.mem_of_find?_eq_some onward, rfl, c, fires, outside⟩
    · have fires := mem_of_find?_firesOn skipping
      refine .inr ⟨t, List.mem_of_find?_eq_some skipping, rfl, c, fires, fun s among => ?_⟩
      rcases List.mem_append.1 among with loop | edge
      · exact outside s loop
      · exact notMem_of_find?_eq_none passed s edge

/-- A state that is opened onto is where some character leads. -/
theorem exists_target?_of_opensOnto (opens : OpensOnto items k l) :
    ∃ c, (graph items).target? k c = some l := by
  obtain ⟨below, held⟩ := lt_of_opensOnto opens
  have within : k ≤ (numbered items).length := by omega
  have past {c : Char} (outside : ∀ s ∈ loops items k, c ∉ s) :
      ((loops items k).map (Transition.mk k)).find? (·.firesOn c) = none := by
    apply find?_eq_none_of_exceeded
    rw [map_symbols_loops]
    exact outside
  rcases opens with ⟨t, onward, rfl, c, fires, outside⟩ | ⟨t, skipping, rfl, c, fires, outside⟩
  · have fires : t.firesOn c := SymbolSet.contains_iff.2 fires
    refine ⟨c, ?_⟩
    rw [target?_graph within, past outside, eq_singleton_of_mem_chain onward]
    simp [fires]
  · have fires : t.firesOn c := SymbolSet.contains_iff.2 fires
    have free := past fun s loop => outside s (List.mem_append_left _ loop)
    have passed : (chain (numbered items) k).find? (·.firesOn c) = none :=
      find?_eq_none_of_exceeded fun s edge => outside s (List.mem_append_right _ edge)
    refine ⟨c, ?_⟩
    rw [target?_graph within, free, passed, eq_singleton_of_mem_bypass skipping]
    simp [fires]

theorem entered_of_endFrom? (entered : Entered items k)
    (ended : (graph items).endFrom? k text = some id) : Entered items id := by
  induction text generalizing k with
  | nil =>
    rw [Graph.endFrom?] at ended
    split at ended
    · exact Option.some.inj ended ▸ entered
    · cases ended
  | cons c rest ih =>
    rw [Graph.endFrom?] at ended
    obtain ⟨l, leads, onward⟩ := Option.bind_eq_some_iff.1 ended
    rcases eq_or_opensOnto_of_target? (le_length_of_entered entered) leads with rfl | opens
    · exact ih entered onward
    · exact ih (entered.step opens) onward

/-- The whole walks from the start end in the entered states. -/
theorem exists_endFrom?_iff_entered :
    (∃ text, (graph items).endFrom? Graph.start text = some id) ↔ Entered items id := by
  constructor
  · rintro ⟨text, ended⟩
    exact entered_of_endFrom? .start ended
  · intro entered
    induction entered with
    | start => exact ⟨[], by simp [Graph.endFrom?, Graph.start]⟩
    | @step k l _ opens ih =>
      obtain ⟨text, ended⟩ := ih
      obtain ⟨c, leads⟩ := exists_target?_of_opensOnto opens
      have held : l < (graph items).size := by
        rw [size_graph]
        exact Nat.lt_succ_of_le (lt_of_opensOnto opens).2
      refine ⟨text ++ [c], ?_⟩
      rw [Graph.endFrom?_append, ended, Option.bind_some, Graph.endFrom?, leads, Option.bind_some,
        Graph.endFrom?, if_pos held]

/-- All states are entered exactly if each is opened onto by one before it. -/
theorem forall_entered_iff :
    (∀ id ≤ (numbered items).length, Entered items id) ↔
      ∀ l < (numbered items).length, ∃ k ≤ l, OpensOnto items k (l + 1) := by
  constructor
  · intro all l within
    cases all (l + 1) within with
    | step before opens => exact ⟨_, Nat.le_of_lt_succ (lt_of_opensOnto opens).1, opens⟩
  · intro opened id
    induction id using Nat.strongRecOn with
    | ind id ih =>
      intro within
      cases id with
      | zero => exact .start
      | succ l =>
        obtain ⟨k, before, opens⟩ := opened l within
        exact (ih k (Nat.lt_succ_of_le before) (by omega)).step opens

/-- Some text matches as a whole exactly if an accepting state is entered. -/
theorem exists_isSome_run_iff :
    (∃ text, ((graph items).run text .whole).isSome) ↔
      ∃ id, Entered items id ∧ (graph items).accepts id := by
  have matched (text : List Char) : ((graph items).run text .whole).isSome ↔
      ∃ id, (graph items).endFrom? Graph.start text = some id ∧ (graph items).accepts id := by
    rw [Graph.run_eq_matchFrom, Graph.isSome_matchFrom_whole, Option.any_eq_true]
  constructor
  · rintro ⟨text, found⟩
    obtain ⟨id, ended, accepting⟩ := (matched text).1 found
    exact ⟨id, exists_endFrom?_iff_entered.1 ⟨text, ended⟩, accepting⟩
  · rintro ⟨id, entered, accepting⟩
    obtain ⟨text, ended⟩ := exists_endFrom?_iff_entered.2 entered
    exact ⟨text, (matched text).2 ⟨id, ended, accepting⟩⟩

end Item

/-- The states in which whole walks of a compiled pattern end are those that are entered over edges
with a character that no earlier transition of the same state takes. A text matches exactly if one
of them accepts. They are all states exactly if each is opened onto by one before it, and then some
text matches. -/
theorem exists_walk_ending_iff_entered {source : List Char} {g : Graph}
    (compiled : compile source = .ok g) :
    let items := Item.ofText source
    let states := (Item.numbered items).length
    (∀ id, (∃ text, (g.walk text .whole).lastState? = some id) ↔ Item.Entered items id) ∧
      ((∃ text, (g.run text .whole).isSome) ↔
        ∃ id, Item.Entered items id ∧ g.accepts id) ∧
      ((∀ id < g.size, ∃ text, (g.walk text .whole).lastState? = some id) ↔
        ∀ l < states, ∃ k ≤ l, Item.OpensOnto items k (l + 1)) ∧
      ((∀ l < states, ∃ k ≤ l, Item.OpensOnto items k (l + 1)) →
        ∃ text, (g.run text .whole).isSome) := by
  intro items states
  obtain rfl : g = Item.graph items := compiled_graph_eq_graph_of_items compiled
  have ends (id : StateId) :
      (∃ text, ((Item.graph items).walk text .whole).lastState? = some id) ↔
        Item.Entered items id := by
    simp only [Graph.lastState?_walk]
    exact Item.exists_endFrom?_iff_entered
  refine ⟨ends, Item.exists_isSome_run_iff, ?_, fun opened => ?_⟩
  · simp only [ends, Item.size_graph, Nat.lt_succ_iff]
    exact Item.forall_entered_iff
  · have last := Item.forall_entered_iff.2 opened states (Nat.le_refl _)
    have accepting : (Item.graph items).accepts states := by
      rw [Item.accepts_graph (Nat.le_refl _)]
      exact Item.accepts_length items
    exact Item.exists_isSome_run_iff.2 ⟨states, last, accepting⟩

/-- A class that a loop shadows in part still leads on, and the bypass edge is not needed. -/
theorem exists_walk_ending_iff_entered_overlapping :
    ∃ g, compile "[ab]*[bc]?c".toList = .ok g ∧
      (∀ id < g.size, ∃ text, (g.walk text .whole).lastState? = some id) ∧
      ∃ text, (g.run text .whole).isSome := by
  have compiled : compile "[ab]*[bc]?c".toList =
      .ok (Item.graph (Item.ofText "[ab]*[bc]?c".toList)) := by decide
  have opened : ∀ l < (Item.numbered (Item.ofText "[ab]*[bc]?c".toList)).length,
      ∃ k ≤ l, Item.OpensOnto (Item.ofText "[ab]*[bc]?c".toList) k (l + 1) := by decide
  obtain ⟨_, _, allEntered, matching⟩ := exists_walk_ending_iff_entered compiled
  exact ⟨_, compiled, allEntered.2 opened, matching opened⟩

/-- The loop takes every character of the edge that leads on, so nothing matches. -/
theorem loop_shadows_edge :
    ∃ g, compile "a*a".toList = .ok g ∧ 1 < g.size ∧ (∀ text, g.run text .whole = none) ∧
      ∀ text, (g.walk text .whole).lastState? ≠ some 1 := by
  have notEntered : ¬ Item.Entered (Item.ofText "a*a".toList) 1 := by
    intro entered
    cases entered with
    | @step k l _ opens =>
      obtain rfl : k = 0 := Nat.lt_one_iff.1 (Item.lt_of_opensOnto opens).1
      have shadowed : ¬ Item.OpensOnto (Item.ofText "a*a".toList) 0 1 := by decide
      exact shadowed opens
  refine ⟨Item.graph (Item.ofText "a*a".toList), by decide, by decide, fun text => ?_,
    fun text ended => ?_⟩
  · by_contra found
    obtain ⟨id, entered, accepting⟩ :=
      Item.exists_isSome_run_iff.1 ⟨text, Option.isSome_iff_ne_none.2 found⟩
    have within : id ≤ 1 := Item.le_length_of_entered entered
    rcases Nat.le_one_iff_eq_zero_or_eq_one.1 within with rfl | rfl
    · revert accepting
      decide
    · exact notEntered entered
  · rw [Graph.lastState?_walk] at ended
    exact notEntered (Item.exists_endFrom?_iff_entered.1 ⟨text, ended⟩)

end PatternGraph
