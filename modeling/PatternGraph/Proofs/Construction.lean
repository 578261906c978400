import PatternGraph.Pattern.Compilation
import PatternGraph.Proofs.BuilderSteps
import PatternGraph.Proofs.ClosedForm
import PatternGraph.Proofs.ReaderSteps

/-!
# The compiled graph in closed form

Wiring never faults: whatever elements are wired in whatever order, the states built so far are
those of the closed form of their items, and the cursor, the pending and the skippable state can be
read off the items. So what a pattern compiles to depends on its parse alone, and a pattern that
compiles has the graph of its items.
-/
namespace PatternGraph

namespace Wiring
open Item

/-- The wiring with a transition appended to those of `origin`, and the event of that. -/
def connected (w : Wiring) (origin target : StateId) (symbols : SymbolSet) : Wiring :=
  { w with builder := w.builder.extended origin ⟨target, symbols⟩ }.record
    (.edge origin target symbols)

section registers
variable {w : Wiring} {origin target : Nat} {symbols : SymbolSet}

@[simp] theorem builder_connected (w : Wiring) (origin target : Nat) (symbols : SymbolSet) :
    (w.connected origin target symbols).builder = w.builder.extended origin ⟨target, symbols⟩ :=
  rfl

@[simp] theorem builder_addState (w : Wiring) : w.addState.2.builder = w.builder.addState.2 := rfl

theorem connect_eq_ok (allocatedTarget : target < w.builder.size)
    (allocatedOrigin : origin < w.builder.size) (symbols : SymbolSet) :
    w.connect origin target symbols = .ok (w.connected origin target symbols) := by
  rw [connect, Graph.Builder.connect_eq_ok allocatedTarget allocatedOrigin]
  rfl

theorem starred_eq_ok (allocated : w.cursor < w.builder.size) (symbols : SymbolSet) :
    w.starred symbols =
      .ok { w.connected w.cursor w.cursor symbols with skippable := none } := by
  rw [starred, connect_eq_ok allocated allocated]
  rfl

/-- The wiring with a new state that has a loop and is reached from the cursor. -/
def looping (w : Wiring) (symbols : SymbolSet) : Wiring :=
  (w.addState.2.connected w.builder.size w.builder.size symbols).connected w.cursor w.builder.size
    symbols

theorem repeated_eq_ok (allocated : w.cursor < w.builder.size) (symbols : SymbolSet) :
    w.repeated symbols =
      .ok { w.looping symbols with cursor := w.builder.size, skippable := none } := by
  have looped : w.addState.2.connect w.builder.size w.builder.size symbols =
      .ok (w.addState.2.connected w.builder.size w.builder.size symbols) :=
    connect_eq_ok (by simp) (by simp) symbols
  have linked : (w.addState.2.connected w.builder.size w.builder.size symbols).connect w.cursor
      w.builder.size symbols = .ok (w.looping symbols) :=
    connect_eq_ok (by simp) (by simpa using Nat.lt_succ_of_lt allocated) symbols
  change (w.addState.2.connect w.builder.size w.builder.size symbols >>= _) = _
  rw [looped]
  change (Wiring.connect _ w.cursor w.builder.size symbols >>= _) = _
  rw [linked]
  rfl

/-- The wiring with a transition appended to those of `origin`, if there is an origin. -/
def connectedFrom? (w : Wiring) (origin : Option StateId) (target : StateId)
    (symbols : SymbolSet) : Wiring :=
  match origin with
  | none => w
  | some origin => w.connected origin target symbols

theorem connectFrom?_eq_ok (allocatedTarget : target < w.builder.size) {from? : Option StateId}
    (allocatedOrigin : ∀ id ∈ from?, id < w.builder.size) (symbols : SymbolSet) :
    w.connectFrom? from? target symbols = .ok (w.connectedFrom? from? target symbols) := by
  cases from? with
  | none => rfl
  | some id => exact connect_eq_ok allocatedTarget (allocatedOrigin id rfl) symbols

@[simp] theorem size_connectedFrom? (w : Wiring) (from? : Option StateId) (target : StateId)
    (symbols : SymbolSet) :
    (w.connectedFrom? from? target symbols).builder.size = w.builder.size := by
  cases from? <;> simp [connectedFrom?]

theorem getElem?_connectedFrom? (w : Wiring) (from? : Option StateId) (target : StateId)
    (symbols : SymbolSet) (k : Nat) :
    (w.connectedFrom? from? target symbols).builder.states[k]? =
      w.builder.states[k]?.map fun state =>
        { state with
          transitions :=
            state.transitions ++ if from? = some k then [⟨target, symbols⟩] else [] } := by
  cases from? with
  | none => simp [connectedFrom?]
  | some id =>
    simp [connectedFrom?, Graph.Builder.getElem?_extended, eq_comm]

/-- The wiring with a new state that is reached from the pending state and from the cursor. -/
def bridged (w : Wiring) (symbols : SymbolSet) : Wiring :=
  (w.addState.2.connectedFrom? w.pending w.builder.size symbols).connected w.cursor w.builder.size
    symbols

theorem single_eq_ok (allocated : w.cursor < w.builder.size)
    (waiting : ∀ id ∈ w.pending, id < w.builder.size) (symbols : SymbolSet) (optional : Bool) :
    w.single symbols optional =
      .ok { w.bridged symbols with
        cursor := w.builder.size
        pending := if optional then some w.cursor else none
        skippable := if optional then some w.cursor else none } := by
  have bypassed : w.addState.2.connectFrom? w.pending w.builder.size symbols =
      .ok (w.addState.2.connectedFrom? w.pending w.builder.size symbols) :=
    connectFrom?_eq_ok (by simp)
      (fun id member => by simpa using Nat.lt_succ_of_lt (waiting id member)) symbols
  have linked : (w.addState.2.connectedFrom? w.pending w.builder.size symbols).connect w.cursor
      w.builder.size symbols = .ok (w.bridged symbols) :=
    connect_eq_ok (by simp) (by simpa using Nat.lt_succ_of_lt allocated) symbols
  change (w.addState.2.connectFrom? w.pending w.builder.size symbols >>= _) = _
  rw [bypassed]
  change (Wiring.connect _ w.cursor w.builder.size symbols >>= _) = _
  rw [linked]
  rfl

theorem connectedFrom?_of_registers (w : Wiring) (pending skippable from? : Option StateId)
    (target : StateId) (symbols : SymbolSet) :
    ({ w with pending, skippable } : Wiring).connectedFrom? from? target symbols =
      { w.connectedFrom? from? target symbols with pending, skippable } := by
  cases from? <;> rfl

theorem bridged_of_skippable (w : Wiring) (symbols : SymbolSet) :
    ({ w with skippable := none } : Wiring).bridged symbols =
      { w.bridged symbols with pending := w.pending, skippable := none } :=
  congrArg (·.connected w.cursor w.builder.size symbols)
    (connectedFrom?_of_registers w.addState.2 w.pending none w.pending w.builder.size symbols)

/-- The edges of an element made with the pending state taken out of its register. -/
theorem bridged_of_taken (w : Wiring) (cleared : w.skippable = none) (symbols : SymbolSet) :
    (({ w.addState.2 with pending := none } : Wiring).connectedFrom? w.pending w.builder.size
        symbols).connected w.cursor w.builder.size symbols =
      { w.bridged symbols with cursor := w.cursor, pending := none, skippable := none } := by
  obtain ⟨builder, cursor, pending, skippable, events⟩ := w
  subst cleared
  cases pending <;> rfl

end registers

/-- The wiring has built the states of `items`, none of them accepting, and its registers stand
where the last items left them. -/
structure Follows (items : List Item) (w : Wiring) : Prop where
  size : w.builder.size = (numbered items).length + 1
  states : ∀ k, k ≤ (numbered items).length →
    w.builder.states[k]? = some ⟨transitions items k, false⟩
  cursor : w.cursor = (numbered items).length
  pending : ∀ k, w.pending = some k ↔ waiting (numbered items) k
  skippable : ∀ k, w.skippable = some k ↔
    k + 1 = (numbered items).length ∧ endsOptional items

theorem follows_nil : Follows [] {} where
  size := rfl
  states k within := by
    obtain rfl : k = 0 := Nat.le_zero.1 within
    rfl
  cursor := rfl
  pending k := by simp [waiting, numbered]
  skippable k := by simp [numbered]

/-- Records of rules entered change nothing else. -/
theorem Follows.record {items : List Item} {w : Wiring} (follows : Follows items w)
    (event : Compilation.Event) : Follows items (w.record event) :=
  ⟨follows.size, follows.states, follows.cursor, follows.pending, follows.skippable⟩

section element
variable {items : List Item} {w : Wiring}

theorem Follows.cursor_lt (follows : Follows items w) : w.cursor < w.builder.size := by
  rw [follows.size, follows.cursor]
  exact Nat.lt_succ_self _

theorem Follows.pending_lt (follows : Follows items w) :
    ∀ id ∈ w.pending, id < (numbered items).length := by
  intro id waits
  have waits := (follows.pending id).1 waits
  by_contra beyond
  rw [waiting_eq_false (Nat.le_of_not_lt beyond)] at waits
  cases waits

theorem Follows.starred (follows : Follows items w) {i : Item} (starred : i.isStarred) :
    ∃ next, w.starred i.symbols = .ok next ∧ Follows (items ++ [i]) next := by
  have numbers := numbered_append_of_starred items starred
  have required := isOptional_eq_false_of_isStarred starred
  refine ⟨_, starred_eq_ok follows.cursor_lt i.symbols, ?_, ?_, ?_, ?_, ?_⟩
  · simpa [numbers] using follows.size
  · intro k within
    rw [numbers] at within
    simp only [builder_connected]
    rw [Graph.Builder.getElem?_extended, follows.states k within,
      transitions_append_of_starred starred within, follows.cursor]
    by_cases last : k = (numbered items).length <;> simp [last]
  · rw [numbers]
    exact follows.cursor
  · rw [numbers]
    exact follows.pending
  · simp [endsOptional, required]

theorem Follows.repeated (follows : Follows items w) {i : Item} (repeated : i.isRepeated) :
    ∃ next, w.repeated i.symbols = .ok next ∧ Follows (items ++ [i]) next := by
  have own : i.isStarred = false := by simp_all [isStarred, isRepeated]
  have required : i.isOptional = false := by simp_all [isRepeated, isOptional]
  have numbers := numbered_append_of_not_starred items own
  refine ⟨_, repeated_eq_ok follows.cursor_lt i.symbols, ?_, ?_, ?_, ?_, ?_⟩
  · simpa [looping, numbers] using follows.size
  · intro k within
    rw [numbers, List.length_append, List.length_singleton] at within
    simp only [looping, builder_connected, builder_addState]
    rw [Graph.Builder.getElem?_extended, Graph.Builder.getElem?_extended,
      Graph.Builder.getElem?_addState, follows.cursor, follows.size]
    rcases Nat.lt_or_eq_of_le within with before | rfl
    · rw [if_neg (Nat.ne_of_lt before), follows.states k (Nat.le_of_lt_succ before),
        transitions_append_of_not_starred own (Nat.le_of_lt_succ before)]
      by_cases last : k = (numbered items).length <;> simp [last, Nat.ne_of_lt before, repeated]
    · rw [transitions_append_new own]
      simp [repeated]
  · simpa [numbers] using follows.size
  · intro k
    rw [numbers, waiting_append, if_pos repeated]
    exact follows.pending k
  · simp [endsOptional, required]

theorem Follows.single (follows : Follows items w) {i : Item} (own : i.isStarred = false)
    (once : i.isRepeated = false) :
    ∃ next, w.single i.symbols i.isOptional = .ok next ∧ Follows (items ++ [i]) next := by
  have numbers := numbered_append_of_not_starred items own
  have waits : ∀ id ∈ w.pending, id < w.builder.size := fun id member => by
    rw [follows.size]
    exact Nat.lt_succ_of_lt (follows.pending_lt id member)
  refine ⟨_, single_eq_ok follows.cursor_lt waits i.symbols i.isOptional, ?_, ?_, ?_, ?_, ?_⟩
  · simpa [bridged, numbers] using follows.size
  · intro k within
    rw [numbers, List.length_append, List.length_singleton] at within
    simp only [bridged, builder_connected]
    rw [Graph.Builder.getElem?_extended, getElem?_connectedFrom?, builder_addState,
      Graph.Builder.getElem?_addState, follows.cursor, follows.size]
    rcases Nat.lt_or_eq_of_le within with before | rfl
    · rw [if_neg (Nat.ne_of_lt before), follows.states k (Nat.le_of_lt_succ before),
        transitions_append_of_not_starred own (Nat.le_of_lt_succ before)]
      by_cases last : k = (numbered items).length <;> simp [last, follows.pending, once]
    · have resting : w.pending ≠ some ((numbered items).length + 1) := fun waits =>
        absurd (follows.pending_lt _ waits) (by simp)
      rw [transitions_append_new own]
      simp [once, resting]
  · simpa [numbers] using follows.size
  · intro k
    rw [numbers, waiting_append, once]
    cases optional : i.isOptional <;> simp [follows.cursor, eq_comm]
  · intro k
    rw [numbers]
    cases optional : i.isOptional <;> simp [endsOptional, optional, follows.cursor, eq_comm]

end element

section run
variable {items : List Item} {w : Wiring}

/-- One step of a parse appends the item that it recognizes, if any. -/
theorem Follows.step (follows : Follows items w) (s : Parse.Step) :
    ∃ next, w.step s = .ok next ∧ Follows (items ++ s.item?.toList) next := by
  cases s with
  | rule rule lookahead => exact ⟨_, rfl, by simpa [Parse.Step.item?] using follows.record _⟩
  | element symbols lookahead =>
    cases lookahead with
    | star => exact follows.starred (i := ⟨symbols, some .star⟩) rfl
    | plus => exact follows.repeated (i := ⟨symbols, some .plus⟩) rfl
    | question => exact follows.single (i := ⟨symbols, some .question⟩) rfl rfl
    | _ => exact follows.single (i := ⟨symbols, none⟩) rfl rfl

/-- The steps of any parse, complete or not, are wired without a fault. -/
theorem Follows.steps (follows : Follows items w) (ss : List Parse.Step) :
    ∃ last, w.steps ss = (last, none) ∧
      Follows (items ++ ss.filterMap Parse.Step.item?) last := by
  induction ss generalizing items w with
  | nil => exact ⟨w, rfl, by simpa using follows⟩
  | cons s rest ih =>
    obtain ⟨next, stepped, followsNext⟩ := follows.step s
    obtain ⟨last, ran, followsLast⟩ := ih followsNext
    refine ⟨last, by rw [Wiring.steps, stepped]; exact ran, ?_⟩
    cases item : s.item? <;> simpa [item, List.filterMap_cons] using followsLast

theorem steps_append {w next : Wiring} {steps : List Parse.Step}
    (ran : w.steps steps = (next, none)) (more : List Parse.Step) :
    w.steps (steps ++ more) = next.steps more := by
  induction steps generalizing w with
  | nil =>
    cases ran
    rfl
  | cons s later ih =>
    rw [Wiring.steps] at ran
    rw [List.cons_append, Wiring.steps]
    cases stepped : w.step s with
    | error fault => simp [stepped] at ran
    | ok mid =>
      simp only [stepped] at ran
      exact ih ran

/-- The wiring with `id` marked, and the event of that. -/
def marked (w : Wiring) (id : StateId) : Wiring :=
  { w with builder := w.builder.accepting id }.record (.accept id)

theorem markAccept_eq_ok {id : Nat} (allocated : id < w.builder.size) :
    w.markAccept id = .ok (w.marked id) := by
  rw [markAccept, Graph.Builder.markAccept_eq_ok allocated]
  rfl

@[simp] theorem builder_marked (w : Wiring) (id : StateId) :
    (w.marked id).builder = w.builder.accepting id := rfl

theorem finish_eq_match (allocated : w.cursor < w.builder.size) :
    w.finish = match w.skippable with
      | none => .ok (w.marked w.cursor)
      | some id => (w.marked w.cursor).markAccept id := by
  rw [Wiring.finish, markAccept_eq_ok allocated]
  rfl

/-- Finishing marks the cursor and the skippable state, if there is one. -/
theorem finish_eq_ok (allocated : w.cursor < w.builder.size)
    (skips : ∀ id ∈ w.skippable, id < w.builder.size) :
    ∃ finished, w.finish = .ok finished ∧ ∀ k : Nat,
      finished.builder.states[k]? = w.builder.states[k]?.map fun state =>
        { state with accept := state.accept || k = w.cursor || w.skippable = some k } := by
  have marking := finish_eq_match allocated
  cases skipped : w.skippable with
  | none =>
    rw [skipped] at marking
    refine ⟨_, marking, fun k => ?_⟩
    simp [Graph.Builder.getElem?_accepting]
  | some id =>
    have within : id < (w.marked w.cursor).builder.size := by
      simpa using skips id skipped
    rw [skipped] at marking
    refine ⟨_, marking.trans (markAccept_eq_ok within), fun k => ?_⟩
    simp [Graph.Builder.getElem?_accepting, eq_comm, Function.comp_def]

/-- The graph is complete when the wiring is finished. -/
theorem Follows.finish (follows : Follows items w) :
    ∃ finished, w.finish = .ok finished ∧ finished.builder.finish = Item.graph items := by
  have skips : ∀ id ∈ w.skippable, id < w.builder.size := fun id skipped => by
    rw [follows.size, ← ((follows.skippable id).1 skipped).1]
    exact Nat.lt_succ_of_lt (Nat.lt_succ_self id)
  obtain ⟨finished, ended, states⟩ := finish_eq_ok follows.cursor_lt skips
  refine ⟨finished, ended, Graph.ext_get? fun k => (states k).trans ?_⟩
  rw [graph_get?]
  split
  · next within =>
    rw [follows.states k within]
    simp [accepts, follows.cursor, follows.skippable]
  · next beyond =>
    have absent : w.builder.states[k]? = none := by
      have size := follows.size
      rw [Graph.Builder.size] at size
      rw [Array.getElem?_eq_none_iff, size]
      exact Nat.lt_of_not_le beyond
    rw [absent]
    rfl

end run

end Wiring

/-- What a text with tokens compiles to depends on its parse alone: the graph of the items that the
parse recognizes, or the failure of the parse. -/
theorem compile_eq_of_tokens {source : List Char} {tokens : List Token}
    (read : Token.ofSource source = .ok tokens) :
    compile source =
      match (Parse.ofTokens (Text.byteLength source) tokens).failure with
      | some diagnostic => .error (.parse diagnostic)
      | none => .ok (Item.graph (Parse.ofTokens (Text.byteLength source) tokens).items) := by
  obtain ⟨last, ran, follows⟩ :=
    Wiring.follows_nil.steps (Parse.ofTokens (Text.byteLength source) tokens).steps
  obtain ⟨finished, ended, complete⟩ := follows.finish
  rw [compile, Compilation.ofSource, read]
  simp only [Compilation.ofParse, ran, ended]
  cases (Parse.ofTokens (Text.byteLength source) tokens).failure with
  | some diagnostic => rfl
  | none => exact congrArg Except.ok complete

/-- A text with tokens that does not compile has a parse that fails. -/
theorem exists_failure_of_compile {source : List Char} {tokens : List Token}
    {error : CompileError} (read : Token.ofSource source = .ok tokens)
    (failed : compile source = .error error) :
    ∃ diagnostic, error = .parse diagnostic ∧
      (Parse.ofTokens (Text.byteLength source) tokens).failure = some diagnostic := by
  rw [compile_eq_of_tokens read] at failed
  split at failed
  · next diagnostic stopped =>
    cases failed
    exact ⟨diagnostic, rfl, stopped⟩
  · cases failed

theorem compile_ne_internal (source : List Char) (fault : Fault) :
    compile source ≠ .error (.internal fault) := by
  cases read : Token.ofSource source with
  | error diagnostic => simp [compile, Compilation.ofSource, read]
  | ok tokens =>
    rw [compile_eq_of_tokens read]
    split <;> simp

/-- A text compiles exactly if it has tokens and these can be read to their end. -/
theorem compile_eq_ok_iff {source : List Char} {g : Graph} :
    compile source = .ok g ↔
      ∃ tokens, Token.ofSource source = .ok tokens ∧
        (Parse.ofTokens (Text.byteLength source) tokens).failure = none ∧
        g = Item.graph (Item.ofText source) := by
  constructor
  · intro compiled
    cases read : Token.ofSource source with
    | error diagnostic => simp [compile, Compilation.ofSource, read] at compiled
    | ok tokens =>
      rw [compile_eq_of_tokens read] at compiled
      split at compiled
      · cases compiled
      · next succeeded =>
        cases compiled
        exact ⟨tokens, rfl, succeeded,
          congrArg Item.graph (Parse.items_ofTokens read succeeded)⟩
  · rintro ⟨tokens, read, succeeded, rfl⟩
    rw [compile_eq_of_tokens read, succeeded]
    exact congrArg (Except.ok ∘ Item.graph) (Parse.items_ofTokens read succeeded)

/-- A pattern that compiles has the graph of its items. -/
theorem compiled_graph_eq_graph_of_items {source : List Char} {g : Graph}
    (compiled : compile source = .ok g) : g = Item.graph (Item.ofText source) := by
  obtain ⟨_, _, _, same⟩ := compile_eq_ok_iff.1 compiled
  exact same

/-- The bypass edge around an optional item passes over an item under `+` as well. -/
theorem compiled_graph_eq_graph_of_items_bypassing :
    compile "a?b*c+d".toList =
        .ok ⟨#[⟨[⟨1, .single 'a'⟩, ⟨3, .single 'd'⟩], false⟩,
          ⟨[⟨1, .single 'b'⟩, ⟨2, .single 'c'⟩], false⟩,
          ⟨[⟨2, .single 'c'⟩, ⟨3, .single 'd'⟩], false⟩,
          ⟨[], true⟩]⟩ ∧
      (⟨#[⟨[⟨1, .single 'a'⟩, ⟨3, .single 'd'⟩], false⟩,
          ⟨[⟨1, .single 'b'⟩, ⟨2, .single 'c'⟩], false⟩,
          ⟨[⟨2, .single 'c'⟩, ⟨3, .single 'd'⟩], false⟩,
          ⟨[], true⟩]⟩ : Graph) = Item.graph (Item.ofText "a?b*c+d".toList) :=
  ⟨by decide, compiled_graph_eq_graph_of_items (by decide)⟩

end PatternGraph
