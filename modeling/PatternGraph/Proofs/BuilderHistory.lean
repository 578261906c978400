import PatternGraph.Proofs.WellFormed

/-!
# Histories of a builder

The operations of a builder as they happen in place: checks and changes follow each other on one
builder, and a fault keeps what was done until then. As all checks come before the first change, a
faulting operation leaves the builder as it was. A history mixes operations on allocated states
with others. Whatever it is, the graph stays well formed, states are numbered without gaps and no
accept mark is lost.
-/
namespace PatternGraph.Graph.Builder

/-- Work on a builder in place. -/
abbrev Editing := ExceptT Fault (StateM Builder)

namespace Editing
variable {α β : Type} {b after : Builder}

/-- The result of work on a builder, and the builder as the work leaves it. -/
def on (work : Editing α) (b : Builder) : Except Fault α × Builder := work.run.run b

/-- Refuse the target of a transition unless it is allocated. -/
def checkTarget (id : StateId) : Editing Unit := do
  let b ← get
  if id < b.size then return () else throw (.targetUnallocated id)

/-- Change a state where it stands. -/
def change (id : StateId) (f : State → State) : Editing Unit := do
  let b ← get
  if id < b.size then set (⟨b.states.modify id f⟩ : Builder)
  else throw (.stateUnallocated id b.size)

def addState : Editing StateId := modifyGet Builder.addState

def connect (origin target : StateId) (symbols : SymbolSet) : Editing Unit := do
  checkTarget target
  change origin fun state =>
    { state with transitions := state.transitions ++ [⟨target, symbols⟩] }

def markAccept (id : StateId) : Editing Unit :=
  change id fun state => { state with accept := true }

theorem on_bind_of_ok {work : Editing α} {a : α} (done : work.on b = (.ok a, after))
    (next : α → Editing β) : (work >>= next).on b = (next a).on after := by
  unfold on at done ⊢
  rw [ExceptT.run_bind, StateT.run_bind, done]
  rfl

theorem on_bind_of_error {work : Editing α} {fault : Fault}
    (stopped : work.on b = (.error fault, after)) (next : α → Editing β) :
    (work >>= next).on b = (.error fault, after) := by
  unfold on at stopped ⊢
  rw [ExceptT.run_bind, StateT.run_bind, stopped]
  rfl

theorem on_get (b : Builder) : (get : Editing Builder).on b = (.ok b, b) := rfl

/-- Work with the given outcome that is done whole or not at all. -/
def settled (b : Builder) : Except Fault (α × Builder) → Except Fault α × Builder
  | .ok (a, next) => (.ok a, next)
  | .error fault => (.error fault, b)

/-- A change that comes to nothing but a new builder, with `a` for its result. -/
abbrev giving (a : α) (outcome : Except Fault Builder) : Except Fault (α × Builder) :=
  outcome.map (Prod.mk a)

theorem on_change (b : Builder) (id : StateId) (f : State → State) :
    (change id f).on b = settled b (giving () (b.update id f)) := by
  unfold change update
  rw [on_bind_of_ok (on_get b)]
  split <;> rfl

theorem on_checkTarget (b : Builder) (id : StateId) :
    (checkTarget id).on b =
      if id < b.size then (.ok (), b) else (.error (.targetUnallocated id), b) := by
  unfold checkTarget
  rw [on_bind_of_ok (on_get b)]
  split <;> rfl

/-- The check of the target comes first, so nothing is left half done. -/
theorem on_connect (b : Builder) (origin target : StateId) (symbols : SymbolSet) :
    (connect origin target symbols).on b =
      settled b (giving () (b.connect origin target symbols)) := by
  have check := on_checkTarget b target
  unfold connect Builder.connect
  by_cases allocated : target < b.size
  · rw [if_pos allocated] at check ⊢
    rw [on_bind_of_ok check]
    exact on_change b origin _
  · rw [if_neg allocated] at check ⊢
    exact on_bind_of_error check _

theorem on_markAccept (b : Builder) (id : StateId) :
    (markAccept id).on b = settled b (giving () (b.markAccept id)) :=
  on_change b id _

theorem on_return {work : Editing Unit} {outcome : Except Fault Builder}
    (settles : work.on b = settled b (giving () outcome)) (a : α) :
    (work >>= fun _ => pure a).on b = settled b (giving a outcome) := by
  cases outcome with
  | ok next => exact on_bind_of_ok settles _
  | error fault => exact on_bind_of_error settles _

end Editing

inductive Operation where
  | addState
  | connect (origin target : StateId) (symbols : SymbolSet)
  | markAccept (id : StateId)
  deriving DecidableEq

namespace Operation
variable {b after : Builder} {op : Operation} {answered : Except Fault (Option StateId)}

/-- The states that an operation names. -/
def ids : Operation → List StateId
  | addState => []
  | connect origin target _ => [origin, target]
  | markAccept id => [id]

/-- Carry out an operation in place. The answer is the state that it allocates, if it does so. -/
def perform : Operation → Editing (Option StateId)
  | addState => do
    let id ← Editing.addState
    return some id
  | connect origin target symbols => do
    Editing.connect origin target symbols
    return none
  | markAccept id => do
    Editing.markAccept id
    return none

/-- The same operation as a function of the builder. -/
def outcome (b : Builder) : Operation → Except Fault (Option StateId × Builder)
  | addState => .ok (some b.addState.1, b.addState.2)
  | connect origin target symbols => Editing.giving none (b.connect origin target symbols)
  | markAccept id => Editing.giving none (b.markAccept id)

/-- An operation in place is the one on values, and it is done whole or not at all. -/
theorem perform_on (op : Operation) (b : Builder) :
    op.perform.on b = Editing.settled b (op.outcome b) := by
  cases op with
  | addState => rfl
  | connect origin target symbols =>
    exact Editing.on_return (Editing.on_connect b origin target symbols) none
  | markAccept id => exact Editing.on_return (Editing.on_markAccept b id) none

def answer (op : Operation) (b : Builder) : Except Fault (Option StateId) := (op.perform.on b).1

/-- The builder as an operation leaves it, whether it faults or not. -/
def leave (op : Operation) (b : Builder) : Builder := (op.perform.on b).2

/-- What an operation does: it allocates a state, or changes an allocated one, or names an
unallocated state and does nothing. -/
inductive Effect (b : Builder) : Operation → Except Fault (Option StateId) → Builder → Prop
  | added : Effect b addState (.ok (some b.size)) b.addState.2
  | connected {origin target : StateId} {symbols : SymbolSet} (allocatedTarget : target < b.size)
      (allocatedOrigin : origin < b.size) :
      Effect b (connect origin target symbols) (.ok none) (b.extended origin ⟨target, symbols⟩)
  | targetUnallocated {origin target : StateId} {symbols : SymbolSet}
      (unallocated : b.size ≤ target) :
      Effect b (connect origin target symbols) (.error (.targetUnallocated target)) b
  | originUnallocated {origin target : StateId} {symbols : SymbolSet}
      (allocatedTarget : target < b.size) (unallocated : b.size ≤ origin) :
      Effect b (connect origin target symbols) (.error (.stateUnallocated origin b.size)) b
  | marked {id : StateId} (allocated : id < b.size) :
      Effect b (markAccept id) (.ok none) (b.accepting id)
  | markUnallocated {id : StateId} (unallocated : b.size ≤ id) :
      Effect b (markAccept id) (.error (.stateUnallocated id b.size)) b

theorem effect (op : Operation) (b : Builder) : Effect b op (op.answer b) (op.leave b) := by
  unfold answer leave
  rw [perform_on]
  cases op with
  | addState => exact .added
  | connect origin target symbols =>
    rw [outcome]
    rcases Nat.lt_or_ge target b.size with allocatedTarget | unallocated
    · rcases Nat.lt_or_ge origin b.size with allocatedOrigin | unallocated
      · rw [connect_eq_ok allocatedTarget allocatedOrigin]
        exact .connected allocatedTarget allocatedOrigin
      · rw [connect_eq_error_of_origin allocatedTarget unallocated]
        exact .originUnallocated allocatedTarget unallocated
    · rw [connect_eq_error_of_target unallocated]
      exact .targetUnallocated unallocated
  | markAccept id =>
    rw [outcome]
    rcases Nat.lt_or_ge id b.size with allocated | unallocated
    · rw [markAccept_eq_ok allocated]
      exact .marked allocated
    · rw [markAccept_eq_error unallocated]
      exact .markUnallocated unallocated

namespace Effect

theorem faults_iff (step : Effect b op answered after) :
    (∃ fault, answered = .error fault) ↔ ∃ id ∈ op.ids, b.size ≤ id := by
  cases step with
  | added => simp [ids]
  | connected allocatedTarget allocatedOrigin => simp [ids, allocatedTarget, allocatedOrigin]
  | targetUnallocated unallocated => simp [ids, unallocated]
  | originUnallocated allocatedTarget unallocated => simp [ids, unallocated]
  | marked allocated => simp [ids, allocated]
  | markUnallocated unallocated => simp [ids, unallocated]

theorem unchanged {fault : Fault} (step : Effect b op (.error fault) after) : after = b := by
  cases step <;> rfl

/-- Of two unallocated states the target is reported. -/
theorem blames_target {origin target : StateId} {symbols : SymbolSet}
    (step : Effect b (connect origin target symbols) answered after)
    (unallocated : b.size ≤ target) : answered = .error (.targetUnallocated target) := by
  cases step with
  | targetUnallocated => rfl
  | connected allocatedTarget | originUnallocated allocatedTarget =>
    exact absurd allocatedTarget (Nat.not_lt.2 unallocated)

theorem appends {origin target : StateId} {symbols : SymbolSet} {added : Option StateId}
    (step : Effect b (connect origin target symbols) (.ok added) after) (k : StateId) :
    after.finish.get? k = (b.finish.get? k).map fun state =>
      { state with
        transitions := state.transitions ++ if k = origin then [⟨target, symbols⟩] else [] } := by
  cases step with
  | connected => exact get?_finish_extended b origin ⟨target, symbols⟩ k

theorem wellFormed (step : Effect b op answered after) (before : b.finish.WellFormed) :
    after.finish.WellFormed := by
  cases step with
  | added => exact wellFormed_addState before
  | connected allocatedTarget _ => exact wellFormed_extended before allocatedTarget _ _
  | marked => exact wellFormed_accepting before _
  | targetUnallocated | originUnallocated | markUnallocated => exact before

theorem keeps_accepting (step : Effect b op answered after) {id : StateId}
    (marked : b.finish.accepts id) : after.finish.accepts id := by
  cases step with
  | added => exact accepts_finish_addState marked
  | connected =>
    rw [accepts_finish_extended]
    exact marked
  | marked => exact accepts_finish_accepting marked _
  | targetUnallocated | originUnallocated | markUnallocated => exact marked

/-- An operation allocates the next state if it is to allocate one, and none otherwise. -/
theorem allocation (step : Effect b op answered after) :
    answered.toOption.join.toList = List.range' b.size ([op].count addState) ∧
      after.size = b.size + [op].count addState := by
  cases step with
  | added => exact ⟨rfl, size_addState b⟩
  | connected => exact ⟨rfl, size_extended ..⟩
  | marked => exact ⟨rfl, size_accepting ..⟩
  | targetUnallocated | originUnallocated | markUnallocated => exact ⟨rfl, rfl⟩

end Effect

end Operation

/-- The builder after a history of operations. -/
def after (b : Builder) : List Operation → Builder
  | [] => b
  | op :: later => (op.leave b).after later

/-- The states that a history allocates, in their order. -/
def allocations (b : Builder) : List Operation → List StateId
  | [] => []
  | op :: later => (op.answer b).toOption.join.toList ++ (op.leave b).allocations later

variable {b : Builder}

theorem wellFormed_after (history : List Operation) (before : b.finish.WellFormed) :
    (b.after history).finish.WellFormed := by
  induction history generalizing b with
  | nil => exact before
  | cons op later ih => exact ih ((op.effect b).wellFormed before)

theorem accepts_after (history : List Operation) {id : StateId} (marked : b.finish.accepts id) :
    (b.after history).finish.accepts id := by
  induction history generalizing b with
  | nil => exact marked
  | cons op later ih => exact ih ((op.effect b).keeps_accepting marked)

/-- States are allocated one after the other, faults or not. -/
theorem allocations_eq_range (b : Builder) (history : List Operation) :
    b.allocations history = List.range' b.size (history.count .addState) := by
  induction history generalizing b with
  | nil => rfl
  | cons op later ih =>
    obtain ⟨first, grown⟩ := (op.effect b).allocation
    calc b.allocations (op :: later)
        = List.range' b.size ([op].count .addState) ++
            List.range' (b.size + [op].count .addState) (later.count .addState) := by
          rw [allocations, ih, first, grown]
      _ = List.range' b.size (([op] ++ later).count .addState) := by
          rw [List.range'_append_1, List.count_append]

/-- Whatever a fresh builder is put through, its graph is well formed and has its states numbered
without gaps, and a walk stays in it. An operation is done whole or not at all. It faults exactly
if it names an unallocated state, the target of a transition first, and then leaves the builder as
it was. A transition comes behind those of its origin and nothing else changes. What is marked
stays marked. -/
theorem history_keeps_well_formed_and_fails_atomically (history : List Operation) :
    let b := new.after history
    b.finish.WellFormed ∧
      new.allocations history = List.range' 1 (history.count .addState) ∧
      (∀ op : Operation, op.perform.on b = Editing.settled b (op.outcome b)) ∧
      (∀ op : Operation, (∃ fault, op.answer b = .error fault) ↔ ∃ id ∈ op.ids, b.size ≤ id) ∧
      (∀ origin target symbols, b.size ≤ target →
        (Operation.connect origin target symbols).answer b = .error (.targetUnallocated target)) ∧
      (∀ (op : Operation) fault, op.answer b = .error fault → op.leave b = b) ∧
      (∀ origin target symbols added,
        (Operation.connect origin target symbols).answer b = .ok added →
        ∀ k, ((Operation.connect origin target symbols).leave b).finish.get? k =
          (b.finish.get? k).map fun state =>
            { state with
              transitions :=
                state.transitions ++ if k = origin then [⟨target, symbols⟩] else [] }) ∧
      (∀ later id, b.finish.accepts id → (b.after later).finish.accepts id) ∧
      ∀ text mode fault, (b.finish.walk text mode).outcome ≠ .lost fault := by
  intro b
  have wellFormed : b.finish.WellFormed := wellFormed_after history wellFormed_new
  refine ⟨wellFormed, allocations_eq_range new history, fun op => op.perform_on b,
    fun op => (op.effect b).faults_iff, ?blame, ?unchanged, ?appends,
    fun later id => accepts_after later,
    fun text mode fault => wellFormed.walk_ne_lost text mode fault⟩
  case blame =>
    intro origin target symbols unallocated
    exact (Operation.effect _ b).blames_target unallocated
  case unchanged =>
    intro op fault faulted
    have step := op.effect b
    rw [faulted] at step
    exact step.unchanged
  case appends =>
    intro origin target symbols added done
    have step := (Operation.connect origin target symbols).effect b
    rw [done] at step
    exact step.appends

/-! Faulting operations take no number. -/
example : new.allocations [.connect 0 1 (.single 'a'), .addState, .connect 0 1 (.single 'a'),
    .markAccept 2, .addState] = [1, 2] := by
  decide

end PatternGraph.Graph.Builder
