import PatternGraph.Proofs.BuilderHistory
import PatternGraph.Proofs.WalkTracer

/-!
# The trace of a walk accounts for it

The events of a walk tell of the start state first and then of a step and of the state it enters in
turn, until one event closes the walk. Each step takes the next character of the text along the
first transition that has it, and the offsets are those of the characters. The closing event says
how the walk ends, and it says nothing that the graph and the rest of the text do not decide.
-/
namespace PatternGraph

namespace Graph
variable {g : Graph} {id : StateId} {state : State} {c : Char}

/-- From state `id`, `c` leads to `target`: the first transition with `c` goes there. -/
def Leads (g : Graph) (id : StateId) (c : Char) (target : StateId) : Prop :=
  ∃ state t earlier later, g.get? id = some state ∧
    state.transitions = earlier ++ t :: later ∧
    c ∈ t.symbols ∧ (∀ u ∈ earlier, c ∉ u.symbols) ∧ t.target = target

/-- From state `id`, `c` leads nowhere: no transition has it. -/
def LeadsNowhere (g : Graph) (id : StateId) (c : Char) : Prop :=
  ∃ state, g.get? id = some state ∧ ∀ t ∈ state.transitions, c ∉ t.symbols

theorem leads_of_next? (held : g.get? id = some state) {t : Transition}
    (fired : state.next? c = some t) : g.Leads id c t.target := by
  obtain ⟨fires, earlier, later, split, passed⟩ := List.find?_eq_some_iff_append.1 fired
  refine ⟨state, t, earlier, later, held, split, SymbolSet.contains_iff.1 fires, ?_, rfl⟩
  intro u among fires
  have silent := passed u among
  rw [Transition.firesOn, SymbolSet.contains_iff.2 fires] at silent
  cases silent

theorem leadsNowhere_of_next? (held : g.get? id = some state) (silent : state.next? c = none) :
    g.LeadsNowhere id c := by
  refine ⟨state, held, fun t among fires => ?_⟩
  exact List.find?_eq_none.1 silent t among (SymbolSet.contains_iff.2 fires)

theorem accepts_eq (held : g.get? id = some state) : g.accepts id = state.accept := by
  rw [accepts, held]
  rfl

end Graph

namespace Walk
variable {g : Graph} {mode : Mode} {id target last : StateId} {offset taken : Nat}
  {text rest : List Char} {events : List Event} {closing : Event} {c : Char} {result : Option Match}

/-- The events tell of `taken` steps along the front of the text, from state `id` on, which is
entered at byte `offset`. Then state `last` is entered and the walk is closed. -/
structure Account (g : Graph) (id : StateId) (offset : Nat) (text : List Char)
    (events : List Event) (taken : Nat) (last : StateId) (closing : Event) : Prop where
  within : taken ≤ text.length
  length : events.length = 2 * taken + 2
  opens : events[0]? = some (.enter id offset)
  steps : ∀ i < taken, ∃ origin c target,
    events[2 * i]? = some (.enter origin (offset + Text.byteLength (text.take i))) ∧
      text[i]? = some c ∧ g.Leads origin c target ∧
      events[2 * i + 1]? = some (.step origin target c) ∧
      events[2 * i + 2]? = some (.enter target (offset + Text.byteLength (text.take (i + 1))))
  arrives : events[2 * taken]? = some (.enter last (offset + Text.byteLength (text.take taken)))
  closes : events[2 * taken + 1]? = some closing

/-- How a walk closes in a state that is entered at byte `offset`, in front of the given text, and
what it results in. -/
inductive Closes (g : Graph) (mode : Mode) (id : StateId) (offset : Nat) :
    List Char → Event → Option Match → Prop
  | accept {text : List Char} (accepting : g.accepts id) (enough : mode = .whole → text = []) :
    Closes g mode id offset text (.accept id offset) (some ⟨offset, id⟩)
  | stuck {c : Char} {rest : List Char} (nowhere : g.LeadsNowhere id c)
      (unfinished : mode = .whole ∨ ¬ g.accepts id) :
    Closes g mode id offset (c :: rest) (.stuck id c) none
  | exhausted (rejecting : ¬ g.accepts id) :
    Closes g mode id offset [] (.exhausted id) none

namespace Account

/-- A walk that is closed where it starts. -/
theorem closed (g : Graph) (id : StateId) (offset : Nat) (text : List Char) (closing : Event) :
    Account g id offset text [.enter id offset, closing] 0 id closing where
  within := Nat.zero_le _
  length := rfl
  opens := rfl
  steps i before := absurd before (Nat.not_lt_zero i)
  arrives := rfl
  closes := rfl

theorem offset_step (offset : Nat) (c : Char) (rest : List Char) (i : Nat) :
    offset + c.utf8Size + Text.byteLength (rest.take i) =
      offset + Text.byteLength ((c :: rest).take (i + 1)) := by
  rw [List.take_succ_cons, Text.byteLength_cons, Nat.add_assoc]

/-- One step more in front of a walk. -/
theorem step (account : Account g target (offset + c.utf8Size) rest events taken last closing)
    (leads : g.Leads id c target) :
    Account g id offset (c :: rest) (.enter id offset :: .step id target c :: events) (taken + 1)
      last closing where
  within := Nat.succ_le_succ account.within
  length := by
    rw [List.length_cons, List.length_cons, account.length]
    omega
  opens := rfl
  steps i before := by
    cases i with
    | zero =>
      have entered := account.opens
      rw [← Nat.add_zero (offset + c.utf8Size)] at entered
      rw [← offset_step]
      exact ⟨id, c, target, rfl, rfl, leads, rfl, entered⟩
    | succ i =>
      have later := account.steps i (Nat.lt_of_succ_lt_succ before)
      rw [offset_step, offset_step] at later
      exact later
  arrives := by
    rw [← offset_step]
    exact account.arrives
  closes := account.closes

end Account

namespace Closes
variable {s : StateId} {e : Nat}

theorem kind (closes : Closes g mode id offset text closing result) :
    (∃ s e, closing = .accept s e) ∨ (∃ s c, closing = .stuck s c) ∨
      ∃ s, closing = .exhausted s := by
  cases closes with
  | accept => exact .inl ⟨_, _, rfl⟩
  | stuck => exact .inr (.inl ⟨_, _, rfl⟩)
  | exhausted => exact .inr (.inr ⟨_, rfl⟩)

theorem accept_iff (closes : Closes g mode id offset text closing result) :
    closing = .accept s e ↔ result = some ⟨e, s⟩ := by
  cases closes with
  | accept => simp [and_comm]
  | stuck | exhausted => simp

theorem of_accept (closes : Closes g mode id offset text (.accept s e) result) :
    s = id ∧ e = offset ∧ g.accepts s := by
  cases closes with
  | accept accepting => exact ⟨rfl, rfl, accepting⟩

theorem stuck_iff (closes : Closes g mode id offset text closing result) :
    closing = .stuck s c ↔
      s = id ∧ text.head? = some c ∧ g.LeadsNowhere s c ∧ (mode = .whole ∨ ¬ g.accepts s) := by
  constructor
  · rintro rfl
    cases closes with
    | stuck nowhere unfinished => exact ⟨rfl, rfl, nowhere, unfinished⟩
  · rintro ⟨rfl, next, nowhere, unfinished⟩
    cases closes with
    | accept accepting enough =>
      rcases unfinished with whole | rejecting
      · rw [enough whole] at next
        cases next
      · exact absurd accepting rejecting
    | stuck =>
      cases next
      rfl
    | exhausted => cases next

theorem exhausted_iff (closes : Closes g mode id offset text closing result) :
    closing = .exhausted s ↔ s = id ∧ text = [] ∧ ¬ g.accepts s := by
  constructor
  · rintro rfl
    cases closes with
    | exhausted rejecting => exact ⟨rfl, rfl, rejecting⟩
  · rintro ⟨rfl, consumed, rejecting⟩
    cases closes with
    | accept accepting => exact absurd accepting rejecting
    | stuck => cases consumed
    | exhausted => rfl

end Closes

/-- A walk in a well-formed graph has an account, which closes with its result. -/
theorem exists_account (wellFormed : g.WellFormed) (mode : Mode) (held : id < g.size)
    (offset : Nat) (text : List Char) :
    let w := continueFrom g mode id offset text
    ∃ taken last closing, Account g id offset text w.events taken last closing ∧
      Closes g mode last (offset + Text.byteLength (text.take taken)) (text.drop taken) closing
        w.match? := by
  induction text generalizing id offset with
  | nil =>
    obtain ⟨current, found, asked⟩ := Graph.state_eq_ok held
    have accepts := Graph.accepts_eq found
    simp only [continueFrom, asked]
    by_cases accepting : current.accept
    · rw [if_pos accepting]
      rw [accepting] at accepts
      exact ⟨0, id, _, .closed .., .accept accepts fun _ => rfl⟩
    · rw [if_neg accepting]
      rw [← accepts] at accepting
      exact ⟨0, id, _, .closed .., .exhausted accepting⟩
  | cons c rest ih =>
    obtain ⟨current, found, asked⟩ := Graph.state_eq_ok held
    have accepts := Graph.accepts_eq found
    simp only [continueFrom, asked]
    by_cases reached : mode = .leading ∧ current.accept
    · rw [if_pos reached]
      obtain ⟨rfl, accepting⟩ := reached
      rw [accepting] at accepts
      exact ⟨0, id, _, .closed .., .accept accepts fun whole => absurd whole (by decide)⟩
    · rw [if_neg reached]
      cases fired : current.next? c with
      | none =>
        have unfinished : mode = .whole ∨ ¬ g.accepts id := by
          rw [accepts]
          cases mode with
          | whole => exact .inl rfl
          | leading => exact .inr fun accepting => reached ⟨rfl, accepting⟩
        have nowhere := Graph.leadsNowhere_of_next? found fired
        exact ⟨0, id, _, .closed .., .stuck nowhere unfinished⟩
      | some t =>
        -- well-formedness keeps the target in the graph, so the rest of the walk has an account
        obtain ⟨taken, last, closing, account, closes⟩ :=
          ih (wellFormed.target_lt found fired) (offset + c.utf8Size)
        rw [Account.offset_step] at closes
        exact ⟨taken + 1, last, closing, account.step (Graph.leads_of_next? found fired), closes⟩

/-- The trace of a walk accounts for it, whatever a fresh builder was put through to make the graph.
Any tracer hears the same events and leaves the outcome as it is. The events are an account of
steps along the front of the text and of one event that closes it. That is an accepting one exactly
for a match, of the state last entered and its offset. The walk is stuck exactly if there is a next
character that leads nowhere, and the state does not accept or the text is to be matched as a
whole; it is exhausted exactly if nothing is left and the state does not accept. A printing tracer
has a line for each event that its level shows, and where it does not show entries the other lines
of one that does. -/
theorem trace_accounts_for_walk (history : List Graph.Builder.Operation) (text : List Char)
    (mode : Mode) :
    let g := (Graph.Builder.new.after history).finish
    let w := g.walk text mode
    (∀ (σ : Type) (hear : σ → Event → σ) (notes : σ),
      told hear notes g text mode = (w.outcome, w.events.foldl hear notes)) ∧
    (∃ taken last closing, Account g Graph.start 0 text w.events taken last closing ∧
      ((∃ s e, closing = .accept s e) ∨ (∃ s c, closing = .stuck s c) ∨
        ∃ s, closing = .exhausted s) ∧
      (∀ s e, closing = .accept s e ↔ g.run text mode = some ⟨e, s⟩) ∧
      (∀ s e, closing = .accept s e →
        s = last ∧ e = Text.byteLength (text.take taken) ∧ g.accepts s) ∧
      (∀ s c, closing = .stuck s c ↔
        s = last ∧ text[taken]? = some c ∧ g.LeadsNowhere s c ∧
          (mode = .whole ∨ ¬ g.accepts s)) ∧
      ∀ s, closing = .exhausted s ↔ s = last ∧ taken = text.length ∧ ¬ g.accepts s) ∧
    ∀ verbosity palette,
      printed verbosity palette g text mode =
        (w.events.filter (·.shownAt verbosity)).map (fun event => palette.paint event.fragments) ∧
      (verbosity ≠ .veryVerbose →
        printed verbosity palette g text mode =
          (printed .veryVerbose palette g text mode).filter fun line =>
            ¬ Event.IsEntryLine palette line) := by
  intro g w
  have wellFormed : g.WellFormed :=
    Graph.Builder.wellFormed_after history Graph.Builder.wellFormed_new
  refine ⟨fun σ hear notes => told_eq hear notes g text mode, ?account, ?lines⟩
  case account =>
    obtain ⟨taken, last, closing, account, closes⟩ :=
      exists_account wellFormed mode wellFormed.nonempty 0 text
    rw [Nat.zero_add] at closes
    refine ⟨taken, last, closing, account, closes.kind, fun s e => closes.accept_iff, ?_, ?_, ?_⟩
    · rintro s e rfl
      exact closes.of_accept
    · intro s c
      rw [closes.stuck_iff, List.head?_drop]
    · intro s
      have consumed : text.drop taken = [] ↔ taken = text.length := by
        rw [List.drop_eq_nil_iff]
        exact ⟨Nat.le_antisymm account.within, fun all => all.ge⟩
      rw [closes.exhausted_iff, consumed]
  case lines =>
    intro verbosity palette
    refine ⟨printed_eq_trace verbosity palette g text mode, fun low => ?_⟩
    have silent : verbosity.showsEntries = false := by
      cases verbosity with
      | veryVerbose => exact absurd rfl low
      | default | verbose => rfl
    rw [printed_eq_trace, printed_eq_trace]
    exact trace_eq_filter w silent palette

end Walk

end PatternGraph
