import Mathlib.Algebra.Ring.Nat
import PatternGraph.Proofs.Construction
import PatternGraph.Proofs.SinglePass
import PatternGraph.Proofs.TokenSpans
import PatternGraph.Proofs.WellFormed

/-!
# A pass is safe at every moment

All the states that are stored on the way are allocated ones, so no operation on the builder faults,
and nothing is marked before all tokens of a pattern are read. So a pass gives what compiling gives,
whoever listens, and tells the same events.
-/
namespace PatternGraph

/-- The states that an event is about. -/
def Compilation.Event.ids : Event → List StateId
  | rule .. => []
  | newState id | accept id => [id]
  | edge origin target _ => [origin, target]

namespace SinglePass
open Compilation (Event)

/-- The states that are stored are allocated ones, at most `room` of them. -/
structure Held (room : Nat) (w : Wiring) : Prop where
  cursor : w.cursor < w.builder.size
  skippable : ∀ id ∈ w.skippable, id < w.builder.size
  within : w.builder.size ≤ room

/-- Besides, the pending state is one before the cursor. -/
structure Ordered (room : Nat) (w : Wiring) : Prop extends Held room w where
  pending : ∀ id ∈ w.pending, id < w.cursor

/-- No state accepts yet. -/
structure Building (room : Nat) (w : Wiring) : Prop extends Ordered room w where
  unmarked : ∀ id, w.builder.finish.accepts id = false

/-- What is stored and told is about allocated states. The pending one lies before the cursor, or is
the cursor that was left waiting right now. -/
structure Moment.Kept (room : Nat) (m : Moment) : Prop where
  held : Held room m.site.wiring
  pending : ∀ id ∈ m.site.wiring.pending, id ≤ m.site.wiring.cursor ∧
    (id = m.site.wiring.cursor →
      m.deed = .assign (.pending (some id)) ∨ m.deed = .assign (.skippable (some id)))
  named : ∀ event ∈ m.event?, ∀ id ∈ event.ids, id < m.site.wiring.builder.size

/-- A moment before the accepting states are marked. -/
structure Reading (room : Nat) (m : Moment) : Prop extends m.Kept room where
  unmarked : ∀ id, m.site.wiring.builder.finish.accepts id = false
  unaccepted : ∀ id, m.event? ≠ some (.accept id)

theorem Ordered.kept {room : Nat} {m : Moment} (ordered : Ordered room m.site.wiring)
    (named : ∀ event ∈ m.event?, ∀ id ∈ event.ids, id < m.site.wiring.builder.size) :
    m.Kept room where
  held := ordered.toHeld
  pending id waits :=
    have below := ordered.pending id waits
    ⟨Nat.le_of_lt below, fun same => absurd same (Nat.ne_of_lt below)⟩
  named := named

/-- A moment at which nothing is told. -/
theorem Building.silent {room : Nat} {m : Moment} (building : Building room m.site.wiring)
    (quiet : m.event? = none) : Reading room m :=
  ⟨building.kept (by simp [quiet]), building.unmarked, by simp [quiet]⟩

namespace Building
variable {room : Nat} {w : Wiring}

theorem record (building : Building room w) (event : Event) : Building room (w.record event) :=
  ⟨⟨⟨building.cursor, building.skippable, building.within⟩, building.pending⟩, building.unmarked⟩

/-- A moment at which anything but an accepting state is told. -/
theorem told {site : Site} (building : Building room site.wiring) {event : Event}
    (allocated : ∀ id ∈ event.ids, id < site.wiring.builder.size)
    (other : ∀ id, event ≠ .accept id) :
    Reading room ⟨site.rewire (·.record event), .tell event⟩ := by
  have recorded := building.record event
  refine ⟨recorded.kept ?_, recorded.unmarked, fun id same => other id (Option.some.inj same)⟩
  rintro told ⟨⟩
  exact allocated

theorem grown (building : Building room w) (space : w.builder.size < room) :
    Building room { w with builder := w.builder.addState.2 } where
  cursor := by
    rw [Graph.Builder.size_addState]
    exact Nat.lt_succ_of_lt building.cursor
  pending := building.pending
  skippable id skips := by
    rw [Graph.Builder.size_addState]
    exact Nat.lt_succ_of_lt (building.skippable id skips)
  within := by
    rw [Graph.Builder.size_addState]
    exact space
  unmarked id := by
    rw [Graph.accepts, Graph.Builder.get?_finish_addState]
    split
    · rfl
    · exact building.unmarked id

theorem connected (building : Building room w) (origin target : StateId) (symbols : SymbolSet) :
    Building room (w.connected origin target symbols) where
  cursor := by
    rw [Wiring.builder_connected, Graph.Builder.size_extended]
    exact building.cursor
  pending := building.pending
  skippable id skips := by
    rw [Wiring.builder_connected, Graph.Builder.size_extended]
    exact building.skippable id skips
  within := by
    rw [Wiring.builder_connected, Graph.Builder.size_extended]
    exact building.within
  unmarked id := by
    rw [Wiring.builder_connected, Graph.Builder.accepts_finish_extended]
    exact building.unmarked id

theorem connectedFrom? (building : Building room w) (from? : Option StateId) (target : StateId)
    (symbols : SymbolSet) : Building room (w.connectedFrom? from? target symbols) := by
  cases from? with
  | none => exact building
  | some id => exact building.connected id target symbols

theorem pending_lt (building : Building room w) : ∀ id ∈ w.pending, id < w.builder.size :=
  fun id waits => Nat.lt_trans (building.pending id waits) building.cursor

/-- The registers may be set to allocated states, the pending one below the cursor. -/
theorem moved (building : Building room w) {target : StateId} (allocated : target < w.builder.size)
    {pending skippable : Option StateId} (waiting : ∀ id ∈ pending, id < target)
    (skipping : ∀ id ∈ skippable, id < w.builder.size) :
    Building room { w with cursor := target, pending, skippable } :=
  ⟨⟨⟨allocated, skipping, building.within⟩, waiting⟩, building.unmarked⟩

theorem cleared (building : Building room w) : Building room { w with skippable := none } :=
  building.moved building.cursor building.pending (by simp)

/-- The cursor may be left waiting. It is pending then, and nothing can be built before it moves
on. -/
theorem leftWaiting (building : Building room w) (unread : List Token) {a : Assignment}
    {skippable : Option StateId} (skipping : ∀ id ∈ skippable, id < w.builder.size)
    (now : a = .pending (some w.cursor) ∨ a = .skippable (some w.cursor)) :
    Reading room
      ⟨⟨unread, { w with pending := some w.cursor, skippable }⟩, .assign a⟩ where
  held := ⟨building.cursor, skipping, building.within⟩
  pending := by
    rintro id ⟨⟩
    exact ⟨Nat.le_refl _, fun _ => now.imp (congrArg Deed.assign) (congrArg Deed.assign)⟩
  named := by simp [Moment.event?]
  unmarked := building.unmarked
  unaccepted := by simp [Moment.event?]

end Building

section wiring
variable {room origin target : Nat} {symbols : SymbolSet} {site : Site}

theorem visits_connect (building : Building room site.wiring)
    (allocatedTarget : target < site.wiring.builder.size)
    (allocatedOrigin : origin < site.wiring.builder.size) :
    Visits (Reading room) (fun _ => connect origin target symbols) site (.ok ())
      (site.rewire (·.connected origin target symbols)) := by
  have made := Graph.Builder.connect_eq_ok allocatedTarget allocatedOrigin symbols
  have connected := building.connected origin target symbols
  have allocated : ∀ id ∈ (Event.edge origin target symbols).ids,
      id < site.wiring.builder.size := by
    simpa [Event.ids] using ⟨allocatedOrigin, allocatedTarget⟩
  have told := building.told allocated (by simp)
  unfold connect
  refine Visits.bind (Visits.tell told) (Visits.bind (Visits.wiring _) ?_)
  change Visits _ (fun _ => build (site.wiring.builder.connect origin target symbols)) _ _ _
  rw [made]
  exact Visits.build (connected.silent rfl)

theorem visits_connectFrom? (building : Building room site.wiring) {from? : Option StateId}
    (allocatedTarget : target < site.wiring.builder.size)
    (allocatedOrigin : ∀ id ∈ from?, id < site.wiring.builder.size) :
    Visits (Reading room) (fun _ => connectFrom? from? target symbols) site (.ok ())
      (site.rewire (·.connectedFrom? from? target symbols)) := by
  cases from? with
  | none => exact Visits.pure () site
  | some id => exact visits_connect building allocatedTarget (allocatedOrigin id rfl)

theorem visits_addState (building : Building room site.wiring)
    (space : site.wiring.builder.size < room) :
    Visits (Reading room) (fun _ => addState) site (.ok site.wiring.builder.size)
      (site.rewire (·.addState.2)) := by
  have grown := building.grown space
  have allocated : ∀ id ∈ (Event.newState site.wiring.builder.size).ids,
      id < site.wiring.builder.addState.2.size := by simp [Event.ids]
  have told := @Building.told room (site.rewire fun w => { w with builder := w.builder.addState.2 })
    grown _ allocated (by simp)
  unfold addState
  refine Visits.bind (Visits.wiring _) (Visits.bind (Visits.build (grown.silent rfl)) ?_)
  exact Visits.bind (Visits.tell told) (Visits.pure _ _)

theorem visits_starred (building : Building room site.wiring) :
    Visits (Reading room) (fun _ => starred symbols) site (.ok ())
      (site.rewire fun w => w.connected w.cursor w.cursor symbols) := by
  unfold starred
  exact Visits.bind (Visits.wiring _) (visits_connect building building.cursor building.cursor)

theorem visits_repeated (building : Building room site.wiring)
    (space : site.wiring.builder.size < room) :
    let next := { site.wiring.looping symbols with cursor := site.wiring.builder.size }
    Building room next ∧
      Visits (Reading room) (fun _ => repeated symbols) site (.ok ())
        { site with wiring := next } := by
  let new : StateId := site.wiring.builder.size
  have grown := (building.grown space).record (.newState new)
  have looped := grown.connected new new symbols
  have linked := looped.connected site.wiring.cursor new symbols
  have allocated : new < site.wiring.addState.2.builder.size := by simp [new]
  have allocatedLooped :
      new < (site.wiring.addState.2.connected new new symbols).builder.size := by simp [new]
  have allocatedLast : new < (site.wiring.looping symbols).builder.size := by
    simp [Wiring.looping, new]
  have last := linked.moved allocatedLast building.pending_lt linked.skippable
  refine ⟨last, ?_⟩
  unfold repeated
  refine Visits.bind (Visits.wiring _) (Visits.bind (visits_addState building space) ?_)
  refine Visits.bind (visits_connect grown allocated allocated) ?_
  refine Visits.bind (visits_connect looped allocatedLooped
    (Nat.lt_trans building.cursor allocatedLooped)) ?_
  exact Visits.assign (last.silent rfl)

/-- Behind the edges of an element the cursor is left waiting, if the element is optional, and only
then moves on. -/
theorem visits_moveOn (building : Building room site.wiring)
    (untied : site.wiring.pending = none) (cleared : site.wiring.skippable = none)
    (allocated : target < site.wiring.builder.size) (onward : site.wiring.cursor < target)
    (optional : Bool) :
    let waiting := if optional then some site.wiring.cursor else none
    let next := { site.wiring with cursor := target, pending := waiting, skippable := waiting }
    Building room next ∧
      Visits (Reading room)
        (fun _ => do leaveWaiting optional site.wiring.cursor; assign (.cursor target)) site
        (.ok ()) { site with wiring := next } := by
  cases optional with
  | false =>
    have last := @Building.moved room _ building target allocated none none (by simp) (by simp)
    have same : site.rewire (Assignment.cursor target).run =
        site.rewire fun w =>
          { w with cursor := target, pending := none, skippable := none } := by
      obtain ⟨unread, builder, cursor, pending, skippable, events⟩ := site
      obtain rfl : pending = none := untied
      obtain rfl : skippable = none := cleared
      rfl
    refine ⟨last, Visits.bind (Visits.pure () site) (Visits.ending (Visits.assign ?_) same)⟩
    rw [same]
    exact last.silent rfl
  | true =>
    have cursor : ∀ id ∈ some site.wiring.cursor, id < target := by simpa using onward
    have skipping : ∀ id ∈ some site.wiring.cursor, id < site.wiring.builder.size := by
      simpa using building.cursor
    have last := building.moved allocated cursor skipping
    have pending := building.leftWaiting site.unread building.skippable (.inl rfl)
    have skippable := building.leftWaiting site.unread skipping (.inr rfl)
    exact ⟨last, Visits.bind (Visits.bind (Visits.assign pending) (Visits.assign skippable))
      (Visits.assign (last.silent rfl))⟩

/-- The pending state is taken out before the bypass edge is made. -/
theorem visits_single (building : Building room site.wiring)
    (cleared : site.wiring.skippable = none) (space : site.wiring.builder.size < room)
    (symbols : SymbolSet) (optional : Bool) :
    let waiting := if optional then some site.wiring.cursor else none
    let next := { site.wiring.bridged symbols with
      cursor := site.wiring.builder.size
      pending := waiting
      skippable := waiting }
    Building room next ∧
      Visits (Reading room) (fun _ => single symbols optional) site (.ok ())
        { site with wiring := next } := by
  let new : StateId := site.wiring.builder.size
  let taken : Wiring := { site.wiring.addState.2 with pending := none }
  have grown := (building.grown space).record (.newState new)
  have untied : Building room taken := grown.moved grown.cursor (by simp) grown.skippable
  have bypassed := untied.connectedFrom? site.wiring.pending new symbols
  have linked := bypassed.connected site.wiring.cursor new symbols
  have allocated : new < taken.builder.size := by simp [taken, new]
  have allocatedBypassed :
      new < (taken.connectedFrom? site.wiring.pending new symbols).builder.size := by
    simp [taken, new]
  have allocatedLast : new < (site.wiring.bridged symbols).builder.size := by
    simp [Wiring.bridged, new]
  have below : ∀ id ∈ site.wiring.pending, id < taken.builder.size := fun id waits =>
    Nat.lt_trans (building.pending_lt id waits) allocated
  have crossed := @visits_connect room site.wiring.cursor new symbols ⟨site.unread, _⟩ bypassed
    allocatedBypassed (Nat.lt_trans building.cursor allocatedBypassed)
  -- with the register emptied first, the edges are those of `bridged` all the same
  have same := Wiring.bridged_of_taken site.wiring cleared symbols
  rw [same] at linked
  obtain ⟨last, onward⟩ :=
    @visits_moveOn room new ⟨site.unread, _⟩ linked rfl rfl allocatedLast building.cursor optional
  refine ⟨last, ?_⟩
  unfold single
  refine Visits.bind (Visits.wiring _) (Visits.bind (visits_addState building space) ?_)
  refine Visits.bind (Visits.wiring _) (Visits.bind (Visits.assign (untied.silent rfl)) ?_)
  refine Visits.bind (visits_connectFrom? untied allocated below) ?_
  exact Visits.bind (crossed.ending (congrArg (Site.mk site.unread) same)) onward

/-- The same where the skippable state was forgotten before, as it is set anew. -/
theorem exists_visits_single (building : Building room site.wiring)
    (space : site.wiring.builder.size < room) (symbols : SymbolSet) (optional : Bool) :
    ∃ next, site.wiring.single symbols optional = .ok next ∧
      next.builder.size ≤ site.wiring.builder.size + 1 ∧ Building room next ∧
      Visits (Reading room) (fun _ => single symbols optional)
        (site.rewire (Assignment.skippable none).run) (.ok ())
        { site with wiring := next } := by
  have wired := Wiring.single_eq_ok building.cursor building.pending_lt symbols optional
  have same := congrArg (fun w : Wiring =>
    { w with
      cursor := site.wiring.builder.size
      pending := if optional then some site.wiring.cursor else none
      skippable := if optional then some site.wiring.cursor else none })
    (Wiring.bridged_of_skippable site.wiring symbols)
  have cleared : Building room (site.rewire (Assignment.skippable none).run).wiring :=
    building.cleared
  obtain ⟨last, visits⟩ := visits_single cleared rfl space symbols optional
  refine ⟨_, wired, by simp [Wiring.bridged], same ▸ last, ?_⟩
  exact visits.ending (congrArg (Site.mk site.unread) same)

/-- An element is wired as it is apart from a pass, with at most one new state. -/
theorem visits_wire (site : Site) (building : Building room site.wiring)
    (space : site.wiring.builder.size < room) (symbols : SymbolSet) (lookahead : Token.Kind) :
    ∃ next, site.wiring.element symbols lookahead = .ok next ∧
      next.builder.size ≤ site.wiring.builder.size + 1 ∧ Building room next ∧
      Visits (Reading room) (fun _ => wire symbols lookahead) site (.ok ())
        { site with wiring := next } := by
  let cleared := site.rewire (Assignment.skippable none).run
  have clear : Building room cleared.wiring := building.cleared
  have begun : Visits (Reading room) (fun _ => assign (.skippable none)) site (.ok ()) cleared :=
    Visits.assign (clear.silent rfl)
  unfold wire
  cases lookahead with
  | star =>
    exact ⟨_, Wiring.starred_eq_ok building.cursor symbols, by simp,
      clear.connected site.wiring.cursor site.wiring.cursor symbols,
      Visits.bind begun (visits_starred clear)⟩
  | plus =>
    obtain ⟨last, visits⟩ := visits_repeated clear space
    exact ⟨_, Wiring.repeated_eq_ok building.cursor symbols, by simp [Wiring.looping], last,
      Visits.bind begun visits⟩
  | question =>
    obtain ⟨next, wired, size, last, visits⟩ := exists_visits_single building space symbols true
    exact ⟨next, wired, size, last, Visits.bind begun visits⟩
  | _ =>
    obtain ⟨next, wired, size, last, visits⟩ := exists_visits_single building space symbols false
    exact ⟨next, wired, size, last, Visits.bind begun visits⟩

end wiring

section reading
variable {room : Nat} {site : Site}

theorem visits_take (building : Building room site.wiring) (s : Parse.Step)
    (space : site.wiring.builder.size + s.item?.toList.length ≤ room) (rest : List Token) :
    ∃ last, site.wiring.step s = .ok last.wiring ∧
      (last.unread = site.unread ∨ last.unread = rest) ∧
      last.wiring.builder.size ≤ site.wiring.builder.size + s.item?.toList.length ∧
      Building room last.wiring ∧
      Visits (Reading room) (fun _ => take rest s) site (.ok ()) last := by
  cases s with
  | rule rule lookahead =>
    have told := @Building.told room site building (.rule rule lookahead) (by simp [Event.ids])
      (by simp)
    exact ⟨site.rewire (·.record (.rule rule lookahead)), rfl, .inl rfl, Nat.le_refl _,
      building.record _, Visits.tell told⟩
  | element symbols lookahead =>
    obtain ⟨next, wired, size, last, visits⟩ :=
      visits_wire { site with unread := rest } building space symbols lookahead
    have passed : Reading room ⟨{ site with unread := rest }, .advance⟩ := building.silent rfl
    exact ⟨{ unread := rest, wiring := next }, wired, .inr rfl, size, last,
      Visits.bind (Visits.advance passed) visits⟩

/-- Steps are taken without a fault, with at most one new state for each item. -/
theorem visits_takeAll (building : Building room site.wiring) (steps : List Parse.Step)
    (space : site.wiring.builder.size + (steps.filterMap Parse.Step.item?).length ≤ room)
    (rest : List Token) :
    ∃ last, site.wiring.steps steps = (last.wiring, none) ∧
      (last.unread = site.unread ∨ last.unread = rest) ∧
      last.wiring.builder.size ≤
        site.wiring.builder.size + (steps.filterMap Parse.Step.item?).length ∧
      Building room last.wiring ∧
      Visits (Reading room) (fun _ => takeAll rest steps) site (.ok ()) last := by
  induction steps generalizing site with
  | nil => exact ⟨site, rfl, .inl rfl, Nat.le_refl _, building, Visits.pure () site⟩
  | cons s later ih =>
    have count : ((s :: later).filterMap Parse.Step.item?).length =
        s.item?.toList.length + (later.filterMap Parse.Step.item?).length := by
      cases item : s.item? <;> simp [item, Nat.add_comm]
    rw [count] at space ⊢
    obtain ⟨mid, stepped, unreadMid, sizeMid, onward, visits⟩ :=
      visits_take building s (by omega) rest
    obtain ⟨last, ran, unreadLast, sizeLast, built, continued⟩ := ih onward (by omega)
    refine ⟨last, ?_, ?_, by omega, built, Visits.bind visits continued⟩
    · rw [Wiring.steps, stepped]
      exact ran
    · rcases unreadLast with same | passed
      · rw [same]
        exact unreadMid
      · exact .inr passed

/-- The reader goes through the tokens of a pass as apart from it. -/
theorem visits_readFrom (sourceEnd : Nat) (site : Site) (building : Building room site.wiring)
    {tokens : List Token} (space : site.wiring.builder.size + tokens.length ≤ room)
    (unread : site.unread = tokens) (place : Parse.Place) :
    ∃ last, site.wiring.steps (Parse.ofTokensFrom sourceEnd place tokens).steps =
        (last.wiring, none) ∧
      ((Parse.ofTokensFrom sourceEnd place tokens).failure = none → last.unread = []) ∧
      Building room last.wiring ∧
      Visits (Reading room) (fun _ => readFrom sourceEnd place tokens) site
        (verdict (Parse.ofTokensFrom sourceEnd place tokens).failure) last := by
  induction tokens generalizing site place with
  | nil =>
    have none := Parse.items_finish sourceEnd place
    obtain ⟨last, ran, done, _, built, visits⟩ :=
      visits_takeAll building (place.finish sourceEnd).steps (by simpa [none] using space) []
    refine ⟨last, ran, fun _ => ?_, built, Visits.bind visits (Visits.settle _ last)⟩
    rw [unread, or_self] at done
    exact done
  | cons t rest ih =>
    have single := Parse.length_items_read place t (Token.lookahead rest)
    rw [List.length_cons] at space
    obtain ⟨mid, ran, _, size, onward, visits⟩ := visits_takeAll building
      (place.read t (Token.lookahead rest)).steps (by omega) rest
    simp only [readFrom, Parse.ofTokensFrom]
    cases moved : place.read t (Token.lookahead rest) with
    | mk steps next =>
      simp only [moved] at ran visits size single ⊢
      cases next with
      | error diagnostic =>
        exact ⟨mid, ran, by simp, onward,
          Visits.bind visits (Visits.settle (some diagnostic) mid)⟩
      | ok next =>
        have passed : Reading room ⟨{ mid with unread := rest }, .advance⟩ := onward.silent rfl
        obtain ⟨last, ranLater, done, built, continued⟩ :=
          ih { mid with unread := rest } onward (by simp only; omega) rfl next
        refine ⟨last, (Wiring.steps_append ran _).trans ranLater, done, built, ?_⟩
        exact Visits.bind visits (Visits.bind (Visits.advance passed) continued)

end reading

/-- A moment while the accepting states are marked. -/
structure Marking (room : Nat) (m : Moment) : Prop extends m.Kept room where
  read : m.site.unread = []
  accepted : ∀ id, m.event? = some (.accept id) → m.site.wiring.builder.finish.accepts id

section marking
variable {room : Nat} {w : Wiring} {id : StateId} {site : Site}

theorem Ordered.accepting (ordered : Ordered room w) (id : StateId) :
    Ordered room { w with builder := w.builder.accepting id } where
  cursor := by
    rw [Graph.Builder.size_accepting]
    exact ordered.cursor
  skippable other skips := by
    rw [Graph.Builder.size_accepting]
    exact ordered.skippable other skips
  within := by
    rw [Graph.Builder.size_accepting]
    exact ordered.within
  pending := ordered.pending

theorem Ordered.marked (ordered : Ordered room w) (id : StateId) : Ordered room (w.marked id) :=
  let accepting := ordered.accepting id
  ⟨⟨accepting.cursor, accepting.skippable, accepting.within⟩, accepting.pending⟩

/-- A moment at which nothing is told. -/
theorem Ordered.silent {m : Moment} (ordered : Ordered room m.site.wiring)
    (read : m.site.unread = []) (quiet : m.event? = none) : Marking room m :=
  ⟨ordered.kept (by simp [quiet]), read, by simp [quiet]⟩

theorem visits_markAccept (ordered : Ordered room site.wiring) (read : site.unread = [])
    (allocated : id < site.wiring.builder.size) :
    Visits (Marking room) (fun _ => markAccept id) site (.ok ()) (site.rewire (·.marked id)) := by
  have made := Graph.Builder.markAccept_eq_ok allocated
  have told : Marking room ⟨site.rewire (·.marked id), .tell (.accept id)⟩ := by
    refine ⟨(ordered.marked id).kept ?_, read, ?_⟩
    · simpa [Moment.event?, Event.ids, Site.rewire] using allocated
    · rintro other ⟨⟩
      exact Graph.Builder.accepts_finish_accepting_self allocated
  unfold markAccept
  refine Visits.bind (Visits.wiring _) ?_
  rw [made]
  exact Visits.bind (Visits.build ((ordered.accepting id).silent read rfl)) (Visits.tell told)

/-- The accepting states are marked as they are apart from a pass. -/
theorem visits_finish (ordered : Ordered room site.wiring) (read : site.unread = []) :
    ∃ finished last, site.wiring.finish = .ok finished ∧
      last.wiring.events = finished.events ∧
      Visits (Marking room) (fun _ => finish) site (.ok finished.builder.finish) last := by
  have marked := ordered.marked site.wiring.cursor
  have cleared : Ordered room { site.wiring.marked site.wiring.cursor with skippable := none } :=
    ⟨⟨marked.cursor, by simp, marked.within⟩, marked.pending⟩
  have marking := Wiring.finish_eq_match ordered.cursor
  have begun {skipped : Option StateId} (same : site.wiring.skippable = skipped) {last : Site}
      {g : Graph} (continued : Visits (Marking room) (fun _ => markAccept? skipped)
        (site.rewire fun w => { w.marked w.cursor with skippable := none }) (.ok ()) last)
      (complete : last.wiring.builder.finish = g) :
      Visits (Marking room) (fun _ => finish) site (.ok g) last := by
    unfold finish
    refine Visits.bind (Visits.wiring _) ?_
    refine Visits.bind (visits_markAccept ordered read ordered.cursor) ?_
    refine Visits.bind (Visits.wiring _) ?_
    refine Visits.bind (Visits.assign (cleared.silent read rfl)) ?_
    subst same complete
    exact Visits.bind continued (Visits.bind (Visits.wiring _) (Visits.pure _ _))
  cases skipped : site.wiring.skippable with
  | none =>
    rw [skipped] at marking
    exact ⟨_, _, marking, rfl, begun skipped (Visits.pure () _) rfl⟩
  | some id =>
    have allocated : id < (site.wiring.marked site.wiring.cursor).builder.size := by
      simpa using ordered.skippable id skipped
    rw [skipped] at marking
    exact ⟨_, _, marking.trans (Wiring.markAccept_eq_ok allocated), rfl,
      begun skipped (visits_markAccept cleared read allocated) rfl⟩

end marking

/-- At any moment of a pass the states that are stored are allocated, and only where all tokens of a
pattern are read is a state marked, before that is told. -/
structure Moment.Safe (source : List Char) (m : Moment) : Prop
    extends m.Kept (source.length + 1) where
  marked : ∀ id, m.site.wiring.builder.finish.accepts id →
    m.site.unread = [] ∧ ∃ g, PatternGraph.compile source = .ok g
  accepted : ∀ id, m.event? = some (.accept id) → m.site.wiring.builder.finish.accepts id

theorem Moment.safe_of_reading {source : List Char} {m : Moment}
    (reading : Reading (source.length + 1) m) : m.Safe source where
  toKept := reading.toKept
  marked id marked := by simp [reading.unmarked id] at marked
  accepted id told := absurd told (reading.unaccepted id)

theorem Moment.safe_of_marking {source : List Char} {g : Graph} {m : Moment}
    (compiled : PatternGraph.compile source = .ok g) (marking : Marking (source.length + 1) m) :
    m.Safe source where
  toKept := marking.toKept
  marked _ _ := ⟨marking.read, g, compiled⟩
  accepted := marking.accepted

theorem building_new {room : Nat} (space : 0 < room) : Building room {} where
  cursor := Nat.zero_lt_one
  pending := by simp
  skippable := by simp
  within := space
  unmarked id := by cases id <;> rfl

theorem visits_compileTokens {source : List Char} {tokens : List Token}
    (read : Token.ofSource source = .ok tokens) :
    ∃ last, last.wiring.events.toList = (Compilation.ofSource source).events ∧
      Visits (Moment.Safe source)
        (fun _ => compileTokens (Text.byteLength source) tokens) ⟨tokens, {}⟩
        (PatternGraph.compile source) last := by
  have fresh : Building (source.length + 1) {} := building_new (Nat.succ_pos _)
  have begun : Visits (Reading (source.length + 1)) (fun _ => advance tokens) ⟨tokens, {}⟩
      (.ok ()) ⟨tokens, {}⟩ := Visits.advance (fresh.silent rfl)
  have length := Token.length_of_ofSourceFrom read
  obtain ⟨last, ran, done, building, visits⟩ :=
    visits_readFrom (Text.byteLength source) ⟨tokens, {}⟩ fresh
      (by rw [length, Nat.add_comm]; rfl) rfl .start
  rw [← Parse.ofTokens] at ran done visits
  have reading : ∀ m, Reading (source.length + 1) m → m.Safe source :=
    fun _ => Moment.safe_of_reading
  cases failed : (Parse.ofTokens (Text.byteLength source) tokens).failure with
  | some diagnostic =>
    have refused : PatternGraph.compile source = .error (.parse diagnostic) := by
      rw [compile_eq_of_tokens read, failed]
    rw [failed] at visits
    refine ⟨last, ?_, ?_⟩
    · simp only [Compilation.ofSource, read, Compilation.ofParse, ran, failed]
    · rw [refused]
      exact Visits.bind (begun.mono reading) (Visits.bind_error (visits.mono reading))
  | none =>
    obtain ⟨finished, ended, marked, events, marking⟩ :=
      visits_finish building.toOrdered (done failed)
    have compiled : PatternGraph.compile source = .ok finished.builder.finish := by
      rw [PatternGraph.compile, Compilation.ofSource, read]
      simp only [Compilation.ofParse, ran, failed, marked]
    rw [failed] at visits
    refine ⟨ended, ?_, ?_⟩
    · simp only [Compilation.ofSource, read, Compilation.ofParse, ran, failed, marked, events]
    · rw [compiled]
      refine Visits.bind (begun.mono reading) (Visits.bind (visits.mono reading) ?_)
      exact marking.mono fun m => Moment.safe_of_marking compiled

/-- Whoever listens, a pass gives what compiling gives, and what is shown are the same moments, with
the events of the compilation. -/
theorem exists_moments (source : List Char) :
    ∃ moments : List Moment, (∀ m ∈ moments, m.Safe source) ∧
      moments.filterMap (·.event?) = (Compilation.ofSource source).events ∧
      ∀ (σ : Type) (listen : σ → Moment → σ) (notes : σ),
        compile listen notes source =
          (PatternGraph.compile source, moments.foldl listen notes) := by
  cases read : Token.ofSource source with
  | error diagnostic =>
    refine ⟨[], by simp, by simp [Compilation.ofSource, read], fun σ listen notes => ?_⟩
    simp only [compile, PatternGraph.compile, Compilation.ofSource, read]
    rfl
  | ok tokens =>
    obtain ⟨last, recorded, moments, safe, _, told, ran⟩ := visits_compileTokens read
    refine ⟨moments, safe, ?_, fun σ listen notes => ?_⟩
    · exact told.symm.trans recorded
    · simp only [compile, read, ran]

/-- All that is shown in a pass over a source, in order. -/
def moments (source : List Char) : List Moment :=
  (compile (fun seen m => seen ++ [m]) [] source).2

theorem safe_of_mem_moments {source : List Char} {m : Moment} (member : m ∈ moments source) :
    m.Safe source := by
  obtain ⟨shown, safe, _, ran⟩ := exists_moments source
  have same : moments source = shown := by
    rw [moments, ran]
    simp [← List.flatMap_def]
  exact safe m (same ▸ member)

/-- No text reaches a fault. At every moment of a pass over a text of fewer than `2 ^ 32 - 1`
characters there is a number for one more state, the cursor and the skippable state are allocated,
each event is about allocated states, and a state is marked only where all tokens of a pattern are
read. The pending state is at most the cursor. It is below the cursor whenever an event is told or
the builder is called, and is the cursor only where that was left waiting and has yet to move on. So
no operation on the builder stops the pass, whoever listens, and what is cut out of the text are
characters of it. -/
theorem short_source_never_faults {source : List Char} (short : source.length < 2 ^ 32 - 1) :
    (∀ m ∈ moments source,
      let w := m.site.wiring
      w.builder.size < 2 ^ 32 ∧ w.cursor < w.builder.size ∧
        (∀ id ∈ w.pending, id ≤ w.cursor ∧
          (id = w.cursor →
            m.deed = .assign (.pending (some id)) ∨ m.deed = .assign (.skippable (some id)))) ∧
        (∀ id ∈ w.skippable, id < w.builder.size) ∧
        (∀ event ∈ m.event?, ∀ id ∈ event.ids, id < w.builder.size) ∧
        ∀ id, w.builder.finish.accepts id →
          m.site.unread = [] ∧ ∃ g, PatternGraph.compile source = .ok g) ∧
      (∀ (σ : Type) (listen : σ → Moment → σ) (notes : σ),
        (compile listen notes source).1 = PatternGraph.compile source) ∧
      (∀ fault, PatternGraph.compile source ≠ .error (.internal fault)) ∧
      match Token.ofSource source with
      | .ok tokens => ∀ t ∈ tokens, Text.slice? source t.span = some [t.char]
      | .error diagnostic => ∃ run, Text.slice? source diagnostic.range = some run ∧
          diagnostic = Token.unrecognized diagnostic.range.start run := by
  refine ⟨fun m member => ?_, fun σ listen notes => ?_, compile_ne_internal source, ?_⟩
  · have safe := safe_of_mem_moments member
    have within := safe.held.within
    have numbered : m.site.wiring.builder.size < 2 ^ 32 := by omega
    exact ⟨numbered, safe.held.cursor, safe.pending, safe.held.skippable, safe.named, safe.marked⟩
  · obtain ⟨_, _, _, ran⟩ := exists_moments source
    rw [ran]
  · cases read : Token.ofSource source with
    | ok tokens => exact fun t member => Token.slice?_span read member
    | error diagnostic => exact Token.slice?_range read

/-- A class left open behind an optional element: the pass stops with nothing marked. -/
theorem short_source_never_faults_unclosed :
    "a?[b".toList.length < 2 ^ 32 - 1 ∧ (moments "a?[b".toList).length = 22 ∧
      ∀ m ∈ moments "a?[b".toList,
        m.site.wiring.cursor < m.site.wiring.builder.size ∧
          (∀ id ∈ m.site.wiring.pending, id ≤ m.site.wiring.cursor) ∧
          ∀ id, ¬ m.site.wiring.builder.finish.accepts id := by
  have short : "a?[b".toList.length < 2 ^ 32 - 1 := by decide
  refine ⟨short, by decide +kernel, fun m member => ?_⟩
  obtain ⟨_, allocated, waiting, _, _, marked⟩ := (short_source_never_faults short).1 m member
  refine ⟨allocated, fun id waits => (waiting id waits).1, fun id accepted => ?_⟩
  obtain ⟨_, g, compiled⟩ := marked id accepted
  have refused : (PatternGraph.compile "a?[b".toList).toOption = none := by decide
  rw [compiled] at refused
  cases refused

/-- The pending state is not below the cursor all the time. In `a?` the first state is left waiting
while it is still the cursor, and the second state is there already. -/
theorem optional_waits_at_cursor :
    (∃ m ∈ moments "a?".toList, m.site.wiring.builder.size = 2 ∧ m.site.wiring.cursor = 0 ∧
        m.site.wiring.pending = some 0) ∧
      ¬ ∀ source : List Char, source.length < 2 ^ 32 - 1 →
        ∀ m ∈ moments source, ∀ id ∈ m.site.wiring.pending, id < m.site.wiring.cursor := by
  have shown : ∃ m ∈ moments "a?".toList, m.site.wiring.builder.size = 2 ∧
      m.site.wiring.cursor = 0 ∧ m.site.wiring.pending = some 0 := by decide +kernel
  refine ⟨shown, fun below => ?_⟩
  obtain ⟨m, member, _, cursor, waits⟩ := shown
  have before := below _ (by decide) m member 0 waits
  rw [cursor] at before
  exact Nat.lt_irrefl 0 before

end SinglePass

end PatternGraph
