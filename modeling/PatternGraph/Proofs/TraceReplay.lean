import PatternGraph.Proofs.DumpReading
import PatternGraph.Proofs.PassSafety

/-!
# The trace of a compilation rebuilds its graph

What a compilation tells is all that it does: done again on a fresh builder, it leads to the same
builder, with the same numbers for the states. This holds after every step, so also where the
compilation stops with an error. A tracer has no influence on what is told. One that prints the
events writes a rule as no other line, so the lines of the lowest level are those of the others
without the rules.
-/
namespace PatternGraph
open Compilation (Event)

/-- To note a line for some events is to fold them into the lines of these events. -/
theorem foldl_append_line {ε : Type} (shown : ε → Bool) (line : ε → String) (lines : List String)
    (events : List ε) :
    events.foldl (fun lines event => if shown event then lines ++ [line event] else lines) lines =
      lines ++ (events.filter shown).map line := by
  induction events generalizing lines with
  | nil => simp
  | cons event later ih =>
    rw [List.foldl_cons, ih]
    cases kept : shown event <;> simp [kept]

namespace Graph.Builder

/-- Why an event cannot be done again. -/
inductive Misfit where
  | fault (fault : Fault)
  /-- Another number was told for the new state. -/
  | misnumbered (told given : StateId)
  deriving DecidableEq

/-- Do on a builder what an event tells. -/
def replayEvent (b : Builder) : Event → Except Misfit Builder
  | .rule .. => .ok b
  | .newState id =>
    let (given, next) := b.addState
    if given = id then .ok next else .error (.misnumbered id given)
  | .edge origin target symbols => (b.connect origin target symbols).mapError .fault
  | .accept id => (b.markAccept id).mapError .fault

/-- Do one event after the other. -/
def replay (b : Builder) : List Event → Except Misfit Builder
  | [] => .ok b
  | event :: later =>
    match b.replayEvent event with
    | .error misfit => .error misfit
    | .ok next => next.replay later

theorem replay_append {b mid : Builder} {events : List Event}
    (replayed : b.replay events = .ok mid) (more : List Event) :
    b.replay (events ++ more) = mid.replay more := by
  induction events generalizing b with
  | nil =>
    cases replayed
    rfl
  | cons event later ih =>
    rw [replay] at replayed
    rw [List.cons_append, replay]
    cases done : b.replayEvent event with
    | error misfit => simp [done] at replayed
    | ok next =>
      simp only [done] at replayed ⊢
      exact ih replayed

end Graph.Builder

namespace Wiring
open PatternGraph.Graph (Builder)
variable {w next : Wiring} {symbols : SymbolSet}

/-- The events on record lead from a fresh builder to the one there is. -/
def Rebuilds (w : Wiring) : Prop := Builder.new.replay w.events.toList = .ok w.builder

theorem exists_of_bind_eq_ok {ε α β : Type} {x : Except ε α} {f : α → Except ε β} {b : β}
    (done : x >>= f = .ok b) : ∃ a, x = .ok a ∧ f a = .ok b := by
  cases x with
  | error e => cases done
  | ok a => exact ⟨a, rfl, done⟩

namespace Rebuilds

theorem record {event : Event} {b : Builder} (rebuilds : w.Rebuilds)
    (does : w.builder.replayEvent event = .ok b) :
    ({ w with builder := b }.record event).Rebuilds := by
  have last : w.builder.replay [event] = .ok b := by rw [Builder.replay, does]; rfl
  rw [Rebuilds, Wiring.record, Array.toList_push, Builder.replay_append rebuilds]
  exact last

theorem addState (rebuilds : w.Rebuilds) : w.addState.2.Rebuilds :=
  rebuilds.record (if_pos rfl)

theorem connect (rebuilds : w.Rebuilds) {origin target : StateId}
    (connected : w.connect origin target symbols = .ok next) : next.Rebuilds := by
  obtain ⟨b, made, recorded⟩ := exists_of_bind_eq_ok connected
  cases recorded
  exact rebuilds.record (by rw [Builder.replayEvent, made]; rfl)

theorem connectFrom? (rebuilds : w.Rebuilds) {from? : Option StateId} {target : StateId}
    (connected : w.connectFrom? from? target symbols = .ok next) : next.Rebuilds := by
  cases from? with
  | none =>
    cases connected
    exact rebuilds
  | some origin => exact rebuilds.connect connected

theorem markAccept (rebuilds : w.Rebuilds) {id : StateId} (marked : w.markAccept id = .ok next) :
    next.Rebuilds := by
  obtain ⟨b, made, recorded⟩ := exists_of_bind_eq_ok marked
  cases recorded
  exact rebuilds.record (by rw [Builder.replayEvent, made]; rfl)

theorem starred (rebuilds : w.Rebuilds) (wired : w.starred symbols = .ok next) :
    next.Rebuilds := by
  obtain ⟨looped, loop, settled⟩ := exists_of_bind_eq_ok wired
  cases settled
  have last := rebuilds.connect loop
  exact last

theorem repeated (rebuilds : w.Rebuilds) (wired : w.repeated symbols = .ok next) :
    next.Rebuilds := by
  obtain ⟨looped, loop, linking⟩ := exists_of_bind_eq_ok wired
  obtain ⟨linked, link, settled⟩ := exists_of_bind_eq_ok linking
  cases settled
  have last := (rebuilds.addState.connect loop).connect link
  exact last

theorem single (rebuilds : w.Rebuilds) {optional : Bool}
    (wired : w.single symbols optional = .ok next) : next.Rebuilds := by
  obtain ⟨bypassed, bypass, linking⟩ := exists_of_bind_eq_ok wired
  obtain ⟨linked, link, settled⟩ := exists_of_bind_eq_ok linking
  cases settled
  have last := (rebuilds.addState.connectFrom? bypass).connect link
  exact last

theorem step (rebuilds : w.Rebuilds) {s : Parse.Step} (stepped : w.step s = .ok next) :
    next.Rebuilds := by
  cases s with
  | rule rule lookahead =>
    cases stepped
    exact rebuilds.record rfl
  | element symbols lookahead =>
    cases lookahead with
    | star => exact rebuilds.starred stepped
    | plus => exact rebuilds.repeated stepped
    | _ => exact rebuilds.single stepped

theorem steps (rebuilds : w.Rebuilds) {steps : List Parse.Step} {fault? : Option Fault}
    (ran : w.steps steps = (next, fault?)) : next.Rebuilds := by
  induction steps generalizing w with
  | nil =>
    cases ran
    exact rebuilds
  | cons s later ih =>
    rw [Wiring.steps] at ran
    cases stepped : w.step s with
    | error fault =>
      simp only [stepped] at ran
      cases ran
      exact rebuilds
    | ok mid =>
      simp only [stepped] at ran
      exact ih (rebuilds.step stepped) ran

theorem finish (rebuilds : w.Rebuilds) (finished : w.finish = .ok next) : next.Rebuilds := by
  obtain ⟨marked, first, rest⟩ := exists_of_bind_eq_ok finished
  have afterFirst := rebuilds.markAccept first
  cases skipped : w.skippable with
  | none =>
    rw [skipped] at rest
    cases rest
    exact afterFirst
  | some id =>
    rw [skipped] at rest
    exact afterFirst.markAccept rest

end Rebuilds

end Wiring

namespace Compilation
open PatternGraph.Graph (Builder)

/-- The events of a compilation can be done again, and lead to its graph if it has one. -/
theorem exists_replay (source : List Char) :
    ∃ b, Builder.new.replay (ofSource source).events = .ok b ∧
      ∀ g, compile source = .ok g → b.finish = g := by
  cases read : Token.ofSource source with
  | error diagnostic =>
    refine ⟨.new, by simp [ofSource, read, Builder.replay], fun g compiled => ?_⟩
    simp [compile, ofSource, read] at compiled
  | ok tokens =>
    have fresh : ({} : Wiring).Rebuilds := rfl
    simp only [compile, ofSource, read, ofParse]
    cases ran : ({} : Wiring).steps (Parse.ofTokens (Text.byteLength source) tokens).steps with
    | mk w fault? =>
      have rebuilds := fresh.steps ran
      cases fault? with
      | some fault => exact ⟨w.builder, rebuilds, by simp⟩
      | none =>
        cases (Parse.ofTokens (Text.byteLength source) tokens).failure with
        | some diagnostic => exact ⟨w.builder, rebuilds, by simp⟩
        | none =>
          cases finished : w.finish with
          | error fault =>
            simp only [finished]
            exact ⟨w.builder, rebuilds, by simp⟩
          | ok last =>
            simp only [finished]
            exact ⟨last.builder, rebuilds.finish finished, by simp⟩

/-- An accepting state is told of a text that compiles only. -/
theorem compiles_of_accept_mem {source : List Char} {id : StateId}
    (told : Event.accept id ∈ (ofSource source).events) : ∃ g, compile source = .ok g := by
  obtain ⟨moments, safe, events, _⟩ := SinglePass.exists_moments source
  rw [← events] at told
  obtain ⟨m, member, event⟩ := List.mem_filterMap.1 told
  have marked := (safe m member).accepted id event
  exact ((safe m member).marked id marked).2

/-- Hear what is told at a moment, if anything. -/
def heard {σ : Type} (hear : σ → Event → σ) (notes : σ) (m : SinglePass.Moment) : σ :=
  match m.event? with
  | some event => hear notes event
  | none => notes

/-- Compile with a tracer that is told the events and nothing else. -/
def told {σ : Type} (hear : σ → Event → σ) (notes : σ) (source : List Char) :
    Except CompileError Graph × σ :=
  SinglePass.compile (heard hear) notes source

theorem foldl_heard {σ : Type} (hear : σ → Event → σ) (notes : σ)
    (moments : List SinglePass.Moment) :
    moments.foldl (heard hear) notes = (moments.filterMap (·.event?)).foldl hear notes := by
  induction moments generalizing notes with
  | nil => rfl
  | cons m later ih =>
    rw [List.foldl_cons, ih, heard]
    cases event : m.event? <;> simp [event]

/-- A tracer hears the events of the compilation and has no influence on its result. -/
theorem told_eq {σ : Type} (hear : σ → Event → σ) (notes : σ) (source : List Char) :
    told hear notes source = (compile source, (ofSource source).events.foldl hear notes) := by
  obtain ⟨moments, _, events, ran⟩ := SinglePass.exists_moments source
  rw [told, ran, foldl_heard, events]

/-- Note the line of an event, if events of its kind are shown. -/
def print (verbosity : Verbosity) (palette : Palette) (lines : List String) (event : Event) :
    List String :=
  if event.shownAt verbosity then lines ++ [palette.paint event.fragments] else lines

/-- The lines that a printing tracer has at the end. -/
def printed (verbosity : Verbosity) (palette : Palette) (source : List Char) : List String :=
  (told (print verbosity palette) [] source).2

/-- A printing tracer has the lines of the trace. -/
theorem printed_eq_trace (verbosity : Verbosity) (palette : Palette) (source : List Char) :
    printed verbosity palette source = (ofSource source).trace verbosity palette := by
  rw [printed, told_eq]
  exact foldl_append_line (Event.shownAt verbosity) (palette.paint ∘ Event.fragments) [] _

namespace Event

def isRule : Event → Bool
  | rule .. => true
  | newState _ | edge .. | accept _ => false

def rules : List Rule :=
  [.pattern, .atom, .atomSuffix, .run, .quantifier, .charClass, .listBody]

/-- The line is one that is written where a rule is entered. -/
def isRuleLine (palette : Palette) (line : String) : Bool :=
  rules.any fun r => Token.Kind.all.any fun lookahead =>
    line = palette.paint (rule r lookahead).fragments

theorem isRuleLine_rule (palette : Palette) (r : Rule) (lookahead : Token.Kind) :
    isRuleLine palette (palette.paint (rule r lookahead).fragments) := by
  have known : r ∈ rules := by cases r <;> decide
  have kind : lookahead ∈ Token.Kind.all := by cases lookahead <;> decide
  simp only [isRuleLine, List.any_eq_true, decide_eq_true_eq]
  exact ⟨r, known, lookahead, kind, rfl⟩

/-- The characters that the number of a state or the display of a symbol set ends in. -/
def isClosing (c : Char) : Bool := c.isDigit || c = '\'' || c = ']'

theorem exists_last_of_kind (kind : Token.Kind) :
    ∃ body c, kind.name.toList = body ++ [c] ∧ isClosing c = false := by
  have last : kind.name.toList.getLast?.any (!isClosing ·) := by cases kind <;> decide
  obtain ⟨c, held, letter⟩ := (Option.any_eq_true ..).1 last
  obtain ⟨body, spelled⟩ := List.getLast?_eq_some_iff.1 held
  exact ⟨body, c, spelled, by simpa using letter⟩

theorem exists_last_of_name (id : StateId) :
    ∃ body c, (StateId.name id).toList = body ++ [c] ∧ isClosing c := by
  have nonempty : Nat.toDigits 10 id ≠ [] := by simp
  have digit := StateId.isDigit_of_mem_digits (List.getLast_mem nonempty)
  refine ⟨'S' :: (Nat.toDigits 10 id).dropLast, (Nat.toDigits 10 id).getLast nonempty, ?_, ?_⟩
  · rw [StateId.toList_name, List.cons_append, List.dropLast_append_getLast]
  · simp [isClosing, digit]

theorem exists_last_of_display (s : SymbolSet) :
    ∃ body c, s.display = body ++ [c] ∧ isClosing c := by
  rw [SymbolSet.display]
  split
  · exact ⟨_, '\'', rfl, by decide⟩
  · exact ⟨_, ']', rfl, by decide⟩

/-- What stands right before the code that switches the last ink off tells rules from the rest. -/
theorem exists_paint_eq (palette : Palette) (event : Event) :
    ∃ front c, (palette.paint event.fragments).toList = front ++ c :: palette.reset.toList ∧
      isClosing c = !event.isRule := by
  cases event with
  | rule r lookahead =>
    obtain ⟨body, c, spelled, letter⟩ := exists_last_of_kind lookahead
    let padding := String.ofList (List.replicate (ruleColumn - r.name.length) ' ')
    have whole : (r.name ++ padding ++ " " ++ lookahead.name).toList =
        (r.name ++ padding ++ " ").toList ++ body ++ [c] := by
      rw [String.toList_append, spelled, List.append_assoc]
    obtain ⟨front, painted⟩ := palette.exists_paint_inked [.plain "  "] .dim whole
    exact ⟨front, c, painted, letter⟩
  | newState id =>
    obtain ⟨body, c, spelled, digit⟩ := exists_last_of_name id
    obtain ⟨front, painted⟩ := palette.exists_paint_inked [.plain "  new    "] .blue spelled
    exact ⟨front, c, painted, digit⟩
  | edge origin target symbols =>
    obtain ⟨body, c, spelled, sign⟩ := exists_last_of_display symbols
    obtain ⟨front, painted⟩ := palette.exists_paint_inked
      [.plain "  edge   ", origin.fragment, .plain " -> ", target.fragment, .plain " on "] .green
      ((String.toList_ofList).trans spelled)
    exact ⟨front, c, painted, sign⟩
  | accept id =>
    obtain ⟨body, c, spelled, digit⟩ := exists_last_of_name id
    obtain ⟨front, painted⟩ := palette.exists_paint_inked [.plain "  accept "] .blue spelled
    exact ⟨front, c, painted, digit⟩

/-- The line of an event is a rule line exactly if the event is the entry of a rule, whatever the
codes of the inks. -/
theorem isRuleLine_paint (palette : Palette) (event : Event) :
    isRuleLine palette (palette.paint event.fragments) = event.isRule := by
  rw [Bool.eq_iff_iff]
  constructor
  · intro written
    simp only [isRuleLine, List.any_eq_true, decide_eq_true_eq] at written
    obtain ⟨r, _, lookahead, _, same⟩ := written
    obtain ⟨front, c, painted, kind⟩ := exists_paint_eq palette event
    obtain ⟨front', c', painted', kind'⟩ := exists_paint_eq palette (rule r lookahead)
    rw [same, painted'] at painted
    obtain ⟨_, rest⟩ := List.append_inj' painted rfl
    obtain rfl : c' = c := (List.cons.inj rest).1
    exact Bool.not_inj (kind.symm.trans kind')
  · intro entered
    cases event with
    | rule r lookahead => exact isRuleLine_rule palette r lookahead
    | newState | edge | accept => cases entered

end Event

/-- The lines of the lowest level are those of any other without the lines of rules. -/
theorem trace_default_eq (c : Compilation) (verbosity : Verbosity) (palette : Palette) :
    c.trace .default palette =
      (c.trace verbosity palette).filter (!Event.isRuleLine palette ·) := by
  have level (event : Event) : event.shownAt .default =
      (!event.isRule && event.shownAt verbosity) := by
    cases event <;> rfl
  rw [trace, trace, List.filter_map, List.filter_filter]
  simp only [Function.comp_def, Event.isRuleLine_paint, level]

/-- The trace of a compilation rebuilds its graph. Any tracer hears the same events and leaves the
result as it is. The events can be done again on a fresh builder, with the same number for each new
state, and lead to the graph if there is one; if there is none, no accepting state is told. A
printing tracer has a line for each event that its level shows, and at the lowest level the lines of
any other without those of rules. -/
theorem trace_rebuilds_graph (source : List Char) :
    let events := (ofSource source).events
    (∀ (σ : Type) (hear : σ → Event → σ) (notes : σ),
      told hear notes source = (compile source, events.foldl hear notes)) ∧
      (∃ b, Builder.new.replay events = .ok b ∧ ∀ g, compile source = .ok g → b.finish = g) ∧
      (∀ error, compile source = .error error → ∀ id, .accept id ∉ events) ∧
      ∀ verbosity palette,
        printed verbosity palette source = (events.filter (·.shownAt verbosity)).map
          (fun event => palette.paint event.fragments) ∧
        printed .default palette source =
          (printed verbosity palette source).filter (!Event.isRuleLine palette ·) := by
  refine ⟨fun σ hear notes => told_eq hear notes source, exists_replay source, ?_, ?_⟩
  · intro error failed id told
    obtain ⟨g, compiled⟩ := compiles_of_accept_mem told
    rw [failed] at compiled
    cases compiled
  · intro verbosity palette
    refine ⟨printed_eq_trace verbosity palette source, ?_⟩
    rw [printed_eq_trace, printed_eq_trace]
    exact trace_default_eq _ verbosity palette

end Compilation

end PatternGraph
