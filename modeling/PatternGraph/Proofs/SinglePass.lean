import PatternGraph.Pattern.Compilation

/-!
# Compiling in a single pass

Reading and wiring in one go: each element is wired where it is recognised, one operation after the
other on a builder that changes in place, while a listener is told what is done. Every change is a
move of its own: a step past a token, an operation on the builder, the assignment of one register,
an event. A fault would stop the pass where it arises. What a pass does is stated for all listeners
at once: the outcome, the site where it ends, and the moments that any of them is shown.
-/
namespace PatternGraph.SinglePass
open Compilation (Event)

/-- A place in a pass: the tokens still to be read and the graph under construction. -/
structure Site where
  unread : List Token
  wiring : Wiring

/-- The assignment of one register. -/
inductive Assignment where
  | cursor (id : StateId)
  | pending (id? : Option StateId)
  | skippable (id? : Option StateId)
  deriving DecidableEq

def Assignment.run (a : Assignment) (w : Wiring) : Wiring :=
  match a with
  | cursor id => { w with cursor := id }
  | pending id? => { w with pending := id? }
  | skippable id? => { w with skippable := id? }

/-- What is done in one move. -/
inductive Deed where
  /-- A token is left behind. -/
  | advance
  /-- An operation on the builder is carried out. -/
  | build
  | assign (a : Assignment)
  | tell (event : Event)
  deriving DecidableEq

/-- What a listener is shown: the site reached, and what was done last to get there. -/
structure Moment where
  site : Site
  deed : Deed

/-- The event that is told at a moment, if any. -/
def Moment.event? (m : Moment) : Option Event :=
  match m.deed with
  | .tell event => some event
  | .advance | .build | .assign _ => none

/-- Work of a pass, with a listener that takes notes of type `σ`. -/
abbrev Work (σ : Type) := ReaderT (σ → Moment → σ) (ExceptT CompileError (StateM (Site × σ)))

section program
variable {σ α : Type}

/-- Move on to another site and show it to the listener. -/
def move (change : Site → Site) (deed : Deed) : Work σ Unit := do
  let listen ← read
  modify fun (site, notes) => (change site, listen notes ⟨change site, deed⟩)

def Site.rewire (change : Wiring → Wiring) (site : Site) : Site :=
  { site with wiring := change site.wiring }

def wiring : Work σ Wiring := do
  let (site, _) ← get
  return site.wiring

def advance (rest : List Token) : Work σ Unit :=
  move (fun site => { site with unread := rest }) .advance

def assign (a : Assignment) : Work σ Unit := move (Site.rewire a.run) (.assign a)

def tell (event : Event) : Work σ Unit := move (Site.rewire (·.record event)) (.tell event)

/-- Put a builder in place of the one there is, unless the operation that makes it faults. -/
def build (made : Except Fault Graph.Builder) : Work σ Unit :=
  match made with
  | .ok builder => move (Site.rewire fun w => { w with builder }) .build
  | .error fault => throw (.internal fault)

def addState : Work σ StateId := do
  let added := (← wiring).builder.addState
  build (.ok added.2)
  tell (.newState added.1)
  return added.1

/-- An edge is told before it is made. -/
def connect (origin target : StateId) (symbols : SymbolSet) : Work σ Unit := do
  tell (.edge origin target symbols)
  build ((← wiring).builder.connect origin target symbols)

def connectFrom? (origin : Option StateId) (target : StateId) (symbols : SymbolSet) :
    Work σ Unit :=
  match origin with
  | none => pure ()
  | some origin => connect origin target symbols

/-- A mark is told after it is made. -/
def markAccept (id : StateId) : Work σ Unit := do
  build ((← wiring).builder.markAccept id)
  tell (.accept id)

/-- Wire an element under `*`. -/
def starred (symbols : SymbolSet) : Work σ Unit := do
  let origin := (← wiring).cursor
  connect origin origin symbols

/-- Wire an element under `+`. -/
def repeated (symbols : SymbolSet) : Work σ Unit := do
  let origin := (← wiring).cursor
  let target ← addState
  connect target target symbols
  connect origin target symbols
  assign (.cursor target)

/-- Let the state before an optional element wait for a bypass edge, and count as skippable. -/
def leaveWaiting (optional : Bool) (origin : StateId) : Work σ Unit :=
  match optional with
  | false => pure ()
  | true => do
    assign (.pending (some origin))
    assign (.skippable (some origin))

/-- Wire an element under `?` or under no quantifier. The cursor moves last, so a state that is left
waiting is the cursor for a while. -/
def single (symbols : SymbolSet) (optional : Bool) : Work σ Unit := do
  let origin := (← wiring).cursor
  let target ← addState
  let waiting := (← wiring).pending
  assign (.pending none)
  connectFrom? waiting target symbols
  connect origin target symbols
  leaveWaiting optional origin
  assign (.cursor target)

/-- Wire an element with a token of kind `lookahead` behind it. -/
def wire (symbols : SymbolSet) (lookahead : Token.Kind) : Work σ Unit := do
  assign (.skippable none)
  match lookahead with
  | .star => starred symbols
  | .plus => repeated symbols
  | _ => single symbols (lookahead = .question)

/-- Take a step of the reader. Behind an element `rest` is left to read. -/
def take (rest : List Token) : Parse.Step → Work σ Unit
  | .rule rule lookahead => tell (.rule rule lookahead)
  | .element symbols lookahead => do
    advance rest
    wire symbols lookahead

def takeAll (rest : List Token) : List Parse.Step → Work σ Unit
  | [] => pure ()
  | s :: later => do
    take rest s
    takeAll rest later

/-- Refuse the tokens where the reader does. -/
def settle : Option Diagnostic → Work σ Unit
  | none => pure ()
  | some diagnostic => throw (.parse diagnostic)

def verdict : Option Diagnostic → Except CompileError Unit
  | none => .ok ()
  | some diagnostic => .error (.parse diagnostic)

/-- Read and wire the rest of the tokens from `place` on. -/
def readFrom (sourceEnd : Nat) (place : Parse.Place) : List Token → Work σ Unit
  | [] => do
    takeAll [] (place.finish sourceEnd).steps
    settle (place.finish sourceEnd).failure
  | t :: rest => do
    takeAll rest (place.read t (Token.lookahead rest)).steps
    match (place.read t (Token.lookahead rest)).next with
    | .error diagnostic => settle (some diagnostic)
    | .ok next =>
      advance rest
      readFrom sourceEnd next rest

def markAccept? : Option StateId → Work σ Unit
  | none => pure ()
  | some id => markAccept id

/-- Mark the accepting states. -/
def finish : Work σ Graph := do
  markAccept (← wiring).cursor
  let skipped := (← wiring).skippable
  assign (.skippable none)
  markAccept? skipped
  return (← wiring).builder.finish

def compileTokens (sourceEnd : Nat) (tokens : List Token) : Work σ Graph := do
  advance tokens
  readFrom sourceEnd .start tokens
  finish

/-- The outcome of work that starts at a site, the site where it ends, and the listener's notes. -/
def Work.on (work : Work σ α) (listen : σ → Moment → σ) (site : Site) (notes : σ) :
    Except CompileError α × Site × σ :=
  (work.run listen).run.run (site, notes)

end program

/-- Compile a source in a single pass. -/
def compile {σ : Type} (listen : σ → Moment → σ) (notes : σ) (source : List Char) :
    Except CompileError Graph × σ :=
  match Token.ofSource source with
  | .error diagnostic => (.error (.lex diagnostic), notes)
  | .ok tokens =>
    let (outcome, _, heard) :=
      (compileTokens (Text.byteLength source) tokens).on listen ⟨tokens, {}⟩ notes
    (outcome, heard)

section visits
variable {σ α β : Type} {listen : σ → Moment → σ} {site mid last : Site} {notes noted : σ}

theorem on_bind_of_ok {first : Work σ α} {a : α}
    (done : first.on listen site notes = (.ok a, mid, noted)) (next : α → Work σ β) :
    (first >>= next).on listen site notes = (next a).on listen mid noted := by
  unfold Work.on at done ⊢
  rw [ReaderT.run_bind, ExceptT.run_bind, StateT.run_bind, done]
  rfl

theorem on_bind_of_error {first : Work σ α} {error : CompileError}
    (stopped : first.on listen site notes = (.error error, mid, noted)) (next : α → Work σ β) :
    (first >>= next).on listen site notes = (.error error, mid, noted) := by
  unfold Work.on at stopped ⊢
  rw [ReaderT.run_bind, ExceptT.run_bind, StateT.run_bind, stopped]
  rfl

/-- Whoever listens, the work ends in `outcome` at the site `last`. What is shown on the way are the
same moments, all of them as required and the last of them there, and the events told are those put
on record. -/
def Visits (required : Moment → Prop) (work : ∀ σ : Type, Work σ α) (site : Site)
    (outcome : Except CompileError α) (last : Site) : Prop :=
  ∃ moments : List Moment, (∀ m ∈ moments, required m) ∧
    last ∈ site :: moments.map (·.site) ∧
    last.wiring.events.toList =
      site.wiring.events.toList ++ moments.filterMap (·.event?) ∧
    ∀ (σ : Type) (listen : σ → Moment → σ) (notes : σ),
      (work σ).on listen site notes = (outcome, last, moments.foldl listen notes)

namespace Visits
variable {required allowed : Moment → Prop} {work : ∀ σ : Type, Work σ β}
  {outcome : Except CompileError β}

theorem pure (a : α) (site : Site) :
    Visits required (fun _ => Pure.pure a) site (.ok a) site :=
  ⟨[], by simp, by simp, by simp, fun _ _ _ => rfl⟩

theorem bind {first : ∀ σ : Type, Work σ α} {next : ∀ σ : Type, α → Work σ β} {a : α}
    (done : Visits required first site (.ok a) mid)
    (continued : Visits required (fun σ => next σ a) mid outcome last) :
    Visits required (fun σ => first σ >>= next σ) site outcome last := by
  obtain ⟨before, fitBefore, reached, toldBefore, ranBefore⟩ := done
  obtain ⟨later, fitLater, ended, toldLater, ranLater⟩ := continued
  refine ⟨before ++ later, ?_, ?_, ?_, fun σ listen notes => ?_⟩
  · exact fun m member => (List.mem_append.1 member).elim (fitBefore m) (fitLater m)
  · rw [List.map_append, ← List.cons_append]
    rcases List.mem_cons.1 ended with rfl | shown
    · exact List.mem_append_left _ reached
    · exact List.mem_append_right _ shown
  · rw [toldLater, toldBefore, List.filterMap_append, List.append_assoc]
  · rw [on_bind_of_ok (ranBefore σ listen notes), ranLater, List.foldl_append]

theorem bind_error {first : ∀ σ : Type, Work σ α} {next : ∀ σ : Type, α → Work σ β}
    {error : CompileError} (stopped : Visits required first site (.error error) last) :
    Visits required (fun σ => first σ >>= next σ) site (.error error) last := by
  obtain ⟨moments, fit, ended, told, ran⟩ := stopped
  exact ⟨moments, fit, ended, told, fun σ listen notes => on_bind_of_error (ran σ listen notes) _⟩

theorem mono (visits : Visits required work site outcome last)
    (allows : ∀ m, required m → allowed m) : Visits allowed work site outcome last := by
  obtain ⟨moments, fit, rest⟩ := visits
  exact ⟨moments, fun m member => allows m (fit m member), rest⟩

theorem ending {other : Site} (visits : Visits required work site outcome last)
    (same : last = other) : Visits required work site outcome other :=
  same ▸ visits

theorem wiring (site : Site) :
    Visits required (fun _ => SinglePass.wiring) site (.ok site.wiring) site :=
  ⟨[], by simp, by simp, by simp, fun _ _ _ => rfl⟩

/-- One move shows one moment. -/
theorem move {change : Site → Site} {deed : Deed} (fits : required ⟨change site, deed⟩)
    (told : (change site).wiring.events.toList =
      site.wiring.events.toList ++ (Moment.event? ⟨change site, deed⟩).toList) :
    Visits required (fun _ => SinglePass.move change deed) site (.ok ()) (change site) := by
  refine ⟨[⟨change site, deed⟩], List.forall_mem_singleton.2 fits, by simp, ?_, fun _ _ _ => rfl⟩
  rw [told]
  cases event : Moment.event? ⟨change site, deed⟩ <;> simp [event]

theorem advance {rest : List Token} (fits : required ⟨{ site with unread := rest }, .advance⟩) :
    Visits required (fun _ => SinglePass.advance rest) site (.ok ())
      { site with unread := rest } :=
  move fits (List.append_nil _).symm

theorem assign {a : Assignment} (fits : required ⟨site.rewire a.run, .assign a⟩) :
    Visits required (fun _ => SinglePass.assign a) site (.ok ()) (site.rewire a.run) := by
  apply move fits
  cases a <;> exact (List.append_nil _).symm

theorem build {builder : Graph.Builder}
    (fits : required ⟨site.rewire fun w => { w with builder }, .build⟩) :
    Visits required (fun _ => SinglePass.build (.ok builder)) site (.ok ())
      (site.rewire fun w => { w with builder }) :=
  move fits (List.append_nil _).symm

theorem tell {event : Event} (fits : required ⟨site.rewire (·.record event), .tell event⟩) :
    Visits required (fun _ => SinglePass.tell event) site (.ok ())
      (site.rewire (·.record event)) :=
  move fits Array.toList_push

theorem settle (failure : Option Diagnostic) (site : Site) :
    Visits required (fun _ => SinglePass.settle failure) site (verdict failure) site := by
  refine ⟨[], by simp, by simp, by simp, fun _ _ _ => ?_⟩
  cases failure <;> rfl

end Visits

end visits

end PatternGraph.SinglePass
