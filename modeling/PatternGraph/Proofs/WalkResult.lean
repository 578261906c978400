import PatternGraph.Walk

/-!
# What a walk results in

The result of a walk, without its events, one character at a time. A walk sees two things of a
graph only: which states accept, and where the first transition that fires leads to. A state that
the graph does not hold accepts nothing and leads nowhere.
-/
namespace PatternGraph

namespace Graph

/-- `id` is an accepting state of the graph. -/
def accepts (g : Graph) (id : StateId) : Bool := (g.get? id).any (·.accept)

/-- Where the first transition of state `id` that fires on `c` leads to. -/
def target? (g : Graph) (id : StateId) (c : Char) : Option StateId :=
  (g.get? id).bind fun state => (state.next? c).map (·.target)

/-- The result of walking on from state `id`, which is entered at byte `offset`. -/
def matchFrom (g : Graph) (mode : Mode) (id : StateId) (offset : Nat) (text : List Char) :
    Option Match :=
  (Walk.continueFrom g mode id offset text).match?

theorem run_eq_matchFrom (g : Graph) (text : List Char) (mode : Mode) :
    g.run text mode = g.matchFrom mode start 0 text := rfl

@[simp] theorem matchFrom_nil (g : Graph) (mode : Mode) (id : StateId) (offset : Nat) :
    g.matchFrom mode id offset [] = if g.accepts id then some ⟨offset, id⟩ else none := by
  unfold matchFrom Walk.continueFrom state accepts
  cases g.get? id with
  | none => rfl
  | some current =>
    by_cases accepting : current.accept <;> simp [accepting, Walk.match?, Walk.Outcome.match?]

theorem matchFrom_whole_cons (g : Graph) (id : StateId) (offset : Nat) (c : Char)
    (rest : List Char) :
    g.matchFrom .whole id offset (c :: rest) =
      (g.target? id c).bind fun target =>
        g.matchFrom .whole target (offset + c.utf8Size) rest := by
  unfold matchFrom
  rw [Walk.continueFrom]
  unfold state target?
  cases g.get? id with
  | none => rfl
  | some current =>
    cases fired : current.next? c with
    | none => simp [fired, Walk.match?, Walk.Outcome.match?]
    | some t => simp [fired, Walk.match?, Walk.after]

theorem matchFrom_leading_cons (g : Graph) (id : StateId) (offset : Nat) (c : Char)
    (rest : List Char) :
    g.matchFrom .leading id offset (c :: rest) =
      if g.accepts id then some ⟨offset, id⟩
      else (g.target? id c).bind fun target =>
        g.matchFrom .leading target (offset + c.utf8Size) rest := by
  unfold matchFrom
  rw [Walk.continueFrom]
  unfold state target? accepts
  cases g.get? id with
  | none => rfl
  | some current =>
    by_cases accepting : current.accept
    · simp [accepting, Walk.match?, Walk.Outcome.match?]
    · cases fired : current.next? c with
      | none => simp [accepting, fired, Walk.match?, Walk.Outcome.match?]
      | some t => simp [accepting, fired, Walk.match?, Walk.after]

/-- A whole walk that succeeds stops behind the last character. -/
theorem stop_of_matchFrom_whole {g : Graph} {id : StateId} {offset : Nat} {text : List Char}
    {m : Match} (found : g.matchFrom .whole id offset text = some m) :
    m.stop = offset + Text.byteLength text := by
  induction text generalizing id offset with
  | nil =>
    rw [matchFrom_nil] at found
    split at found
    · cases found
      rfl
    · cases found
  | cons c rest ih =>
    rw [matchFrom_whole_cons] at found
    obtain ⟨target, _, found⟩ := Option.bind_eq_some_iff.1 found
    rw [ih found, Text.byteLength_cons]
    omega

end Graph

end PatternGraph
