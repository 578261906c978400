import PatternGraph.Graph.Dump
import PatternGraph.Proofs.Acceptance
import PatternGraph.Proofs.DisplayReading

/-!
# Reading a dump back

The plain dump of a graph consists of lines, none of which is broken by what it displays. The lines
of transitions are set in, so one sees which state they belong to; the number of the target is what
follows the last `S` of a line, and the symbols are displayed in front of it. So graphs without the
hyphen in a symbol set, as all compiled ones are, have the same dump only if they are the same.
-/
namespace PatternGraph
open Text (isPrintable)
open Text.Escape (append_inj_of_boundary)
variable {g h : Graph} {source : List Char}

section lines

/-- Texts without a line feed are known from the lines they form. -/
theorem flatMap_newline_inj {ls ms : List (List Char)} (unbroken : ∀ l ∈ ls, '\n' ∉ l)
    (unbroken' : ∀ m ∈ ms, '\n' ∉ m)
    (same : ls.flatMap (· ++ ['\n']) = ms.flatMap (· ++ ['\n'])) : ls = ms := by
  induction ls generalizing ms with
  | nil =>
    cases ms with
    | nil => rfl
    | cons m ms => simp at same
  | cons l ls ih =>
    cases ms with
    | nil => simp at same
    | cons m ms =>
      simp only [List.flatMap_cons, List.append_assoc] at same
      have inside : ∀ c ∈ l, decide (c ≠ '\n') := fun c member =>
        decide_eq_true fun feed => unbroken l List.mem_cons_self (feed ▸ member)
      have inside' : ∀ c ∈ m, decide (c ≠ '\n') := fun c member =>
        decide_eq_true fun feed => unbroken' m List.mem_cons_self (feed ▸ member)
      obtain ⟨rfl, rest⟩ := append_inj_of_boundary inside inside' (by simp) (by simp) same
      rw [ih (fun l member => unbroken l (List.mem_cons_of_mem _ member))
        (fun m member => unbroken' m (List.mem_cons_of_mem _ member))
        (List.append_cancel_left rest)]

end lines

namespace StateId

theorem toList_name (id : StateId) : (name id).toList = 'S' :: Nat.toDigits 10 id := by
  simp [name]

theorem isDigit_of_mem_digits {id : StateId} {d : Char} (member : d ∈ Nat.toDigits 10 id) :
    d.isDigit :=
  Nat.isDigit_of_mem_toDigits (by decide) (by decide) member

theorem digits_inj {id other : StateId} (same : Nat.toDigits 10 id = Nat.toDigits 10 other) :
    id = other := by
  have read := congrArg (Nat.ofDigitChars 10 · 0) same
  simpa using read

/-- The number at the end of a line is what follows the last character that is no digit. -/
theorem append_digits_inj {m n : Nat} {front front' : List Char} {b b' : Char}
    (boundary : b.isDigit = false) (boundary' : b'.isDigit = false)
    (same : front ++ b :: Nat.toDigits 10 m = front' ++ b' :: Nat.toDigits 10 n) :
    front = front' ∧ b = b' ∧ m = n := by
  have inside (k : Nat) : ∀ d ∈ (Nat.toDigits 10 k).reverse, d.isDigit :=
    fun d member => isDigit_of_mem_digits (List.mem_reverse.1 member)
  have backward := congrArg List.reverse same
  simp only [List.reverse_append, List.reverse_cons, List.append_assoc] at backward
  obtain ⟨digits, rest⟩ := append_inj_of_boundary (inside m) (inside n) (by simp [boundary])
    (by simp [boundary']) backward
  obtain ⟨last, before⟩ := List.cons.inj rest
  exact ⟨List.reverse_injective before, last, digits_inj (List.reverse_injective digits)⟩

/-- The number of a state at the end of a line is what follows the last `S`. -/
theorem append_name_inj {id other : StateId} {front front' : List Char}
    (same : front ++ (name id).toList = front' ++ (name other).toList) :
    front = front' ∧ id = other := by
  rw [toList_name, toList_name] at same
  obtain ⟨rest, _, number⟩ := append_digits_inj (by decide) (by decide) same
  exact ⟨rest, number⟩

theorem isPrintable_of_mem_name {id : StateId} {d : Char} (member : d ∈ (name id).toList) :
    isPrintable d := by
  rw [toList_name, List.mem_cons] at member
  rcases member with rfl | digit
  · decide
  · exact Text.Escape.isPrintable_of_mem_toDigits (by decide) (by decide) digit

end StateId

/-- The line of a transition in a dump. -/
def Transition.line (t : Transition) : List Char :=
  [' ', ' '] ++ t.symbols.display ++ [' ', '-', '>', ' '] ++ (StateId.name t.target).toList

/-- The line that a state begins with in a dump. -/
def State.heading (id : StateId) (accept : Bool) : List Char :=
  (StateId.name id).toList ++ (if accept then " (accept)".toList else []) ++ [':']

def State.lines (id : StateId) (state : State) : List (List Char) :=
  State.heading id state.accept :: state.transitions.map Transition.line

/-- The lines of states that are numbered from `id` on. -/
def State.linesFrom (id : StateId) : List State → List (List Char)
  | [] => []
  | state :: rest => state.lines id ++ linesFrom (id + 1) rest

section text

theorem Palette.toList_paint_plain (fragments : List Fragment) :
    (Palette.plain.paint fragments).toList = fragments.flatMap (·.text.toList) := by
  induction fragments with
  | nil => rfl
  | cons fragment rest ih =>
    rw [Palette.paint, String.toList_append, ih, List.flatMap_cons]
    cases fragment with
    | plain text => rfl
    | inked ink text => cases ink <;> simp [Palette.paintFragment, Palette.code, Palette.plain,
        Fragment.text]

/-- A line that ends in ink ends in the code that switches it off. -/
theorem Palette.exists_paint_inked (palette : Palette) (fragments : List Fragment) (ink : Ink)
    {text : String} {body : List Char} {c : Char} (spelled : text.toList = body ++ [c]) :
    ∃ front, (palette.paint (fragments ++ [.inked ink text])).toList =
      front ++ c :: palette.reset.toList := by
  induction fragments with
  | nil =>
    refine ⟨(palette.code ink).toList ++ body, ?_⟩
    simp [Palette.paint, Palette.paintFragment, spelled]
  | cons fragment rest ih =>
    obtain ⟨front, painted⟩ := ih
    refine ⟨(palette.paintFragment fragment).toList ++ front, ?_⟩
    rw [List.cons_append, Palette.paint, String.toList_append, painted, List.append_assoc]

theorem Transition.flatMap_text_dumpLine (t : Transition) :
    t.dumpLine.flatMap (·.text.toList) = t.line ++ ['\n'] := by
  simp [Transition.dumpLine, Transition.line, Fragment.text, SymbolSet.fragment,
    StateId.fragment]

theorem State.flatMap_text_dumpLines (id : StateId) (state : State) :
    (state.dumpLines id).flatMap (·.text.toList) =
      (state.lines id).flatMap (· ++ ['\n']) := by
  have transitions : (state.transitions.flatMap Transition.dumpLine).flatMap (·.text.toList) =
      (state.transitions.map Transition.line).flatMap (· ++ ['\n']) := by
    rw [List.flatMap_assoc, List.flatMap_map]
    exact congrArg (List.flatMap · state.transitions)
      (funext Transition.flatMap_text_dumpLine)
  rw [State.dumpLines, State.lines, List.flatMap_append, transitions, List.flatMap_cons,
    State.heading]
  cases state.accept <;> simp [Fragment.text, StateId.fragment]

theorem Graph.toList_dump (g : Graph) :
    (g.dump .plain).toList =
      (State.linesFrom Graph.start g.states.toList).flatMap (· ++ ['\n']) := by
  have numbered (states : List State) (id : StateId) :
      ((states.zipIdx id).flatMap fun entry => entry.1.dumpLines entry.2).flatMap
          (·.text.toList) =
        (State.linesFrom id states).flatMap (· ++ ['\n']) := by
    induction states generalizing id with
    | nil => rfl
    | cons state rest ih =>
      rw [List.zipIdx_cons, List.flatMap_cons, List.flatMap_append, ih,
        State.flatMap_text_dumpLines, State.linesFrom, List.flatMap_append]
  rw [Graph.dump, Palette.toList_paint_plain]
  exact numbered g.states.toList Graph.start

end text

section reading

theorem Transition.newline_notMem_line (t : Transition) : '\n' ∉ t.line := by
  have name : '\n' ∉ (StateId.name t.target).toList := fun member =>
    absurd (StateId.isPrintable_of_mem_name member) (by decide)
  have display : '\n' ∉ t.symbols.display := fun member =>
    absurd (SymbolSet.isPrintable_of_mem_display member) (by decide)
  simp [Transition.line, name, display]

theorem State.newline_notMem_heading (id : StateId) (accept : Bool) :
    '\n' ∉ State.heading id accept := by
  have name : '\n' ∉ (StateId.name id).toList := fun member =>
    absurd (StateId.isPrintable_of_mem_name member) (by decide)
  cases accept <;> simp [State.heading, name]

theorem State.newline_notMem_linesFrom (id : StateId) (states : List State) :
    ∀ l ∈ State.linesFrom id states, '\n' ∉ l := by
  induction states generalizing id with
  | nil => simp [State.linesFrom]
  | cons state rest ih =>
    intro l member
    rw [State.linesFrom, State.lines, List.cons_append, List.mem_cons, List.mem_append] at member
    rcases member with rfl | own | later
    · exact State.newline_notMem_heading id state.accept
    · obtain ⟨t, _, rfl⟩ := List.mem_map.1 own
      exact t.newline_notMem_line
    · exact ih (id + 1) l later

/-- A transition is known from its line. -/
theorem Transition.line_inj {t u : Transition} (plain : '-' ∉ t.symbols) (plain' : '-' ∉ u.symbols)
    (same : t.line = u.line) : t = u := by
  obtain ⟨front, target⟩ := StateId.append_name_inj same
  have display : t.symbols.display = u.symbols.display :=
    List.append_cancel_left (List.append_cancel_right front)
  have symbols := SymbolSet.display_inj plain plain' display
  cases t
  cases u
  simp_all

theorem Transition.map_line_inj {ts us : List Transition} (plain : ∀ t ∈ ts, '-' ∉ t.symbols)
    (plain' : ∀ u ∈ us, '-' ∉ u.symbols)
    (same : ts.map Transition.line = us.map Transition.line) : ts = us := by
  induction ts generalizing us with
  | nil => simpa [eq_comm] using same
  | cons t ts ih =>
    cases us with
    | nil => cases same
    | cons u us =>
      obtain ⟨first, rest⟩ := List.cons.inj same
      rw [Transition.line_inj (plain t List.mem_cons_self) (plain' u List.mem_cons_self) first,
        ih (fun t member => plain t (List.mem_cons_of_mem _ member))
          (fun u member => plain' u (List.mem_cons_of_mem _ member)) rest]

theorem State.head?_heading (id : StateId) (accept : Bool) :
    (State.heading id accept).head? = some 'S' := by
  rw [State.heading, StateId.toList_name]
  rfl

/-- The mark of an accepting state shows in front of the colon. -/
theorem State.heading_inj {id : StateId} {accept accept' : Bool}
    (same : State.heading id accept = State.heading id accept') : accept = accept' := by
  cases accept <;> cases accept' <;> simp_all [State.heading]

/-- The symbols of no transition contain the hyphen. -/
def State.AvoidsHyphen (state : State) : Prop := ∀ t ∈ state.transitions, '-' ∉ t.symbols

/-- States are known from their lines: those that are set in belong to the state before. -/
theorem State.linesFrom_inj {id : StateId} {states others : List State}
    (plain : ∀ state ∈ states, state.AvoidsHyphen) (plain' : ∀ other ∈ others, other.AvoidsHyphen)
    (same : State.linesFrom id states = State.linesFrom id others) : states = others := by
  induction states generalizing id others with
  | nil =>
    cases others with
    | nil => rfl
    | cons other others => cases same
  | cons state states ih =>
    cases others with
    | nil => cases same
    | cons other others =>
      obtain ⟨heading, rest⟩ := List.cons.inj same
      have setIn (ts : List Transition) :
          ∀ l ∈ ts.map Transition.line, (l.head? == some ' ') := by
        intro l member
        obtain ⟨t, _, rfl⟩ := List.mem_map.1 member
        rfl
      have leading (id : StateId) (states : List State) :
          ∀ l ∈ (State.linesFrom id states).head?, ¬ (l.head? == some ' ') := by
        intro l first
        cases states with
        | nil => cases first
        | cons next following =>
          cases first
          rw [State.head?_heading]
          decide
      obtain ⟨own, later⟩ := append_inj_of_boundary (setIn state.transitions)
        (setIn other.transitions) (leading (id + 1) states) (leading (id + 1) others) rest
      have transitions : state.transitions = other.transitions :=
        Transition.map_line_inj (plain state List.mem_cons_self) (plain' other List.mem_cons_self)
          own
      have first : state = other := by
        have accept := State.heading_inj heading
        cases state
        cases other
        simp_all
      rw [first, ih (fun state member => plain state (List.mem_cons_of_mem _ member))
        (fun other member => plain' other (List.mem_cons_of_mem _ member)) later]

end reading

/-- The symbols of no transition contain the hyphen. -/
def Graph.AvoidsHyphen (g : Graph) : Prop := ∀ state ∈ g.states, state.AvoidsHyphen

theorem Graph.dump_inj (plain : g.AvoidsHyphen) (plain' : h.AvoidsHyphen)
    (same : g.dump .plain = h.dump .plain) : g = h := by
  have text := congrArg String.toList same
  rw [Graph.toList_dump, Graph.toList_dump] at text
  have lines := flatMap_newline_inj (State.newline_notMem_linesFrom _ _)
    (State.newline_notMem_linesFrom _ _) text
  have states := State.linesFrom_inj (fun state member => plain state (by simpa using member))
    (fun other member => plain' other (by simpa using member)) lines
  cases g
  cases h
  simpa using states

/-- The hyphen is not in the alphabet of patterns, so no compiled graph has it. -/
theorem avoidsHyphen_of_compile (compiled : compile source = .ok g) : g.AvoidsHyphen := by
  obtain ⟨alphabet, _, rfl⟩ := compile_eq_ok_iff_accepts.1 compiled
  intro state held t member hyphen
  obtain ⟨k, rfl⟩ := Array.mem_ofFn.1 held
  obtain ⟨i, among, same⟩ := Item.exists_item_of_mem_transitions member
  rw [same] at hyphen
  rcases Item.mem_of_mem_ofTextFrom among hyphen with written | wild | ⟨_, closed, _⟩
  · exact absurd (alphabet '-' written) (by decide)
  · exact absurd wild (by decide)
  · cases closed

/-- The plain dump determines the graph, and the display of a symbol set its members, where the
hyphen is not among the symbols; and it never is among those of a compiled graph. -/
theorem plain_dump_eq_iff :
    (∀ g h : Graph, g.AvoidsHyphen → h.AvoidsHyphen →
      (g.dump .plain = h.dump .plain ↔ g = h)) ∧
      (∀ s t : SymbolSet, '-' ∉ s → '-' ∉ t → (s.display = t.display ↔ s = t)) ∧
      ∀ source g, compile source = .ok g → g.AvoidsHyphen := by
  refine ⟨?graphs, ?sets, ?compiled⟩
  case graphs =>
    intro g h plain plain'
    exact ⟨Graph.dump_inj plain plain', fun same => same ▸ rfl⟩
  case sets =>
    intro s t plain plain'
    exact ⟨SymbolSet.display_inj plain plain', fun same => same ▸ rfl⟩
  case compiled =>
    intro source g compiled
    exact avoidsHyphen_of_compile compiled

/-- Two patterns that differ in the last member of a class, behind a collapsed run, have different
dumps, and so have the two classes. -/
theorem plain_dump_eq_iff_collapsed :
    ∃ g h, compile "[abcx]d?".toList = .ok g ∧ compile "[abcy]d?".toList = .ok h ∧
      g.dump .plain ≠ h.dump .plain ∧
      (SymbolSet.ofList ['a', 'b', 'c', 'x']).display ≠
        (SymbolSet.ofList ['a', 'b', 'c', 'y']).display := by
  obtain ⟨graphs, sets, avoids⟩ := plain_dump_eq_iff
  have first : compile "[abcx]d?".toList =
      .ok (Item.graph (Item.ofText "[abcx]d?".toList)) := by decide
  have second : compile "[abcy]d?".toList =
      .ok (Item.graph (Item.ofText "[abcy]d?".toList)) := by decide
  refine ⟨_, _, first, second, ?dumps, ?displays⟩
  case dumps =>
    intro same
    have graph := (graphs _ _ (avoids _ _ first) (avoids _ _ second)).1 same
    exact absurd graph (by decide +kernel)
  case displays =>
    intro same
    have members := (sets _ _ (by decide) (by decide)).1 same
    exact absurd members (by decide)

end PatternGraph
