import PatternGraph.Proofs.TraceReplay

/-!
# Tracing a walk

A walk that is traced tells its tracer of each event as it happens. The tracer hears the events of
the walk and has no influence on its outcome. One that prints the events writes the entry of a
state as no other line, so its lines at any level are those of the highest one, less the entries
where these are not shown.
-/
namespace PatternGraph.Walk
variable {palette : Palette}

/-- Tell a tracer of an event: its notes are then what `hear` makes of them. -/
def tell {σ : Type} (hear : σ → Event → σ) (event : Event) : StateM σ Unit :=
  modify (hear · event)

/-- Walk on from state `id`, which is entered at byte `offset`, and tell of each event as it
happens. -/
def toldFrom {σ : Type} (hear : σ → Event → σ) (g : Graph) (mode : Mode) (id : StateId)
    (offset : Nat) : List Char → StateM σ Outcome
  | [] => do
    tell hear (.enter id offset)
    match g.state id with
    | .error fault => return .lost fault
    | .ok current =>
      if current.accept then
        tell hear (.accept id offset)
        return .success ⟨offset, id⟩
      else
        tell hear (.exhausted id)
        return .failure
  | c :: rest => do
    tell hear (.enter id offset)
    match g.state id with
    | .error fault => return .lost fault
    | .ok current =>
      if mode = .leading ∧ current.accept then
        tell hear (.accept id offset)
        return .success ⟨offset, id⟩
      else
        match current.next? c with
        | none =>
          tell hear (.stuck id c)
          return .failure
        | some t =>
          tell hear (.step id t.target c)
          toldFrom hear g mode t.target (offset + c.utf8Size) rest

/-- Walk a text with a tracer. -/
def told {σ : Type} (hear : σ → Event → σ) (notes : σ) (g : Graph) (text : List Char)
    (mode : Mode) : Outcome × σ :=
  (toldFrom hear g mode Graph.start 0 text).run notes

theorem run_toldFrom {σ : Type} (hear : σ → Event → σ) (notes : σ) (g : Graph) (mode : Mode)
    (id : StateId) (offset : Nat) (text : List Char) :
    (toldFrom hear g mode id offset text).run notes =
      ((continueFrom g mode id offset text).outcome,
        (continueFrom g mode id offset text).events.foldl hear notes) := by
  induction text generalizing id offset notes with
  | nil =>
    unfold toldFrom continueFrom
    cases g.state id with
    | error fault => rfl
    | ok current => by_cases accepting : current.accept <;> simp [accepting] <;> rfl
  | cons c rest ih =>
    unfold toldFrom continueFrom
    cases g.state id with
    | error fault => rfl
    | ok current =>
      by_cases reached : mode = .leading ∧ current.accept
      · simp only [if_pos reached]
        rfl
      · simp only [if_neg reached]
        cases current.next? c with
        | none => rfl
        | some t => exact ih (hear (hear notes (.enter id offset)) (.step id t.target c)) _ _

/-- A tracer hears the events of the walk and has no influence on its outcome. -/
theorem told_eq {σ : Type} (hear : σ → Event → σ) (notes : σ) (g : Graph) (text : List Char)
    (mode : Mode) :
    told hear notes g text mode =
      ((g.walk text mode).outcome, (g.walk text mode).events.foldl hear notes) :=
  run_toldFrom hear notes g mode Graph.start 0 text

/-- Note the line of an event, if events of its kind are shown. -/
def print (verbosity : Verbosity) (palette : Palette) (lines : List String) (event : Event) :
    List String :=
  if event.shownAt verbosity then lines ++ [palette.paint event.fragments] else lines

/-- The lines that a printing tracer has at the end. -/
def printed (verbosity : Verbosity) (palette : Palette) (g : Graph) (text : List Char)
    (mode : Mode) : List String :=
  (told (print verbosity palette) [] g text mode).2

/-- A printing tracer has the lines of the trace. -/
theorem printed_eq_trace (verbosity : Verbosity) (palette : Palette) (g : Graph)
    (text : List Char) (mode : Mode) :
    printed verbosity palette g text mode = (g.walk text mode).trace verbosity palette := by
  rw [printed, told_eq]
  exact foldl_append_line (Event.shownAt verbosity) (palette.paint ∘ Event.fragments) [] _

namespace Event

def isEntry : Event → Bool
  | enter .. => true
  | step .. | stuck .. | exhausted _ | accept .. => false

/-- The line is one that is written where a state is entered. -/
def IsEntryLine (palette : Palette) (line : String) : Prop :=
  ∃ id offset, line = palette.paint (enter id offset).fragments

noncomputable instance (palette : Palette) : DecidablePred (IsEntryLine palette) :=
  Classical.decPred _

/-- Where a text ends in a code with `c` right in front of it, and the code is also found with more
behind it, `c` is part of that. -/
theorem mem_of_append_code_eq {front front' code behind : List Char} {c : Char}
    (same : front ++ c :: code = front' ++ code ++ behind) (more : behind ≠ []) : c ∈ behind := by
  have positive := List.length_pos_of_ne_nil more
  have shorter : (c :: code).length ≤ (code ++ behind).length := by
    rw [List.length_cons, List.length_append]
    omega
  have whole : (code ++ behind) <:+ front ++ c :: code := ⟨front', by rw [same, List.append_assoc]⟩
  obtain ⟨between, split⟩ :=
    List.suffix_of_suffix_length_le (List.suffix_append front _) whole shorter
  -- both sides hold the code once, so the `c` in front of it is found behind it
  have counted := congrArg (List.count c) split
  rw [List.count_append, List.count_append, List.count_cons_self] at counted
  apply List.count_pos_iff.1
  omega

/-- Where a walk has arrived: the name of the state and the offset behind what is told of them. -/
def arrival (palette : Palette) (word : List Char) (id : StateId) (offset : Nat) : List Char :=
  word ++ palette.blue.toList ++ (StateId.name id).toList ++ palette.reset.toList ++
    [' ', 'a', 't'] ++ ' ' :: Nat.toDigits 10 offset

theorem arrival_inj {word word' : List Char} {id id' : StateId} {offset offset' : Nat}
    (same : arrival palette word id offset = arrival palette word' id' offset') : word = word' := by
  obtain ⟨rest, _, _⟩ := StateId.append_digits_inj (by decide) (by decide) same
  have names := List.append_cancel_right (List.append_cancel_right rest)
  exact List.append_cancel_right (StateId.append_name_inj names).1

theorem toList_paint_enter (palette : Palette) (id : StateId) (offset : Nat) :
    (palette.paint (enter id offset).fragments).toList =
      arrival palette ("  ".toList ++ palette.dim.toList ++ "enter".toList ++
        palette.reset.toList ++ "  ".toList) id offset := by
  simp [fragments, Palette.paint, Palette.paintFragment, Palette.code, StateId.fragment, arrival]

theorem toList_paint_accept (palette : Palette) (id : StateId) (offset : Nat) :
    (palette.paint (accept id offset).fragments).toList =
      arrival palette ("  ".toList ++ palette.green.toList ++ "accept".toList ++
        palette.reset.toList ++ " ".toList) id offset := by
  simp [fragments, Palette.paint, Palette.paintFragment, Palette.code, StateId.fragment, arrival]

/-- The entry of a state is written as no line that ends in ink, unless what is inked ends as an
offset may. -/
theorem not_isEntryLine_of_inked (fragments : List Fragment) (ink : Ink) {text : String}
    {body : List Char} {c : Char} (spelled : text.toList = body ++ [c])
    (apart : c ∉ [' ', 'a', 't'] ++ [' '] ∧ c.isDigit = false) :
    ¬ IsEntryLine palette (palette.paint (fragments ++ [.inked ink text])) := by
  rintro ⟨id, offset, same⟩
  obtain ⟨front, painted⟩ := palette.exists_paint_inked fragments ink spelled
  rw [same, toList_paint_enter, arrival, List.append_assoc (_ ++ palette.reset.toList)] at painted
  have behind := mem_of_append_code_eq painted.symm (by simp)
  rw [List.append_cons, List.mem_append] at behind
  rcases behind with word | number
  · exact apart.1 word
  · have digit := StateId.isDigit_of_mem_digits number
    rw [apart.2] at digit
    cases digit

/-- The last character of a quoted one is a quote. -/
theorem toList_quotedChar (c : Char) :
    (String.ofList (Text.Escape.quotedChar c)).toList =
      ['\''] ++ Text.Escape.char .singleQuoted c ++ ['\''] :=
  String.toList_ofList

/-- A state that accepts is not written as one that is entered: the ink ends in front of one blank
for the one and of two for the other. -/
theorem not_isEntryLine_accept (id : StateId) (offset : Nat) :
    ¬ IsEntryLine palette (palette.paint (accept id offset).fragments) := by
  rintro ⟨other, offset', same⟩
  have lines := congrArg String.toList same
  rw [toList_paint_accept, toList_paint_enter] at lines
  have words := arrival_inj lines
  have spaced :
      "  ".toList ++ palette.green.toList ++ "accep".toList ++ 't' :: palette.reset.toList ++
          [' '] =
        "  ".toList ++ palette.dim.toList ++ "enter".toList ++ palette.reset.toList ++ [' '] ++
          [' '] := by
    simpa using words
  have letter := mem_of_append_code_eq (List.append_cancel_right spaced) (by simp)
  exact absurd letter (by decide)

/-- The line of an event is an entry line exactly if the event is the entry of a state, whatever
the codes of the inks. -/
theorem isEntryLine_paint (palette : Palette) (event : Event) :
    IsEntryLine palette (palette.paint event.fragments) ↔ event.isEntry := by
  cases event with
  | enter id offset => exact iff_of_true ⟨id, offset, rfl⟩ rfl
  | accept id offset => exact iff_of_false (not_isEntryLine_accept id offset) Bool.false_ne_true
  | step origin target c =>
    apply iff_of_false _ Bool.false_ne_true
    exact not_isEntryLine_of_inked
      [.plain "  step   ", origin.fragment, .plain " -> ", target.fragment, .plain " on "] .green
      (toList_quotedChar c) (by decide)
  | stuck id c =>
    apply iff_of_false _ Bool.false_ne_true
    exact not_isEntryLine_of_inked
      [.plain "  ", .inked .red "stuck", .plain "  ", id.fragment, .plain " on "] .red
      (toList_quotedChar c) (by decide)
  | exhausted id =>
    have spelled : "(not accepting)".toList = "(not accepting".toList ++ [')'] := by decide
    apply iff_of_false _ Bool.false_ne_true
    exact not_isEntryLine_of_inked
      [.plain "  ", .inked .red "end", .plain "    ", id.fragment, .plain " "] .dim
      spelled (by decide)

end Event

/-- The lines of a level that shows no entries are those of the highest one without the entries. -/
theorem trace_eq_filter (w : Walk) {verbosity : Verbosity} (low : verbosity.showsEntries = false)
    (palette : Palette) :
    w.trace verbosity palette =
      (w.trace .veryVerbose palette).filter fun line => ¬ Event.IsEntryLine palette line := by
  have level (event : Event) : event.shownAt verbosity = !event.isEntry := by
    cases event with
    | enter => exact low
    | _ => rfl
  have all (event : Event) : event.shownAt .veryVerbose = true := by cases event <;> rfl
  rw [trace, trace, List.filter_map, List.filter_filter]
  simp only [Function.comp_def, Event.isEntryLine_paint, level, all]
  simp

end PatternGraph.Walk
