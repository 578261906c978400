import PatternGraph.Proofs.WalkTracer

/-!
# Colour as decoration

A palette puts codes around some parts of a line. A code begins with an escape, which no part of a
dump or trace shows as it is: symbols and characters of texts are escaped, and the rest are words
and numbers. So what the codes are is known from a coloured line alone, and without them it is the
plain line, whatever the symbols and the text.
-/
namespace PatternGraph

section deletion
variable {front rest : List Char}

/-- What follows the code that a text begins with: an escape, a bracket, digits and an `m`. -/
def behindCode? : List Char → Option (List Char)
  | '\x1b' :: '[' :: rest =>
    match rest.dropWhile Char.isDigit with
    | 'm' :: following => some following
    | _ => none
  | _ => none

theorem length_lt_of_behindCode? {cs following : List Char}
    (found : behindCode? cs = some following) : following.length < cs.length := by
  unfold behindCode? at found
  split at found
  · next rest =>
    have shorter := (List.dropWhile_suffix Char.isDigit (l := rest)).length_le
    split at found
    · next behind =>
      cases found
      rw [behind] at shorter
      simp only [List.length_cons] at shorter ⊢
      omega
    · cases found
  · cases found

/-- A text with every code deleted. -/
def withoutCodes : List Char → List Char
  | [] => []
  | c :: rest =>
    match _found : behindCode? (c :: rest) with
    | some following => withoutCodes following
    | none => c :: withoutCodes rest
termination_by cs => cs.length
decreasing_by
  · exact length_lt_of_behindCode? _found
  · exact Nat.lt_succ_self rest.length

theorem withoutCodes_nil : withoutCodes [] = [] := by rw [withoutCodes]

theorem withoutCodes_of_code {following : List Char} (found : behindCode? rest = some following) :
    withoutCodes rest = withoutCodes following := by
  cases rest with
  | nil => cases found
  | cons c rest =>
    rw [withoutCodes]
    split
    · next other =>
      rw [Option.some.inj (found.symm.trans other)]
    · next none => cases found.symm.trans none

theorem behindCode?_of_ne {c : Char} (plain : c ≠ '\x1b') (rest : List Char) :
    behindCode? (c :: rest) = none := by
  unfold behindCode?
  split
  · next same => exact absurd (List.cons.inj same).1 plain
  · rfl

/-- Nothing is deleted from a text without escapes, whatever follows it. -/
theorem withoutCodes_append (plain : '\x1b' ∉ front) :
    withoutCodes (front ++ rest) = front ++ withoutCodes rest := by
  induction front with
  | nil => rfl
  | cons c front ih =>
    obtain ⟨other, absent⟩ := List.ne_and_not_mem_of_not_mem_cons plain
    have kept := behindCode?_of_ne other.symm (front ++ rest)
    rw [List.cons_append, withoutCodes]
    split
    · next found => cases kept.symm.trans found
    · rw [ih absent, List.cons_append]

/-- Every code of the coloured palette is found with anything behind it. -/
theorem behindCode?_code (ink : Ink) (rest : List Char) :
    behindCode? ((Palette.colored.code ink).toList ++ rest) = some rest := by
  cases ink <;> simp [behindCode?, Palette.code, Palette.colored]

theorem behindCode?_reset (rest : List Char) :
    behindCode? (Palette.colored.reset.toList ++ rest) = some rest := by
  simp [behindCode?, Palette.colored]

end deletion

section lines
variable {fragments : List Fragment}

/-- No text of the fragments holds an escape. -/
def Unescaped (fragments : List Fragment) : Prop :=
  ∀ fragment ∈ fragments, '\x1b' ∉ fragment.text.toList

/-- Without its codes, the coloured text is the plain one, which has none. -/
def Decorates (colored plain : String) : Prop :=
  withoutCodes colored.toList = plain.toList ∧ '\x1b' ∉ plain.toList

/-- A fragment loses the codes around it and keeps its text. -/
theorem withoutCodes_paintFragment_append {fragment : Fragment}
    (plain : '\x1b' ∉ fragment.text.toList) (rest : List Char) :
    withoutCodes ((Palette.colored.paintFragment fragment).toList ++ rest) =
      fragment.text.toList ++ withoutCodes rest := by
  cases fragment with
  | plain text => exact withoutCodes_append plain
  | inked ink text =>
    have kept : '\x1b' ∉ text.toList := plain
    rw [Palette.paintFragment, String.toList_append, String.toList_append, List.append_assoc,
      List.append_assoc, withoutCodes_of_code (behindCode?_code ink _),
      withoutCodes_append kept, withoutCodes_of_code (behindCode?_reset rest)]
    rfl

theorem decorates_paint (unescaped : Unescaped fragments) :
    Decorates (Palette.colored.paint fragments) (Palette.plain.paint fragments) := by
  rw [Decorates, Palette.toList_paint_plain]
  constructor
  · induction fragments with
    | nil => exact withoutCodes_nil
    | cons fragment rest ih =>
      rw [Palette.paint, String.toList_append, List.flatMap_cons,
        withoutCodes_paintFragment_append (unescaped fragment List.mem_cons_self),
        ih fun later member => unescaped later (List.mem_cons_of_mem fragment member)]
  · intro member
    obtain ⟨fragment, among, held⟩ := List.mem_flatMap.1 member
    exact unescaped fragment among held

end lines

section texts
variable {cs : List Char}

/-- An escape is not printable, so it is shown by its number wherever characters are escaped. -/
theorem escape_notMem_of_printable (printable : ∀ c ∈ cs, Text.isPrintable c) : '\x1b' ∉ cs :=
  fun member => absurd (printable '\x1b' member) (by decide)

theorem escape_notMem_display (s : SymbolSet) : '\x1b' ∉ s.display :=
  escape_notMem_of_printable fun _ => SymbolSet.isPrintable_of_mem_display

theorem escape_notMem_name (id : StateId) : '\x1b' ∉ id.name.toList :=
  escape_notMem_of_printable fun _ => StateId.isPrintable_of_mem_name

theorem escape_notMem_quotedChar (c : Char) : '\x1b' ∉ Text.Escape.quotedChar c := by
  have shown : '\x1b' ∉ Text.Escape.char .singleQuoted c :=
    escape_notMem_of_printable fun _ => Text.Escape.isPrintable_of_mem_char
  have quote : '\x1b' ∉ ['\''] := by decide
  simp [Text.Escape.quotedChar, shown, quote]

theorem escape_notMem_digits (n : Nat) : '\x1b' ∉ Nat.toDigits 10 n :=
  escape_notMem_of_printable fun _ =>
    Text.Escape.isPrintable_of_mem_toDigits (by decide) (by decide)

end texts

section events

theorem unescaped_append {fragments more : List Fragment} :
    Unescaped (fragments ++ more) ↔ Unescaped fragments ∧ Unescaped more := by
  simp [Unescaped, or_imp, forall_and]

theorem unescaped_flatMap {α : Type} {l : List α} {f : α → List Fragment} :
    Unescaped (l.flatMap f) ↔ ∀ a ∈ l, Unescaped (f a) := by
  simp only [Unescaped, List.mem_flatMap]
  grind

theorem Transition.unescaped_dumpLine (t : Transition) : Unescaped t.dumpLine := by
  have display := escape_notMem_display t.symbols
  have name := escape_notMem_name t.target
  simp [Unescaped, dumpLine, Fragment.text, SymbolSet.fragment, StateId.fragment, display, name]

theorem State.unescaped_dumpLines (id : StateId) (state : State) :
    Unescaped (state.dumpLines id) := by
  have name := escape_notMem_name id
  simp only [dumpLines, unescaped_append, unescaped_flatMap]
  refine ⟨⟨⟨?heading, ?mark⟩, ?colon⟩, fun t _ => t.unescaped_dumpLine⟩
  case heading => simp [Unescaped, StateId.fragment, Fragment.text, name]
  case mark => cases state.accept <;> simp [Unescaped, Fragment.text]
  case colon => simp [Unescaped, Fragment.text]

theorem Graph.unescaped_dumpFragments (g : Graph) : Unescaped g.dumpFragments :=
  unescaped_flatMap.2 fun entry _ => entry.1.unescaped_dumpLines entry.2

theorem escape_notMem_rule (r : Rule) : '\x1b' ∉ r.name.toList := by
  cases r <;> decide

theorem escape_notMem_kind (kind : Token.Kind) : '\x1b' ∉ kind.name.toList := by
  cases kind <;> decide

theorem Compilation.Event.unescaped_fragments (event : Compilation.Event) :
    Unescaped event.fragments := by
  cases event with
  | rule r lookahead =>
    simp [Unescaped, fragments, Fragment.text, escape_notMem_rule, escape_notMem_kind]
  | newState id | accept id =>
    simp [Unescaped, fragments, Fragment.text, StateId.fragment, escape_notMem_name]
  | edge origin target symbols =>
    simp [Unescaped, fragments, Fragment.text, StateId.fragment, SymbolSet.fragment,
      escape_notMem_name, escape_notMem_display]

theorem Walk.Event.unescaped_fragments (event : Walk.Event) : Unescaped event.fragments := by
  cases event with
  | enter id offset | accept id offset =>
    simp [Unescaped, fragments, Fragment.text, StateId.fragment, escape_notMem_name,
      escape_notMem_digits]
  | step origin target c =>
    simp [Unescaped, fragments, Fragment.text, StateId.fragment, charFragment,
      escape_notMem_name, escape_notMem_quotedChar]
  | stuck id c =>
    simp [Unescaped, fragments, Fragment.text, StateId.fragment, charFragment,
      escape_notMem_name, escape_notMem_quotedChar]
  | exhausted id =>
    simp [Unescaped, fragments, Fragment.text, StateId.fragment, escape_notMem_name]

end events

/-- The lines of two traces that differ in the palette alone. -/
theorem forall₂_decorates {α : Type} {fragments : α → List Fragment}
    (unescaped : ∀ a, Unescaped (fragments a)) (l : List α) :
    List.Forall₂ Decorates (l.map fun a => Palette.colored.paint (fragments a))
      (l.map fun a => Palette.plain.paint (fragments a)) := by
  induction l with
  | nil => exact .nil
  | cons a l ih => exact .cons (decorates_paint (unescaped a)) ih

/-- Colour is decoration: without its codes, a coloured dump is the plain one, and so is each line
of the trace of a compilation and of a walk. The plain ones are the texts of their fragments and
hold no escape, whatever the symbols of the graph, the pattern and the text. -/
theorem colored_decorates_plain :
    (∀ fragments, (Palette.plain.paint fragments).toList = fragments.flatMap (·.text.toList)) ∧
      (∀ g : Graph, Decorates (g.dump .colored) (g.dump .plain)) ∧
      (∀ source verbosity, List.Forall₂ Decorates
        ((Compilation.ofSource source).trace verbosity .colored)
        ((Compilation.ofSource source).trace verbosity .plain)) ∧
      ∀ g text mode verbosity, List.Forall₂ Decorates
        ((Graph.walk g text mode).trace verbosity .colored)
        ((Graph.walk g text mode).trace verbosity .plain) := by
  refine ⟨Palette.toList_paint_plain, ?dump, ?compilation, ?walk⟩
  case dump =>
    intro g
    exact decorates_paint g.unescaped_dumpFragments
  case compilation =>
    intro source verbosity
    exact forall₂_decorates Compilation.Event.unescaped_fragments _
  case walk =>
    intro g text mode verbosity
    exact forall₂_decorates Walk.Event.unescaped_fragments _

end PatternGraph
