import PatternGraph.Proofs.Boundaries
import PatternGraph.Report.Cut

/-!
# Cuts of a source and of its lines

A cut at a byte of a source is made in the line that holds the byte. It splits the same character
there as it would in the source, and none exactly if the byte is a boundary of the source: the text
of a line is a stretch of the source, and the endings between the lines are made of single bytes.
-/
namespace PatternGraph

namespace Text

section boundaries
variable {c : Char} {front back cs : List Char} {n : Nat}

theorem isBoundary_zero (cs : List Char) : IsBoundary cs 0 :=
  isBoundary_byteLength (@List.nil_prefix _ cs)

theorem isBoundary_cons_iff :
    IsBoundary (c :: cs) n ↔ n = 0 ∨ c.utf8Size ≤ n ∧ IsBoundary cs (n - c.utf8Size) := by
  constructor
  · rintro ⟨front, leading, rfl⟩
    cases front with
    | nil => exact .inl rfl
    | cons d front =>
      obtain ⟨rfl, inner⟩ := List.cons_prefix_cons.1 leading
      refine .inr ⟨Nat.le_add_right _ _, ?_⟩
      rw [byteLength_cons, Nat.add_sub_cancel_left]
      exact isBoundary_byteLength inner
  · rintro (rfl | ⟨behind, front, leading, length⟩)
    · exact isBoundary_zero (c :: cs)
    · refine ⟨c :: front, List.cons_prefix_cons.2 ⟨rfl, leading⟩, ?_⟩
      rw [byteLength_cons, length, Nat.add_sub_cancel' behind]

theorem le_of_isBoundary (boundary : IsBoundary cs n) : n ≤ byteLength cs := by
  obtain ⟨front, ⟨back, rfl⟩, rfl⟩ := boundary
  rw [byteLength_append]
  exact Nat.le_add_right _ _

end boundaries

section splitting
variable {c : Char} {front back cs : List Char} {n : Nat}

theorem around?_zero (cs : List Char) : around? 0 cs = none := by
  cases cs <;> rfl

/-- A cut in the front of a text leaves what follows alone. -/
theorem around?_append (inside : n < byteLength front) (back : List Char) :
    around? n (front ++ back) = around? n front := by
  induction front generalizing n with
  | nil => exact absurd inside (Nat.not_lt_zero n)
  | cons c front ih =>
    rw [List.cons_append, around?, around?]
    by_cases short : n < c.utf8Size
    · simp only [short, if_true]
    · rw [byteLength_cons] at inside
      have later : n - c.utf8Size < byteLength front := by omega
      rw [ih later]

/-- A cut behind the front of a text is one of what follows. -/
theorem around?_append_of_le (behind : byteLength front ≤ n) (back : List Char) :
    around? n (front ++ back) =
      (around? (n - byteLength front) back).map fun (first, c) =>
        (byteLength front + first, c) := by
  induction front generalizing n with
  | nil => simp
  | cons c front ih =>
    rw [byteLength_cons] at behind
    have positive := c.utf8Size_pos
    have later : byteLength front ≤ n - c.utf8Size := by omega
    have nonzero : n ≠ 0 := by omega
    have long : ¬ n < c.utf8Size := by omega
    rw [List.cons_append, around?, if_neg nonzero, if_neg long, ih later, byteLength_cons,
      Nat.sub_sub, Option.map_map]
    simp [Function.comp_def, Nat.add_assoc]

theorem around?_of_le (behind : byteLength cs ≤ n) : around? n cs = none := by
  have cut := around?_append_of_le behind []
  rwa [List.append_nil] at cut

theorem around?_of_single (single : ∀ c ∈ cs, c.utf8Size = 1) (n : Nat) :
    around? n cs = none := by
  induction cs generalizing n with
  | nil => rfl
  | cons c cs ih =>
    have size := single c List.mem_cons_self
    have rest := ih (fun d later => single d (List.mem_cons_of_mem c later)) (n - c.utf8Size)
    rw [around?, rest]
    split
    · rfl
    · rw [if_neg (by omega)]
      rfl

/-- Exactly the bytes inside a character are no boundaries. -/
theorem around?_eq_none_iff : around? n cs = none ↔ IsBoundary cs n ∨ byteLength cs < n := by
  induction cs generalizing n with
  | nil =>
    refine iff_of_true rfl ?_
    rcases Nat.eq_zero_or_pos n with rfl | positive
    · exact .inl (isBoundary_zero [])
    · exact .inr positive
  | cons c cs ih =>
    have positive := c.utf8Size_pos
    rw [around?, isBoundary_cons_iff, byteLength_cons]
    split
    · next atStart => exact iff_of_true rfl (.inl (.inl atStart))
    · next nonzero =>
      split
      · next inside =>
        refine iff_of_false (Option.some_ne_none _) ?_
        rintro ((atStart | ⟨behind, _⟩) | beyond) <;> omega
      · next long =>
        rw [Option.map_eq_none_iff, ih]
        have reaches : c.utf8Size ≤ n := Nat.le_of_not_lt long
        have beyond : byteLength cs < n - c.utf8Size ↔ c.utf8Size + byteLength cs < n := by omega
        simp only [nonzero, reaches, beyond, true_and, false_or]

/-- A cut one byte into a character splits it unless it is a single byte. -/
theorem around?_succ (front : List Char) (c : Char) (back : List Char) :
    around? (byteLength front + 1) (front ++ c :: back) =
      if c.utf8Size = 1 then none else some (byteLength front, c) := by
  rw [around?_append_of_le (Nat.le_add_right _ 1), Nat.add_sub_cancel_left, around?,
    if_neg Nat.one_ne_zero]
  by_cases single : c.utf8Size = 1
  · simp [single, around?_zero]
  · have inside : 1 < c.utf8Size := Nat.lt_of_le_of_ne c.utf8Size_pos (Ne.symm single)
    simp [single, inside]

end splitting

end Text

namespace Report
open Text

/-- The texts of the lines, each with its ending behind it, make up the source. Endings are made of
single bytes. -/
inductive Rejoins : List (List Char × Nat) → List Char → Prop where
  | nothing : Rejoins [] []
  | line (text : List Char) {ending following : List Char} {ls : List (List Char × Nat)}
    (single : ∀ c ∈ ending, c.utf8Size = 1) (rejoins : Rejoins ls following) :
    Rejoins ((text, byteLength ending) :: ls) (text ++ (ending ++ following))

theorem rejoins_splitLines (source : List Char) : Rejoins (splitLines source) source := by
  fun_induction splitLines source with
  | case1 => exact .nothing
  | case2 rest ih =>
    have feed : ∀ c ∈ ['\n'], c.utf8Size = 1 := List.forall_mem_singleton.2 rfl
    exact .line [] feed ih
  | case3 rest ih =>
    have feed : ∀ c ∈ ['\r', '\n'], c.utf8Size = 1 :=
      List.forall_mem_cons.2 ⟨rfl, List.forall_mem_singleton.2 rfl⟩
    exact .line [] feed ih
  | case4 c rest _ _ last ih =>
    rw [last] at ih
    cases ih
    exact .line [c] (List.forall_mem_nil _) .nothing
  | case5 c rest _ _ text ending more split ih =>
    rw [split] at ih
    cases ih with
    | line _ single rejoins => exact .line (c :: text) single rejoins

section lines
variable {source : List Char} {ls : List (List Char × Nat)} {number start offset n : Nat}

/-- A cut of a line or of its ending splits what it splits in the line alone. -/
theorem around?_line {text ending : List Char} (single : ∀ c ∈ ending, c.utf8Size = 1)
    (inside : n < byteLength text + byteLength ending) (following : List Char) :
    around? n (text ++ (ending ++ following)) = around? n text := by
  rcases Nat.lt_or_ge n (byteLength text) with within | behind
  · exact around?_append within (ending ++ following)
  · have inEnding : n - byteLength text < byteLength ending := by omega
    rw [around?_append_of_le behind, around?_append inEnding, around?_of_single single,
      around?_of_le behind]
    rfl

/-- The line that holds a byte of the source is found, and a cut there splits the same character in
the line as in the source. -/
theorem exists_find?_placeLines (rejoins : Rejoins ls source) (behind : start ≤ offset)
    (inside : offset < start + byteLength source) :
    ∃ line, (placeLines number start ls).find?
        (fun line => line.start ≤ offset && offset < line.stop) = some line ∧
      start ≤ line.start ∧
      around? (offset - start) source =
        (around? (offset - line.start) line.text).map fun (first, c) =>
          (line.start - start + first, c) := by
  induction rejoins generalizing number start with
  | nothing => exact absurd inside (Nat.not_lt_of_le behind)
  | @line text ending following ls single rejoins ih =>
    simp only [byteLength_append] at inside
    rw [placeLines, List.find?_cons]
    by_cases first : offset < start + byteLength text + byteLength ending
    · have within : offset - start < byteLength text + byteLength ending := by omega
      refine ⟨⟨number, text, start, start + byteLength text + byteLength ending,
        byteLength ending⟩, by simp [behind, first], Nat.le_refl start, ?_⟩
      simp [around?_line single within]
    · -- the first line is passed, so both the byte and the found line count from its stop on
      obtain ⟨line, found, later, same⟩ := @ih (number + 1)
        (start + byteLength text + byteLength ending) (by omega) (by omega)
      refine ⟨line, by simpa [first] using found, by omega, ?_⟩
      have size := byteLength_append text ending
      have passed : byteLength (text ++ ending) ≤ offset - start := by omega
      have rest : offset - start - byteLength (text ++ ending) =
          offset - (start + byteLength text + byteLength ending) := by omega
      have shift : byteLength (text ++ ending) +
          (line.start - (start + byteLength text + byteLength ending)) = line.start - start := by
        omega
      rw [← List.append_assoc, around?_append_of_le passed, rest, same, Option.map_map, ← shift]
      simp [Function.comp_def, Nat.add_assoc]

/-- No line goes on behind its source. -/
theorem stop_le_of_mem_placeLines (rejoins : Rejoins ls source) {line : SourceLine}
    (member : line ∈ placeLines number start ls) :
    line.start + byteLength line.text ≤ start + byteLength source := by
  induction rejoins generalizing number start with
  | nothing => cases member
  | @line text ending following ls single rejoins ih =>
    simp only [byteLength_append]
    rcases List.mem_cons.1 member with rfl | later
    · simp only
      omega
    · have stop := ih later
      omega

/-- The line of a byte is one of the lines. -/
theorem lineAt_mem {lines : List SourceLine} (nonempty : lines ≠ []) (offset : Nat) :
    lineAt lines offset ∈ lines := by
  rw [lineAt]
  cases found : lines.find? fun line => line.start ≤ offset && offset < line.stop with
  | none =>
    rw [Option.getD_none, List.getLastD_eq_getLast?, List.getLast?_eq_some_getLast nonempty]
    exact List.getLast_mem nonempty
  | some line => exact List.mem_of_find?_eq_some found

theorem placeLines_ne_nil (rejoins : Rejoins ls source) (nonempty : source ≠ []) :
    placeLines number start ls ≠ [] := by
  cases rejoins with
  | nothing => exact absurd rfl nonempty
  | line => exact List.cons_ne_nil _ _

/-- The line of a byte ends within the source. -/
theorem stop_lineAt_le (source : List Char) (offset : Nat) :
    let line := lineAt (sourceLines source) offset
    line.start + byteLength line.text ≤ byteLength source := by
  intro line
  cases source with
  | nil =>
    have only : line ∈ sourceLines [] := lineAt_mem (List.cons_ne_nil _ _) offset
    rw [List.mem_singleton.1 only]
    rfl
  | cons c rest =>
    have rejoins := rejoins_splitLines (c :: rest)
    have nonempty : sourceLines (c :: rest) ≠ [] :=
      placeLines_ne_nil rejoins (List.cons_ne_nil c rest)
    have stop := stop_le_of_mem_placeLines rejoins (lineAt_mem nonempty offset)
    rwa [Nat.zero_add] at stop

/-- A cut at a byte of a source, or at its end, splits in its line what it splits in the source. -/
theorem split?_lineAt (within : offset ≤ byteLength source) :
    let line := lineAt (sourceLines source) offset
    line.split? offset = (around? offset source).map fun (first, c) =>
      ⟨offset - line.start, first - line.start, c⟩ := by
  intro line
  rw [SourceLine.split?]
  rcases Nat.lt_or_ge offset (byteLength source) with inside | atEnd
  · cases source with
    | nil => exact absurd inside (Nat.not_lt_zero offset)
    | cons c rest =>
      obtain ⟨held, found, _, same⟩ := @exists_find?_placeLines _ _ 1 0 offset
        (rejoins_splitLines (c :: rest)) (Nat.zero_le offset) (by omega)
      have here : line = held := by
        have looked := congrArg (·.getD ((sourceLines (c :: rest)).getLastD default)) found
        exact looked
      rw [Nat.sub_zero] at same
      simp [here, same, Function.comp_def]
  · have stop : line.start + byteLength line.text ≤ byteLength source :=
      stop_lineAt_le source offset
    have behind : byteLength line.text ≤ offset - line.start := by omega
    rw [around?_of_le behind, around?_of_le atEnd]
    rfl

end lines

section spans
variable {source : List Char} {span : Span} {offset : Nat}

/-- A cut at a byte of a source splits nothing exactly if the byte is a boundary of the source. -/
theorem split?_lineAt_eq_none_iff (within : offset ≤ byteLength source) :
    (lineAt (sourceLines source) offset).split? offset = none ↔ IsBoundary source offset := by
  rw [split?_lineAt within, Option.map_eq_none_iff, around?_eq_none_iff,
    or_iff_left (Nat.not_lt_of_le within)]

/-- Nothing is split by the cuts for a range exactly if both its ends are boundaries. -/
theorem split?_eq_none_iff (start : span.start ≤ byteLength source)
    (stop : span.stop ≤ byteLength source) :
    split? (sourceLines source) span = none ↔
      IsBoundary source span.start ∧ IsBoundary source span.stop := by
  rw [split?, ← split?_lineAt_eq_none_iff start, ← split?_lineAt_eq_none_iff stop]
  split
  · next splits => simp [splits]
  · next none =>
    split
    · next empty => simp [← empty, none]
    · simp [none]

end spans

end Report

end PatternGraph
