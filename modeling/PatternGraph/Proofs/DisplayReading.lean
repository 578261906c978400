import Mathlib.Data.List.Chain
import PatternGraph.Proofs.EscapeReading
import PatternGraph.SymbolSet.Display

/-!
# Reading the display of a symbol set back

The display writes a run of consecutive members by its ends, so that the members in between are
read off the two ends. A hyphen stands for such a gap only, unless it is a member itself: without
that, a display tells the members of its set.
-/
namespace PatternGraph.SymbolSet
open Text

/-- A run holds at least one character, and each is numbered one above the one before it. -/
structure IsRun (run : List Char) : Prop where
  nonempty : run ≠ []
  consecutive : run.IsChain fun c d => d.toNat = c.toNat + 1

theorem flatten_runs (cs : List Char) : (runs cs).flatten = cs := by
  induction cs with
  | nil => rfl
  | cons c rest ih =>
    rw [runs]
    split
    · next d run more split =>
      rw [split] at ih
      split_ifs <;> simpa using ih
    · simpa using ih

theorem isRun_of_mem_runs {cs run : List Char} (member : run ∈ runs cs) : IsRun run := by
  induction cs generalizing run with
  | nil => cases member
  | cons c rest ih =>
    have alone : IsRun [c] := ⟨List.cons_ne_nil c [], List.isChain_singleton c⟩
    rw [runs] at member
    split at member
    · next d following more split =>
      rw [split] at ih
      split_ifs at member with next
      · rcases List.mem_cons.1 member with rfl | later
        · have before := (ih List.mem_cons_self).consecutive
          exact ⟨List.cons_ne_nil _ _, List.isChain_cons_cons.2 ⟨next, before⟩⟩
        · exact ih (List.mem_cons_of_mem _ later)
      · rcases List.mem_cons.1 member with rfl | later
        · exact alone
        · exact ih later
    · rcases List.mem_cons.1 member with rfl | later
      · exact alone
      · exact ih later

/-- The characters from `first` to `last`. -/
def stretch (first last : Char) : List Char :=
  (List.range' first.toNat (last.toNat + 1 - first.toNat)).map Char.ofNat

/-- A run is determined by its first character and its length. -/
theorem eq_map_range'_of_consecutive {c : Char} {run : List Char}
    (consecutive : (c :: run).IsChain fun c d => d.toNat = c.toNat + 1) :
    c :: run = (List.range' c.toNat (run.length + 1)).map Char.ofNat := by
  induction run generalizing c with
  | nil => simp [List.range'_succ]
  | cons d run ih =>
    obtain ⟨next, rest⟩ := List.isChain_cons_cons.1 consecutive
    have tail := ih rest
    rw [next] at tail
    rw [List.length_cons, List.range'_succ, List.map_cons, Char.ofNat_toNat, ← tail]

theorem toNat_getLast_of_consecutive {c : Char} {run : List Char}
    (consecutive : (c :: run).IsChain fun c d => d.toNat = c.toNat + 1) :
    (run.getLastD c).toNat = c.toNat + run.length := by
  induction run generalizing c with
  | nil => rfl
  | cons d run ih =>
    obtain ⟨next, rest⟩ := List.isChain_cons_cons.1 consecutive
    have last := ih rest
    rw [List.getLastD_cons, last, next, List.length_cons]
    omega

theorem stretch_of_consecutive {c : Char} {run : List Char}
    (consecutive : (c :: run).IsChain fun c d => d.toNat = c.toNat + 1) :
    stretch c (run.getLastD c) = c :: run := by
  have length : c.toNat + run.length + 1 - c.toNat = run.length + 1 := by omega
  rw [stretch, toNat_getLast_of_consecutive consecutive, length,
    ← eq_map_range'_of_consecutive consecutive]

/-- What is shown of a run, before it is escaped. -/
def shown : List Char → List Char
  | first :: _ :: third :: rest => [first, '-', rest.getLastD third]
  | short => short

theorem displayRun_eq_flatMap (run : List Char) :
    displayRun run = (shown run).flatMap (Escape.char .bare) := by
  have hyphen : Escape.char .bare '-' = ['-'] := by decide
  match run with
  | [] | [_] | [_, _] => rfl
  | first :: _ :: third :: rest => simp [displayRun, shown, hyphen]

/-- Put in what a hyphen stands for. -/
def expand : List Char → List Char
  | first :: '-' :: last :: rest => stretch first last ++ expand rest
  | c :: rest => c :: expand rest
  | [] => []

/-- A character that no hyphen follows stands for itself. -/
theorem expand_cons {tail : List Char} (bare : tail.head? ≠ some '-') (c : Char) :
    expand (c :: tail) = c :: expand tail := by
  have gapless : ∀ last rest, tail = '-' :: last :: rest → False := by
    rintro last rest rfl
    exact bare rfl
  rw [expand]
  exact gapless

theorem expand_shown {run tail : List Char} (isRun : IsRun run) (plain : '-' ∉ run)
    (bare : tail.head? ≠ some '-') : expand (shown run ++ tail) = run ++ expand tail := by
  match run, isRun, plain with
  | [], isRun, _ => exact absurd rfl isRun.nonempty
  | [c], _, _ => exact expand_cons bare c
  | [c, d], _, plain =>
    have second : (d :: tail).head? ≠ some '-' := by
      intro same
      exact plain (by simp [Option.some.inj same])
    calc expand (c :: d :: tail)
        = c :: expand (d :: tail) := expand_cons second c
      _ = c :: d :: expand tail := by rw [expand_cons bare d]
  | c :: d :: e :: rest, isRun, _ =>
    have whole : stretch c (rest.getLastD e) = c :: d :: e :: rest := by
      have read := stretch_of_consecutive isRun.consecutive
      rwa [List.getLastD_cons, List.getLastD_cons] at read
    calc expand (c :: '-' :: rest.getLastD e :: tail)
        = stretch c (rest.getLastD e) ++ expand tail := rfl
      _ = c :: d :: e :: rest ++ expand tail := by rw [whole]

theorem head?_shown_append {run : List Char} (nonempty : run ≠ []) (tail : List Char) :
    (shown run ++ tail).head? = run.head? := by
  match run, nonempty with
  | [_], _ | [_, _], _ => rfl
  | _ :: _ :: _ :: _, _ => rfl

/-- What is shown of several runs is read back as their members. -/
theorem expand_flatMap_shown {rs : List (List Char)} (areRuns : ∀ run ∈ rs, IsRun run)
    (plain : '-' ∉ rs.flatten) : expand (rs.flatMap shown) = rs.flatten := by
  induction rs with
  | nil => rfl
  | cons run more ih =>
    rw [List.flatten_cons, List.mem_append, not_or] at plain
    have areRunsMore : ∀ run ∈ more, IsRun run :=
      fun run member => areRuns run (List.mem_cons_of_mem _ member)
    have bare : (more.flatMap shown).head? ≠ some '-' := by
      cases more with
      | nil => simp
      | cons next later =>
        rw [List.flatMap_cons, head?_shown_append (areRunsMore next List.mem_cons_self).nonempty]
        intro first
        exact plain.2 (List.mem_append_left _ (List.mem_of_head? first))
    rw [List.flatMap_cons, expand_shown (areRuns run List.mem_cons_self) plain.1 bare,
      ih areRunsMore plain.2, List.flatten_cons]

theorem expand_runs {cs : List Char} (plain : '-' ∉ cs) :
    expand ((runs cs).flatMap shown) = cs := by
  have members := flatten_runs cs
  have areRuns : ∀ run ∈ runs cs, IsRun run := fun _ member => isRun_of_mem_runs member
  rw [expand_flatMap_shown areRuns (by rwa [members]), members]

theorem flatMap_displayRun_inj {cs ds : List Char} (plain : '-' ∉ cs) (plain' : '-' ∉ ds)
    (same : (runs cs).flatMap displayRun = (runs ds).flatMap displayRun) : cs = ds := by
  have escaped (cs : List Char) : (runs cs).flatMap displayRun =
      ((runs cs).flatMap shown).flatMap (Escape.char .bare) := by
    rw [List.flatMap_assoc]
    exact congrArg (List.flatMap · (runs cs)) (funext displayRun_eq_flatMap)
  rw [escaped, escaped] at same
  have read := congrArg expand (Escape.flatMap_char_inj same)
  rwa [expand_runs plain, expand_runs plain'] at read

/-- The members of a set without the hyphen can be read off its display. -/
theorem display_inj {s t : SymbolSet} (plain : '-' ∉ s) (plain' : '-' ∉ t)
    (same : s.display = t.display) : s = t := by
  refine SymbolSet.ext ?_
  unfold display at same
  split at same <;> split at same
  · next _ c members _ d members' =>
    obtain ⟨rfl, _⟩ := Escape.char_append_inj (List.cons.inj same).2
    rw [members, members']
  · cases same
  · cases same
  · have inner := List.append_cancel_right (List.cons.inj same).2
    exact flatMap_displayRun_inj plain plain' inner

/-- Nothing breaks the line in a display. -/
theorem isPrintable_of_mem_display {s : SymbolSet} {d : Char} (member : d ∈ s.display) :
    isPrintable d := by
  unfold display at member
  split at member
  · simp only [List.mem_append, List.mem_singleton] at member
    rcases member with (rfl | shown) | rfl
    · decide
    · exact Escape.isPrintable_of_mem_char shown
    · decide
  · simp only [List.mem_append, List.mem_singleton] at member
    rcases member with (rfl | shown) | rfl
    · decide
    · obtain ⟨run, _, within⟩ := List.mem_flatMap.1 shown
      rw [displayRun_eq_flatMap] at within
      obtain ⟨c, _, escaped⟩ := List.mem_flatMap.1 within
      exact Escape.isPrintable_of_mem_char escaped
    · decide

/-! With the hyphen as a member, two sets can have the same display. -/
example : (ofList ['+', '-', '/']).display = (ofList ['+', ',', '-', '.', '/']).display := by
  decide

end PatternGraph.SymbolSet
