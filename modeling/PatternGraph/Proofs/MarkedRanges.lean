import Mathlib.Data.List.Forall2
import PatternGraph.Proofs.OfferedFix
import PatternGraph.Proofs.SourceCuts
import PatternGraph.Report

/-!
# Ranges that a report marks

An empty range is widened by a byte before it is marked, so that its mark is seen. That byte is a
whole character only if a character of a single byte stands there: in front of a wider one the
marked range ends inside it, and no report can be drawn. The errors of a compilation never come to
that, since each range of theirs covers some characters or stands at the end of the source.
-/
namespace PatternGraph
open Text

namespace Text

/-- The range lies in the text, and both its ends are boundaries. -/
structure Within (text : List Char) (range : Span) : Prop where
  ordered : range.start ≤ range.stop
  start : IsBoundary text range.start
  stop : IsBoundary text range.stop

/-- The range is empty and stands right before `c` in the text. -/
def InFrontOf (text : List Char) (range : Span) (c : Char) : Prop :=
  ∃ front back, text = front ++ c :: back ∧ range = ⟨byteLength front, byteLength front⟩

section ranges
variable {text : List Char} {range : Span} {c : Char}

theorem within_iff :
    Within text range ↔
      range.start ≤ range.stop ∧ IsBoundary text range.start ∧ IsBoundary text range.stop :=
  ⟨fun within => ⟨within.1, within.2, within.3⟩, fun ⟨ordered, start, stop⟩ =>
    ⟨ordered, start, stop⟩⟩

instance (text : List Char) (range : Span) : Decidable (Within text range) :=
  decidable_of_iff _ within_iff.symm

/-- A range that cuts something out of a text lies in it. -/
theorem within_of_slice? {run : List Char} (covers : slice? text range = some run) :
    Within text range := by
  rw [slice?] at covers
  split at covers
  · next valid => exact within_iff.2 valid
  · cases covers

theorem within_end (text : List Char) : Within text ⟨byteLength text, byteLength text⟩ :=
  have atEnd := isBoundary_byteLength (List.prefix_refl text)
  ⟨Nat.le_refl _, atEnd, atEnd⟩

theorem InFrontOf.empty (ahead : InFrontOf text range c) : range.start = range.stop := by
  obtain ⟨front, back, _, rfl⟩ := ahead
  rfl

theorem InFrontOf.lt (ahead : InFrontOf text range c) : range.start < byteLength text := by
  obtain ⟨front, back, rfl, rfl⟩ := ahead
  have positive := c.utf8Size_pos
  rw [byteLength_append, byteLength_cons]
  simp only
  omega

/-- At most one character stands behind an empty range. -/
theorem InFrontOf.unique {d : Char} (ahead : InFrontOf text range c)
    (other : InFrontOf text range d) : c = d := by
  obtain ⟨front, back, rfl, rfl⟩ := ahead
  obtain ⟨front', back', split, same⟩ := other
  have starts : byteLength front = byteLength front' := congrArg Span.start same
  have behind := dropBytes_byteLength front' (d :: back')
  rw [← split, ← starts, dropBytes_byteLength] at behind
  exact (List.cons.inj behind).1

theorem InFrontOf.forall_iff {p : Char → Prop} (ahead : InFrontOf text range c) :
    (∀ d, InFrontOf text range d → p d) ↔ p c :=
  ⟨fun holds => holds c ahead, fun holds _ other => ahead.unique other ▸ holds⟩

/-- Some character stands behind an empty range unless the text ends there. -/
theorem exists_inFrontOf_iff (within : Within text range) :
    (∃ c, InFrontOf text range c) ↔
      range.start = range.stop ∧ range.start < byteLength text := by
  constructor
  · rintro ⟨c, ahead⟩
    exact ⟨ahead.empty, ahead.lt⟩
  · rintro ⟨empty, inside⟩
    obtain ⟨start, stop⟩ := range
    obtain ⟨front, ⟨back, rfl⟩, rfl⟩ := within.start
    cases back with
    | nil =>
      rw [List.append_nil] at inside
      exact absurd inside (Nat.lt_irrefl _)
    | cons c back => exact ⟨c, front, back, rfl, congrArg (Span.mk _) empty.symm⟩

end ranges

end Text

namespace Report

/-- A range to mark that lies in the source and shows all of `range`. Of an empty range in front of
a character it shows that character. -/
structure ShowsWhole (source : List Char) (range marked : Span) : Prop where
  within : Within source marked
  start : marked.start ≤ range.start
  stop : range.stop ≤ marked.stop
  character : ∀ c, InFrontOf source range c → slice? source marked = some [c]

section marking
variable {source : List Char} {range : Span} {c : Char}

theorem markedRange_of_inFrontOf (ahead : InFrontOf source range c) :
    markedRange range (byteLength source) = ⟨range.start, range.start + 1⟩ := by
  rw [markedRange, if_pos ahead.empty, Nat.min_eq_left ahead.lt]

/-- A range that covers something stays as it is, and so does one at the end of the source. -/
theorem markedRange_of_not_inFrontOf (within : Within source range)
    (nothing : ∀ c, ¬ InFrontOf source range c) :
    markedRange range (byteLength source) = range := by
  rw [markedRange]
  split
  · next empty =>
    have atEnd : ¬ range.start < byteLength source := fun inside =>
      let ⟨c, ahead⟩ := (exists_inFrontOf_iff within).2 ⟨empty, inside⟩
      nothing c ahead
    have stop := le_of_isBoundary within.stop
    obtain ⟨start, stop⟩ := range
    simp only [Span.mk.injEq, true_and] at *
    omega
  · rfl

/-- One byte behind the start of a character is a boundary exactly if the character is a single
byte. -/
theorem isBoundary_succ_iff (ahead : InFrontOf source range c) :
    IsBoundary source (range.start + 1) ↔ c.utf8Size = 1 := by
  have inside := ahead.lt
  obtain ⟨front, back, rfl, rfl⟩ := ahead
  have cut := @around?_eq_none_iff (front ++ c :: back) (byteLength front + 1)
  rw [around?_succ, or_iff_left (Nat.not_lt_of_le inside)] at cut
  rw [← cut]
  simp

theorem bounds_markedRange (within : Within source range) :
    (markedRange range (byteLength source)).start = range.start ∧
      range.stop ≤ (markedRange range (byteLength source)).stop ∧
      (markedRange range (byteLength source)).stop ≤ byteLength source := by
  have stop := le_of_isBoundary within.stop
  rw [markedRange]
  split
  · next empty =>
    refine ⟨rfl, ?_, Nat.min_le_right _ _⟩
    rw [empty]
    exact Nat.le_min.2 ⟨Nat.le_succ _, stop⟩
  · exact ⟨rfl, Nat.le_refl _, stop⟩

theorem showsWhole_markedRange_iff (within : Within source range) :
    ShowsWhole source range (markedRange range (byteLength source)) ↔
      ∀ c, InFrontOf source range c → c.utf8Size = 1 := by
  by_cases ahead : ∃ c, InFrontOf source range c
  · obtain ⟨c, ahead⟩ := ahead
    rw [markedRange_of_inFrontOf ahead, ahead.forall_iff]
    constructor
    · intro shows
      exact (isBoundary_succ_iff ahead).1 shows.within.stop
    · intro single
      have stop := (isBoundary_succ_iff ahead).2 single
      have covers : slice? source ⟨range.start, range.start + 1⟩ = some [c] := by
        obtain ⟨front, back, rfl, rfl⟩ := ahead
        have covers := slice?_append front [c] back
        rwa [byteLength_cons, byteLength_nil, single] at covers
      refine ⟨⟨Nat.le_succ _, within.start, stop⟩, Nat.le_refl _, ?_, ahead.forall_iff.2 covers⟩
      rw [← ahead.empty]
      exact Nat.le_succ _
  · have nothing := not_exists.1 ahead
    have vacuous {p : Char → Prop} : ∀ c, InFrontOf source range c → p c :=
      fun c ahead => absurd ahead (nothing c)
    rw [markedRange_of_not_inFrontOf within nothing]
    exact iff_of_true ⟨within, Nat.le_refl _, Nat.le_refl _, vacuous⟩ vacuous

theorem split?_eq_none_of_within (within : Within source range) :
    split? (sourceLines source) range = none :=
  (split?_eq_none_iff (le_of_isBoundary within.start) (le_of_isBoundary within.stop)).2
    ⟨within.start, within.stop⟩

/-- The cuts for a marked range split nothing exactly if it shows what it should. -/
theorem split?_markedRange_eq_none_iff (within : Within source range) :
    split? (sourceLines source) (markedRange range (byteLength source)) = none ↔
      ∀ c, InFrontOf source range c → c.utf8Size = 1 := by
  by_cases ahead : ∃ c, InFrontOf source range c
  · obtain ⟨c, ahead⟩ := ahead
    have cuts := @split?_eq_none_iff source ⟨range.start, range.start + 1⟩
      (le_of_isBoundary within.start) ahead.lt
    rw [markedRange_of_inFrontOf ahead, ahead.forall_iff, cuts, and_iff_right within.start,
      isBoundary_succ_iff ahead]
  · have nothing := not_exists.1 ahead
    rw [markedRange_of_not_inFrontOf within nothing]
    exact iff_of_true (split?_eq_none_of_within within) fun c ahead => absurd ahead (nothing c)

/-- What they do split is the character that one byte is not enough for. -/
theorem inFrontOf_of_split? (within : Within source range) {split : SplitCharacter}
    (splits : split? (sourceLines source) (markedRange range (byteLength source)) = some split) :
    InFrontOf source range split.char ∧ split.char.utf8Size ≠ 1 := by
  by_cases ahead : ∃ c, InFrontOf source range c
  · obtain ⟨c, ahead⟩ := ahead
    have start := (split?_lineAt_eq_none_iff (le_of_isBoundary within.start)).2 within.start
    rw [markedRange_of_inFrontOf ahead, split?, start] at splits
    simp only [Nat.ne_of_lt (Nat.lt_succ_self range.start), if_false,
      split?_lineAt (Nat.succ_le_of_lt ahead.lt)] at splits
    have placed := ahead
    obtain ⟨front, back, rfl, rfl⟩ := placed
    rw [around?_succ] at splits
    by_cases single : c.utf8Size = 1
    · simp [single] at splits
    · rw [if_neg single, Option.map_some, Option.some.injEq] at splits
      rw [← splits]
      exact ⟨ahead, single⟩
  · have nothing := not_exists.1 ahead
    rw [(split?_markedRange_eq_none_iff within).2 fun c ahead => absurd ahead (nothing c)] at splits
    cases splits

end marking

end Report

namespace Diagnostic
open Report
variable {d : Diagnostic} {source : List Char}

/-- The ranges of a diagnostic, the main one first. -/
def ranges (d : Diagnostic) : List Span := d.range :: d.related.map (·.range)

theorem map_markedRanges (d : Diagnostic) (limit : Nat) :
    (markedRanges d limit).map (·.1) = d.ranges.map (markedRange · limit) := by
  simp [markedRanges, ranges, Function.comp_def]

theorem mem_cutRanges_iff {limit : Nat} {cut : Span} :
    cut ∈ cutRanges d limit ↔
      (∃ range ∈ d.ranges, markedRange range limit = cut) ∨ ∃ fix ∈ d.fix, fix.range = cut := by
  rw [cutRanges, map_markedRanges, List.mem_append, List.mem_map]
  simp

section rendering
variable {path : Option String} {styled : Bool} {split : SplitCharacter}

/-- A report is drawn exactly if no cut for it splits a character. -/
theorem render_eq_ok_iff {text : String} :
    d.render source path styled = .ok text ↔
      text = d.report source path styled ∧
        ∀ cut ∈ cutRanges d (byteLength source), split? (sourceLines source) cut = none := by
  rw [← List.findSome?_eq_none_iff, render]
  split
  · next found => simp [found]
  · next nothing => simp [nothing, eq_comm]

theorem exists_cut_of_render_eq_error (failed : d.render source path styled = .error split) :
    ∃ cut ∈ cutRanges d (byteLength source), split? (sourceLines source) cut = some split := by
  rw [render] at failed
  split at failed
  · next found =>
    cases failed
    exact List.exists_of_findSome?_eq_some found
  · cases failed

/-- A report is drawn where ranges and fix lie in the source and every character behind an empty
range is a single byte. -/
theorem render_eq_report (within : ∀ range ∈ d.ranges, Within source range)
    (fixed : ∀ fix ∈ d.fix, Within source fix.range)
    (single : ∀ range ∈ d.ranges, ∀ c, InFrontOf source range c → c.utf8Size = 1) :
    d.render source path styled = .ok (d.report source path styled) := by
  refine render_eq_ok_iff.2 ⟨rfl, fun cut member => ?_⟩
  rcases mem_cutRanges_iff.1 member with ⟨range, among, rfl⟩ | ⟨fix, offered, rfl⟩
  · exact (split?_markedRange_eq_none_iff (within range among)).2 (single range among)
  · exact split?_eq_none_of_within (fixed fix offered)

/-- Otherwise such a character of several bytes is split. -/
theorem render_eq_error (within : ∀ range ∈ d.ranges, Within source range)
    (fixed : ∀ fix ∈ d.fix, Within source fix.range)
    (wide : ∃ range ∈ d.ranges, ∃ c, InFrontOf source range c ∧ c.utf8Size ≠ 1) :
    ∃ split, d.render source path styled = .error split ∧
      ∃ range ∈ d.ranges, InFrontOf source range split.char ∧ split.char.utf8Size ≠ 1 := by
  cases rendered : d.render source path styled with
  | ok text =>
    obtain ⟨range, among, c, ahead, wide⟩ := wide
    have uncut := (render_eq_ok_iff.1 rendered).2 _ (mem_cutRanges_iff.2 (.inl ⟨range, among, rfl⟩))
    exact absurd ((split?_markedRange_eq_none_iff (within range among)).1 uncut c ahead) wide
  | error split =>
    obtain ⟨cut, member, splits⟩ := exists_cut_of_render_eq_error rendered
    rcases mem_cutRanges_iff.1 member with ⟨range, among, rfl⟩ | ⟨fix, offered, rfl⟩
    · exact ⟨split, rfl, range, among, inFrontOf_of_split? (within range among) splits⟩
    · cases (split?_eq_none_of_within (fixed fix offered)).symm.trans splits

example :
    (Diagnostic.bare .expectedAtom ⟨0, 0⟩).render ['字'] none false = .error ⟨1, 0, '字'⟩ := by
  decide

end rendering

end Diagnostic

section compilation
variable {source : List Char} {error : CompileError} {d : Diagnostic}

/-- The range covers some characters of the source, or stands at its end. -/
def Covers (source : List Char) (range : Span) : Prop :=
  (∃ c run, slice? source range = some (c :: run)) ∨
    range = ⟨byteLength source, byteLength source⟩

theorem Covers.within {range : Span} (covers : Covers source range) : Within source range := by
  rcases covers with ⟨c, run, cut⟩ | rfl
  · exact within_of_slice? cut
  · exact within_end source

theorem Covers.not_inFrontOf {range : Span} (covers : Covers source range) (c : Char) :
    ¬ InFrontOf source range c := by
  intro ahead
  rcases covers with ⟨d, run, cut⟩ | rfl
  · rw [slice?, ahead.empty, Nat.sub_self, takeBytes] at cut
    split at cut <;> cases cut
  · exact absurd ahead.lt (Nat.lt_irrefl _)

theorem Parse.Misplaced.related_eq_nil {before : List Token} {t : Token}
    (misplaced : Parse.Misplaced before t d) : d.related = [] := by
  cases misplaced <;> rfl

/-- Each range of an error of a compilation covers some characters, or stands at the end, and so
does its fix. -/
theorem covers_of_compile (failed : compile source = .error error)
    (told : error.diagnostic? = some d) :
    (∀ range ∈ d.ranges, Covers source range) ∧ ∀ fix ∈ d.fix, Covers source fix.range := by
  by_cases alphabet : ∀ c ∈ source, Token.InAlphabet c
  · obtain ⟨tokens, diagnostic, read, rfl, fails⟩ := exists_fails alphabet failed
    cases told
    have token {t : Token} (member : t ∈ tokens) : Covers source t.span :=
      .inl ⟨t.char, [], Token.slice?_span read member⟩
    cases fails with
    | nothing => exact ⟨List.forall_mem_singleton.2 (.inr rfl), by simp [Diagnostic.bare]⟩
    | unclosed opens =>
      obtain ⟨front, inner, rfl, _⟩ := opens
      refine ⟨List.forall_mem_cons.2 ⟨.inr rfl, List.forall_mem_singleton.2 (token (by simp))⟩, ?_⟩
      intro fix offered
      cases offered
      exact .inr rfl
    | misplaced split misplaced =>
      rw [Diagnostic.ranges, misplaced.related_eq_nil, misplaced.range_eq, misplaced.fix_eq_none]
      exact ⟨List.forall_mem_singleton.2 (token (by simp [split])), by simp⟩
  · have unknown : ∃ c ∈ source, ¬ Token.InAlphabet c := by simpa using alphabet
    obtain ⟨front, run, back, first⟩ := Token.exists_firstRun unknown
    have refused : Token.ofSource source = _ := first.ofSourceFrom_eq_error 0
    rw [compile, Compilation.ofSource, refused] at failed
    cases failed
    cases told
    obtain ⟨c, rest, rfl⟩ := List.exists_cons_of_ne_nil first.nonempty
    have cut := slice?_append front (c :: rest) back
    rw [← first.split] at cut
    refine ⟨List.forall_mem_singleton.2 (.inl ⟨c, rest, ?_⟩), by simp [Token.unrecognized]⟩
    simpa [Token.unrecognized] using cut

theorem narrow_of_compile (failed : compile source = .error error)
    (told : error.diagnostic? = some d) :
    ∀ range ∈ d.ranges, ∀ c, InFrontOf source range c → c.utf8Size = 1 := by
  obtain ⟨covers, _⟩ := covers_of_compile failed told
  exact fun range member c ahead => absurd ahead ((covers range member).not_inFrontOf c)

/-- The report of an error of a compilation is always drawn. -/
theorem Diagnostic.render_of_compile (failed : compile source = .error error)
    (told : error.diagnostic? = some d) (path : Option String) (styled : Bool) :
    d.render source path styled = .ok (d.report source path styled) := by
  obtain ⟨covers, fixed⟩ := covers_of_compile failed told
  exact render_eq_report (fun range member => (covers range member).within)
    (fun fix offered => (fixed fix offered).within) (narrow_of_compile failed told)

end compilation

section reports
open Report

/-- A marked range lies in the source, begins where the range of the diagnostic does and covers it.
It shows whole characters, of an empty range the one that starts there, exactly if no character of
several bytes stands behind an empty range. None does behind a range of an error of a
compilation. -/
theorem marked_ranges_whole_iff_single_byte {d : Diagnostic} {source : List Char}
    (within : ∀ range ∈ d.ranges, Within source range) :
    let narrow := fun range => ∀ c, InFrontOf source range c → c.utf8Size = 1
    List.Forall₂ (fun range marked =>
        (ShowsWhole source range marked ↔ narrow range) ∧ marked.start = range.start ∧
          range.stop ≤ marked.stop ∧ marked.stop ≤ byteLength source)
      d.ranges ((markedRanges d (byteLength source)).map (·.1)) ∧
      ∀ error, compile source = .error error → error.diagnostic? = some d →
        ∀ range ∈ d.ranges, narrow range := by
  intro narrow
  refine ⟨?ranges, fun error failed told => narrow_of_compile failed told⟩
  rw [Diagnostic.map_markedRanges, List.forall₂_map_right_iff, List.forall₂_same]
  intro range member
  have inside := within range member
  exact ⟨showsWhole_markedRange_iff inside, bounds_markedRange inside⟩

/-- The main range stands in front of a single byte, and the note covers a character of two. -/
theorem marked_ranges_whole_iff_single_byte_mixed :
    let source := "aé".toList
    let d : Diagnostic := { Diagnostic.bare .expectedAtom ⟨0, 0⟩ with related := [⟨⟨1, 3⟩, "é"⟩] }
    (∀ range ∈ d.ranges, Within source range) ∧
      List.Forall₂ (ShowsWhole source) [⟨0, 0⟩, ⟨1, 3⟩] [⟨0, 1⟩, ⟨1, 3⟩] := by
  intro source d
  have within : ∀ range ∈ d.ranges, Within source range := by decide
  have single : ∀ c, InFrontOf source ⟨0, 0⟩ c → c.utf8Size = 1 := by
    have ahead : InFrontOf source ⟨0, 0⟩ 'a' := ⟨[], ['é'], rfl, rfl⟩
    exact ahead.forall_iff.2 (by decide)
  have covered : ∀ c, InFrontOf source ⟨1, 3⟩ c → c.utf8Size = 1 :=
    fun c ahead => absurd ahead.empty (by decide)
  obtain ⟨ranges, -⟩ := marked_ranges_whole_iff_single_byte within
  obtain ⟨⟨main, _⟩, notes⟩ := List.forall₂_cons.1 ranges
  obtain ⟨⟨note, _⟩, _⟩ := List.forall₂_cons.1 notes
  exact ⟨within, .cons (main.2 single) (.cons (note.2 covered) .nil)⟩

/-- In front of a character of three bytes, the marked range ends inside it. -/
theorem empty_range_splits_wide_character :
    let source := ['字']
    let d := Diagnostic.bare .expectedAtom ⟨0, 0⟩
    (∀ range ∈ d.ranges, Within source range) ∧
      ¬ List.Forall₂ (ShowsWhole source) d.ranges
        ((markedRanges d (byteLength source)).map (·.1)) := by
  intro source d
  refine ⟨by decide, ?_⟩
  intro whole
  obtain ⟨shows, _⟩ := List.forall₂_cons.1 whole
  exact absurd shows.within (by decide)

end reports

end PatternGraph
