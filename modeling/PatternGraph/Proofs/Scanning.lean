import Mathlib.Data.List.TakeWhile
import PatternGraph.Proofs.TokenSpans

/-!
# Scanning a source

A source is scanned character by character. The scanner keeps the tokens so far and, once it has
met a character that is no token, the byte where the run of such characters began; the run ends
before the next token or with the source. So a source of the alphabet is cut into tokens that tile
it, one for each character, and any other source is refused at the first maximal run of characters
outside the alphabet.
-/
namespace PatternGraph.Token
open Text

/-- The kind of token that a character is. -/
inductive Spells : Char → Kind → Prop
  | wildcard : Spells '.' .wildcard
  | star : Spells '*' .star
  | plus : Spells '+' .plus
  | question : Spells '?' .question
  | classOpen : Spells '[' .classOpen
  | classClose : Spells ']' .classClose
  | letterOrNumber {c : Char} (listed : inRanges letterOrNumberRanges c.toNat) : Spells c .char
  | underscore : Spells '_' .char

theorem ofChar?_eq_some_iff {c : Char} {kind : Kind} :
    Kind.ofChar? c = some kind ↔ Spells c kind := by
  constructor
  · intro known
    unfold Kind.ofChar? at known
    split at known
    case h_7 =>
      split at known
      · next literal =>
        cases known
        simp only [isLiteral, Bool.or_eq_true, decide_eq_true_eq] at literal
        rcases literal with rfl | listed
        · exact .underscore
        · exact .letterOrNumber listed
      · cases known
    all_goals
      cases known
      constructor
  · intro spelled
    cases spelled with
    | letterOrNumber listed =>
      unfold Kind.ofChar?
      split
      case h_7 => rw [if_pos (by rw [isLiteral, listed, Bool.or_true])]
      all_goals exact absurd listed (by decide)
    | underscore => decide
    | _ => rfl

theorem Spells.ne_endOfInput {c : Char} {kind : Kind} (spelled : Spells c kind) :
    kind ≠ .endOfInput := by
  cases spelled <;> simp

theorem ofChar?_eq_none_iff {c : Char} : Kind.ofChar? c = none ↔ ¬ InAlphabet c := by
  rw [← recognized_iff_inAlphabet, Recognized, Option.not_isSome_iff_eq_none]

/-- Where a scan stands between two characters. -/
structure Scan where
  tokens : List Token := []
  /-- The byte where the characters that are no tokens begin. -/
  runStart? : Option Nat := none

namespace Scan

/-- Go over the character at byte `start`. A token behind a run stops the scan with the run. -/
def step (scan : Scan) (c : Char) (start : Nat) : Except Span Scan :=
  match Kind.ofChar? c, scan.runStart? with
  | some kind, none => .ok { scan with tokens := scan.tokens ++ [⟨kind, c, start⟩] }
  | some _, some runStart => .error ⟨runStart, start⟩
  | none, none => .ok { scan with runStart? := some start }
  | none, some _ => .ok scan

/-- The tokens of a source that ends at byte `stop`, or the run that it ends in. -/
def finish (scan : Scan) (stop : Nat) : Except Span (List Token) :=
  match scan.runStart? with
  | some runStart => .error ⟨runStart, stop⟩
  | none => .ok scan.tokens

/-- Scan on from byte `offset`. -/
def continueFrom (scan : Scan) (offset : Nat) : List Char → Except Span (List Token)
  | [] => scan.finish offset
  | c :: rest =>
    match scan.step c offset with
    | .error range => .error range
    | .ok next => next.continueFrom (offset + c.utf8Size) rest

/-- Scan a source: its tokens, or the range of the characters that are none. -/
def ofSource (source : List Char) : Except Span (List Token) :=
  ({} : Scan).continueFrom 0 source

/-- Once in a run, a scan stops behind the characters that are no tokens. -/
theorem continueFrom_running (tokens : List Token) (runStart offset : Nat) (source : List Char) :
    (⟨tokens, some runStart⟩ : Scan).continueFrom offset source =
      .error ⟨runStart, offset + byteLength (source.takeWhile (!Recognized ·))⟩ := by
  induction source generalizing offset with
  | nil => rfl
  | cons c rest ih =>
    rw [continueFrom, step, List.takeWhile_cons, Recognized]
    cases known : Kind.ofChar? c with
    | some kind => simp
    | none => simp [ih, Nat.add_assoc]

/-- A scan that is in no run finds what the rest of the source amounts to. -/
theorem continueFrom_eq (tokens : List Token) (offset : Nat) (source : List Char) :
    (⟨tokens, none⟩ : Scan).continueFrom offset source =
      match ofSourceFrom offset source with
      | .error diagnostic => .error diagnostic.range
      | .ok following => .ok (tokens ++ following) := by
  induction source generalizing tokens offset with
  | nil => simp [continueFrom, finish, ofSourceFrom]
  | cons c rest ih =>
    rw [continueFrom, step, ofSourceFrom]
    cases known : Kind.ofChar? c with
    | none =>
      simp only [continueFrom_running]
      simp [unrecognized, Nat.add_assoc]
    | some kind =>
      simp only [ih]
      cases ofSourceFrom (offset + c.utf8Size) rest with
      | error diagnostic => rfl
      | ok following => simp

/-- A scan finds the tokens of a source, or the range of its error. -/
theorem ofSource_eq (source : List Char) :
    ofSource source = (Token.ofSource source).mapError (·.range) := by
  rw [ofSource, continueFrom_eq, Token.ofSource]
  cases ofSourceFrom 0 source <;> rfl

end Scan

section tokens
variable {offset : Nat} {source : List Char} {tokens : List Token}

theorem map_char_of_ofSourceFrom (read : ofSourceFrom offset source = .ok tokens) :
    tokens.map (·.char) = source := by
  induction source generalizing offset tokens with
  | nil =>
    cases read
    rfl
  | cons c rest ih =>
    obtain ⟨kind, following, _, readRest, rfl⟩ := ofSourceFrom_cons_eq_ok_iff.1 read
    rw [List.map_cons, ih readRest]

theorem spells_of_mem (read : ofSourceFrom offset source = .ok tokens) {t : Token}
    (member : t ∈ tokens) : Spells t.char t.kind := by
  induction source generalizing offset tokens with
  | nil =>
    cases read
    cases member
  | cons c rest ih =>
    obtain ⟨kind, following, known, readRest, rfl⟩ := ofSourceFrom_cons_eq_ok_iff.1 read
    rcases List.mem_cons.1 member with rfl | later
    · exact ofChar?_eq_some_iff.1 known
    · exact ih readRest later

theorem ne_endOfInput_of_mem (read : ofSourceFrom offset source = .ok tokens) {t : Token}
    (member : t ∈ tokens) : t.kind ≠ .endOfInput :=
  (spells_of_mem read member).ne_endOfInput

/-- Spans that follow each other without gaps from byte `start` to byte `stop`, none of them
empty. -/
def Tiles (stop : Nat) : Nat → List Span → Prop
  | start, [] => start = stop
  | start, span :: later => span.start = start ∧ start < span.stop ∧ Tiles stop span.stop later

theorem tiles_of_ofSourceFrom (read : ofSourceFrom offset source = .ok tokens) :
    Tiles (offset + byteLength source) offset (tokens.map (·.span)) := by
  induction source generalizing offset tokens with
  | nil =>
    cases read
    rfl
  | cons c rest ih =>
    obtain ⟨kind, following, _, readRest, rfl⟩ := ofSourceFrom_cons_eq_ok_iff.1 read
    have later := ih readRest
    rw [Nat.add_assoc, ← byteLength_cons] at later
    exact ⟨rfl, Nat.lt_add_of_pos_right c.utf8Size_pos, later⟩

end tokens

/-- `run` is the first of the longest possible stretches of a source that lie outside the alphabet,
behind `front` and before `back`. -/
structure FirstRun (source front run back : List Char) : Prop where
  split : source = front ++ (run ++ back)
  known : ∀ c ∈ front, InAlphabet c
  nonempty : run ≠ []
  unknown : ∀ c ∈ run, ¬ InAlphabet c
  maximal : ∀ c ∈ back.head?, InAlphabet c

theorem exists_firstRun {source : List Char} (unknown : ∃ c ∈ source, ¬ InAlphabet c) :
    ∃ front run back, FirstRun source front run back := by
  induction source with
  | nil =>
    obtain ⟨_, member, _⟩ := unknown
    cases member
  | cons c rest ih =>
    by_cases first : InAlphabet c
    · have later : ∃ d ∈ rest, ¬ InAlphabet d := by
        obtain ⟨d, member, outside⟩ := unknown
        rcases List.mem_cons.1 member with rfl | later
        · exact absurd first outside
        · exact ⟨d, later, outside⟩
      obtain ⟨front, run, back, found⟩ := ih later
      exact ⟨c :: front, run, back, congrArg (c :: ·) found.split,
        List.forall_mem_cons.2 ⟨first, found.known⟩, found.nonempty, found.unknown, found.maximal⟩
    · refine ⟨[], c :: rest.takeWhile (¬ InAlphabet ·), rest.dropWhile (¬ InAlphabet ·),
        ?split, by simp, by simp, ?unknown, ?maximal⟩
      case split => simp
      case unknown =>
        refine List.forall_mem_cons.2 ⟨first, fun d member => ?_⟩
        simpa using List.mem_takeWhile_imp member
      case maximal =>
        intro d ahead
        by_contra outside
        have stops := List.head?_dropWhile_not (fun d => decide (¬ InAlphabet d)) rest
        rw [Option.mem_def] at ahead
        rw [ahead] at stops
        simp [outside] at stops

/-- A source is refused at its first run outside the alphabet. -/
theorem FirstRun.ofSourceFrom_eq_error {source front run back : List Char}
    (first : FirstRun source front run back) (offset : Nat) :
    ofSourceFrom offset source = .error (unrecognized (offset + byteLength front) run) := by
  obtain ⟨rfl, known, nonempty, unknown, maximal⟩ := first
  induction front generalizing offset with
  | nil =>
    obtain ⟨c, run, rfl⟩ := List.exists_cons_of_ne_nil nonempty
    have foreign : Kind.ofChar? c = none :=
      ofChar?_eq_none_iff.2 (unknown c List.mem_cons_self)
    -- no character of the run ends it, and the one behind it does
    have stretch : (run ++ back).takeWhile (!Recognized ·) = run := by
      have ending : back.takeWhile (!Recognized ·) = [] := by
        cases back with
        | nil => rfl
        | cons d back =>
          have next := recognized_iff_inAlphabet.2 (maximal d rfl)
          simp [next]
      rw [List.takeWhile_append_of_pos, ending, List.append_nil]
      intro d member
      have outside := unknown d (List.mem_cons_of_mem c member)
      simpa [← recognized_iff_inAlphabet] using outside
    rw [List.nil_append, List.cons_append, ofSourceFrom, foreign]
    simp only [stretch]
    rfl
  | cons c front ih =>
    obtain ⟨inside, later⟩ := List.forall_mem_cons.1 known
    obtain ⟨kind, spelled⟩ := Option.isSome_iff_exists.1 (recognized_iff_inAlphabet.2 inside)
    rw [List.cons_append, ofSourceFrom, spelled]
    simp only [ih (offset + c.utf8Size) later, byteLength_cons, Nat.add_assoc]

/-- The message speaks of one character. -/
def InSingular (message : String) : Prop :=
  "unrecognized character `".toList <+: message.toList

theorem inSingular_unrecognized_iff (start : Nat) (run : List Char) :
    InSingular (unrecognized start run).message ↔ run.length = 1 := by
  unfold InSingular unrecognized
  by_cases single : run.length = 1 <;> simp [single]

/-- A scan is exact. A source of the alphabet has one token for each character, in order and of the
kind that the character determines; their spans tile the source and their texts put together are
the source. Any other source is refused at its first maximal run of characters outside the
alphabet. -/
theorem scan_tiles_or_refuses_first_run (source : List Char) :
    Scan.ofSource source = (ofSource source).mapError (·.range) ∧
      ((∀ c ∈ source, InAlphabet c) →
        ∃ (tokens : List Token) (texts : List (List Char)),
          ofSource source = .ok tokens ∧ tokens.map (·.char) = source ∧
          (∀ t ∈ tokens, Spells t.char t.kind ∧ t.kind ≠ .endOfInput) ∧
          Tiles (byteLength source) 0 (tokens.map (·.span)) ∧
          tokens.map (fun t => slice? source t.span) = texts.map some ∧ texts.flatten = source) ∧
      ((∃ c ∈ source, ¬ InAlphabet c) →
        ∃ front run back diagnostic, FirstRun source front run back ∧
          ofSource source = .error diagnostic ∧ diagnostic.kind = .unrecognizedInput ∧
          diagnostic.range = ⟨byteLength front, byteLength front + byteLength run⟩ ∧
          slice? source diagnostic.range = some run ∧
          (InSingular diagnostic.message ↔ run.length = 1)) := by
  refine ⟨Scan.ofSource_eq source, ?tokens, ?refusal⟩
  case tokens =>
    intro alphabet
    obtain ⟨tokens, read⟩ := exists_tokens_iff.2 alphabet
    have chars := map_char_of_ofSourceFrom read
    have tiles := tiles_of_ofSourceFrom read
    rw [Nat.zero_add] at tiles
    refine ⟨tokens, tokens.map ([·.char]), read, chars, ?_, tiles, ?_, ?_⟩
    · exact fun t member => ⟨spells_of_mem read member, ne_endOfInput_of_mem read member⟩
    · rw [List.map_map]
      exact List.map_congr_left fun t member => slice?_span read member
    · rw [← List.flatMap_def, ← List.map_eq_flatMap, chars]
  case refusal =>
    intro unknown
    obtain ⟨front, run, back, first⟩ := exists_firstRun unknown
    have refused := first.ofSourceFrom_eq_error 0
    rw [Nat.zero_add] at refused
    refine ⟨front, run, back, _, first, refused, rfl, rfl, ?_, inSingular_unrecognized_iff _ run⟩
    rw [first.split]
    exact slice?_append front run back

end PatternGraph.Token
