import PatternGraph.Pattern.Token

/-!
# Tokens of a text

A text whose characters all belong to the alphabet of patterns has one token for each of them, and
no other text has tokens.
-/
namespace PatternGraph.Token

/-- A letter or number by its general category, `_`, or a character with a meaning of its own. -/
def InAlphabet (c : Char) : Prop :=
  Text.inRanges Text.letterOrNumberRanges c.toNat ∨ c = '_' ∨ c ∈ ['.', '*', '+', '?', '[', ']']

theorem recognized_iff_inAlphabet {c : Char} : Recognized c ↔ InAlphabet c := by
  unfold Recognized Kind.ofChar? InAlphabet
  split
  case h_7 dot star plus question opening closing =>
    have ordinary : c ∉ ['.', '*', '+', '?', '[', ']'] := by simp_all
    simp [Text.isLiteral, ordinary, or_comm]
  all_goals simp

instance (c : Char) : Decidable (InAlphabet c) := decidable_of_iff _ recognized_iff_inAlphabet

/-- The tokens of a text are a token of its first character and the tokens of the rest. -/
theorem ofSourceFrom_cons_eq_ok_iff {offset : Nat} {c : Char} {rest : List Char}
    {tokens : List Token} :
    ofSourceFrom offset (c :: rest) = .ok tokens ↔
      ∃ kind following, Kind.ofChar? c = some kind ∧
        ofSourceFrom (offset + c.utf8Size) rest = .ok following ∧
        tokens = ⟨kind, c, offset⟩ :: following := by
  simp only [ofSourceFrom]
  cases Kind.ofChar? c with
  | none => simp
  | some kind =>
    cases ofSourceFrom (offset + c.utf8Size) rest with
    | error diagnostic => simp
    | ok following => simp [eq_comm]

theorem exists_tokens_iff {offset : Nat} {source : List Char} :
    (∃ tokens, ofSourceFrom offset source = .ok tokens) ↔ ∀ c ∈ source, InAlphabet c := by
  induction source generalizing offset with
  | nil => simp [ofSourceFrom]
  | cons c rest ih =>
    rw [List.forall_mem_cons, ← recognized_iff_inAlphabet, ← @ih (offset + c.utf8Size)]
    simp only [ofSourceFrom_cons_eq_ok_iff, Recognized, Option.isSome_iff_exists]
    constructor
    · rintro ⟨_, kind, following, known, read, rfl⟩
      exact ⟨⟨kind, known⟩, following, read⟩
    · rintro ⟨⟨kind, known⟩, following, read⟩
      exact ⟨_, kind, following, known, read, rfl⟩

/-- The kinds of the tokens that the characters of a text are. -/
def kinds (source : List Char) : List Kind := source.filterMap Kind.ofChar?

theorem kinds_cons {c : Char} {kind : Kind} (known : Kind.ofChar? c = some kind)
    (rest : List Char) : kinds (c :: rest) = kind :: kinds rest :=
  List.filterMap_cons_some known

theorem kinds_append (source more : List Char) :
    kinds (source ++ more) = kinds source ++ kinds more :=
  List.filterMap_append

theorem map_kind_eq_kinds {offset : Nat} {source : List Char} {tokens : List Token}
    (read : ofSourceFrom offset source = .ok tokens) : tokens.map (·.kind) = kinds source := by
  induction source generalizing offset tokens with
  | nil =>
    cases read
    rfl
  | cons c rest ih =>
    obtain ⟨kind, following, known, readRest, rfl⟩ := ofSourceFrom_cons_eq_ok_iff.1 read
    rw [List.map_cons, ih readRest, kinds_cons known]

theorem length_of_ofSourceFrom {offset : Nat} {source : List Char} {tokens : List Token}
    (read : ofSourceFrom offset source = .ok tokens) : tokens.length = source.length := by
  induction source generalizing offset tokens with
  | nil =>
    cases read
    rfl
  | cons c rest ih =>
    obtain ⟨kind, following, _, readRest, rfl⟩ := ofSourceFrom_cons_eq_ok_iff.1 read
    rw [List.length_cons, List.length_cons, ih readRest]

/-- The token that follows is of the kind of the character that follows. -/
theorem lookahead_of_ofSourceFrom {offset : Nat} {source : List Char} {tokens : List Token}
    (read : ofSourceFrom offset source = .ok tokens) :
    lookahead tokens = (source.head?.bind Kind.ofChar?).getD .endOfInput := by
  cases source with
  | nil =>
    cases read
    rfl
  | cons c rest =>
    obtain ⟨kind, following, known, _, rfl⟩ := ofSourceFrom_cons_eq_ok_iff.1 read
    simp [lookahead, known]

end PatternGraph.Token
