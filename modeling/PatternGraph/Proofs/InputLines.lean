import Mathlib.Data.List.Forall2
import PatternGraph.Text.Bytes

/-!
# Lines of a byte stream

What the lines of a stream are, said without cutting it: pieces that make up the stream, each but
the last with its one newline at the end. A line is text exactly if it is the UTF-8 form of some
characters, and what is left of these without the line ending is a matter of their last two.
-/
namespace PatternGraph.Text

section decoding
variable {bytes : List UInt8} {cs : List Char}

/-- The UTF-8 form of a text. -/
def utf8 (cs : List Char) : List UInt8 := cs.flatMap String.utf8EncodeChar

/-- The bytes are the UTF-8 form of some text. -/
def IsUtf8 (bytes : List UInt8) : Prop := ∃ cs, utf8 cs = bytes

theorem utf8_eq_iff : utf8 cs = bytes ↔ cs.utf8Encode = ⟨bytes.toArray⟩ := by
  rw [List.utf8Encode, ← utf8, ByteArray.ext_iff, List.data_toByteArray]
  simp

/-- Exactly the UTF-8 form of a text is read as that text. -/
theorem decode?_eq_some_iff : decode? bytes = some cs ↔ utf8 cs = bytes := by
  rw [decode?, Option.map_eq_some_iff, utf8_eq_iff, String.fromUTF8?]
  constructor
  · rintro ⟨text, read, rfl⟩
    split at read
    · cases read
      exact String.utf8Encode_toList
    · cases read
  · intro encoded
    have valid : ByteArray.IsValidUTF8 ⟨bytes.toArray⟩ := ⟨cs, encoded.symm⟩
    refine ⟨String.fromUTF8 ⟨bytes.toArray⟩ valid, dif_pos valid, ?_⟩
    have same : String.fromUTF8 ⟨bytes.toArray⟩ valid = String.ofList cs :=
      String.toByteArray_inj.1 (by rw [String.toByteArray_ofList, encoded]; rfl)
    rw [same, String.toList_ofList]

theorem decode?_eq_none_iff : decode? bytes = none ↔ ¬ IsUtf8 bytes := by
  simp [IsUtf8, Option.eq_none_iff_forall_ne_some, decode?_eq_some_iff]

instance (bytes : List UInt8) : Decidable (IsUtf8 bytes) :=
  decidable_of_iff (decode? bytes ≠ none) (by simp [decode?_eq_none_iff])

end decoding

section cutting
variable {bytes body rest : List UInt8} {ls : List (List UInt8)}

/-- The pieces make up the bytes in order. Each of them but the last ends in its one newline, and
so does the last one unless the bytes end without a newline. -/
inductive CutInto : List UInt8 → List (List UInt8) → Prop where
  | nothing : CutInto [] []
  | unterminated {body : List UInt8} (nonempty : body ≠ []) (unbroken : newline ∉ body) :
    CutInto body [body]
  | terminated {body rest : List UInt8} {ls : List (List UInt8)} (unbroken : newline ∉ body)
    (following : CutInto rest ls) : CutInto (body ++ newline :: rest) ((body ++ [newline]) :: ls)

theorem lines_cons_newline (rest : List UInt8) :
    lines (newline :: rest) = [newline] :: lines rest :=
  rfl

theorem lines_cons {byte : UInt8} (other : byte ≠ newline) (rest : List UInt8) :
    lines (byte :: rest) = match lines rest with
      | [] => [[byte]]
      | line :: following => (byte :: line) :: following :=
  if_neg other

theorem lines_of_unbroken (nonempty : body ≠ []) (unbroken : newline ∉ body) :
    lines body = [body] := by
  induction body with
  | nil => exact absurd rfl nonempty
  | cons byte body ih =>
    obtain ⟨other, absent⟩ := List.ne_and_not_mem_of_not_mem_cons unbroken
    rw [lines_cons other.symm]
    cases body with
    | nil => rfl
    | cons next body => rw [ih (List.cons_ne_nil next body) absent]

theorem lines_append_newline (unbroken : newline ∉ body) (rest : List UInt8) :
    lines (body ++ newline :: rest) = (body ++ [newline]) :: lines rest := by
  induction body with
  | nil => exact lines_cons_newline rest
  | cons byte body ih =>
    obtain ⟨other, absent⟩ := List.ne_and_not_mem_of_not_mem_cons unbroken
    rw [List.cons_append, lines_cons other.symm, ih absent]
    rfl

/-- A byte in front of a stream joins the first line of it, unless it ends a line itself. -/
theorem cutInto_lines (bytes : List UInt8) : CutInto bytes (lines bytes) := by
  induction bytes with
  | nil => exact .nothing
  | cons byte rest ih =>
    by_cases ends : byte = newline
    · rw [ends, lines_cons_newline]
      exact .terminated List.not_mem_nil ih
    · have joins {body : List UInt8} (unbroken : newline ∉ body) : newline ∉ byte :: body :=
        fun member => (List.mem_cons.1 member).elim (fun same => ends same.symm) unbroken
      rw [lines_cons ends]
      generalize lines rest = following at ih
      cases ih with
      | nothing => exact .unterminated (List.cons_ne_nil byte []) (joins List.not_mem_nil)
      | unterminated nonempty unbroken =>
        exact .unterminated (List.cons_ne_nil byte _) (joins unbroken)
      | terminated unbroken following => exact .terminated (joins unbroken) following

/-- There is one way to cut a stream into lines. -/
theorem cutInto_iff : CutInto bytes ls ↔ ls = lines bytes := by
  constructor
  · intro cut
    induction cut with
    | nothing => rfl
    | unterminated nonempty unbroken => exact (lines_of_unbroken nonempty unbroken).symm
    | terminated unbroken _ ih => rw [lines_append_newline unbroken, ih]
  · rintro rfl
    exact cutInto_lines bytes

instance (bytes : List UInt8) (ls : List (List UInt8)) : Decidable (CutInto bytes ls) :=
  decidable_of_iff (ls = lines bytes) cutInto_iff.symm

end cutting

section endings
variable {cs text : List Char} {bytes : List UInt8}

/-- `text` is a line without the one line feed, or carriage return and line feed, at its end. -/
inductive Unended : List Char → List Char → Prop where
  | bare {text : List Char} (unfed : text.getLast? ≠ some '\n') : Unended text text
  | fed {text : List Char} (plain : text.getLast? ≠ some '\r') : Unended (text ++ ['\n']) text
  | returned {text : List Char} : Unended (text ++ ['\r', '\n']) text

theorem unended_withoutLineEnding (cs : List Char) : Unended cs (withoutLineEnding cs) := by
  obtain ⟨backward, rfl⟩ : ∃ backward : List Char, cs = backward.reverse :=
    ⟨cs.reverse, (List.reverse_reverse cs).symm⟩
  rw [withoutLineEnding, List.reverse_reverse]
  split
  · next rest =>
    have returned : Unended (rest.reverse ++ ['\r', '\n']) rest.reverse := .returned
    simpa using returned
  · next rest plain =>
    have last : rest.reverse.getLast? ≠ some '\r' := by
      rw [List.getLast?_reverse]
      intro first
      obtain ⟨following, rfl⟩ := List.head?_eq_some_iff.1 first
      exact plain following rfl
    simpa using Unended.fed last
  · next unfed =>
    apply Unended.bare
    rw [List.getLast?_reverse]
    intro first
    obtain ⟨following, rfl⟩ := List.head?_eq_some_iff.1 first
    exact unfed following rfl

theorem withoutLineEnding_eq_iff : withoutLineEnding cs = text ↔ Unended cs text := by
  constructor
  · rintro rfl
    exact unended_withoutLineEnding cs
  · intro unended
    cases unended with
    | bare unfed =>
      rw [List.getLast?_eq_head?_reverse] at unfed
      unfold withoutLineEnding
      split
      · next backward => exact absurd (congrArg List.head? backward) unfed
      · next backward => exact absurd (congrArg List.head? backward) unfed
      · rfl
    | fed plain =>
      rw [List.getLast?_eq_head?_reverse] at plain
      unfold withoutLineEnding
      rw [List.reverse_append]
      split
      · next backward =>
        exact absurd (congrArg List.head? (List.cons.inj backward).2) plain
      · next backward =>
        obtain rfl := (List.cons.inj backward).2
        exact List.reverse_reverse text
      · next unfed => exact absurd rfl (unfed _)
    | returned => simp [withoutLineEnding]

/-- The bytes are those of a line that holds `text`. -/
def IsLineOf (bytes : List UInt8) (text : String) : Prop :=
  ∃ cs, utf8 cs = bytes ∧ Unended cs text.toList

theorem isLineOf_iff {text : String} :
    IsLineOf bytes text ↔ (decode? bytes).map withoutLineEnding = some text.toList := by
  simp [IsLineOf, Option.map_eq_some_iff, decode?_eq_some_iff, withoutLineEnding_eq_iff]

instance (bytes : List UInt8) (text : String) : Decidable (IsLineOf bytes text) :=
  decidable_of_iff _ isLineOf_iff.symm

/-- A line that is text holds one text. -/
theorem exists_isLineOf_iff (valid : IsUtf8 bytes) :
    ∃ text, ∀ other, IsLineOf bytes other ↔ other = text := by
  obtain ⟨cs, encoded⟩ := valid
  refine ⟨String.ofList (withoutLineEnding cs), fun other => ?_⟩
  rw [isLineOf_iff, decode?_eq_some_iff.2 encoded, Option.map_some, Option.some.injEq,
    ← String.toList_inj, String.toList_ofList]
  exact eq_comm

theorem exists_forall₂_isLineOf_iff {ls : List (List UInt8)} (valid : ∀ line ∈ ls, IsUtf8 line) :
    ∃ texts, ∀ others, List.Forall₂ IsLineOf ls others ↔ others = texts := by
  induction ls with
  | nil => exact ⟨[], fun others => List.forall₂_nil_left_iff⟩
  | cons line ls ih =>
    obtain ⟨text, first⟩ := exists_isLineOf_iff (valid line List.mem_cons_self)
    obtain ⟨texts, rest⟩ := ih fun later member => valid later (List.mem_cons_of_mem line member)
    refine ⟨text :: texts, fun others => ?_⟩
    simp only [List.forall₂_cons_left_iff, first, rest, exists_and_left, exists_eq_left]

end endings

end PatternGraph.Text
