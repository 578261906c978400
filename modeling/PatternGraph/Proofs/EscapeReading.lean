import Mathlib.Data.List.TakeWhile
import PatternGraph.Text.Escape

/-!
# Reading escaped characters back

An escaped character tells where it ends: it is one character other than the backslash, or a
backslash with a mark behind it, or a backslash with a number in braces. So the character can be
read off the front of any text that begins with its display, whatever follows and in whatever
context it was escaped. All that a display holds is printable.
-/
namespace PatternGraph.Text.Escape

section splitting
variable {α : Type} {p : α → Bool} {front front' rest rest' : List α}

/-- Two parts of a list are known if the elements of the first one have a property that the first
element of the second one lacks. -/
theorem append_inj_of_boundary (inside : ∀ a ∈ front, p a) (inside' : ∀ a ∈ front', p a)
    (outside : ∀ a ∈ rest.head?, ¬ p a) (outside' : ∀ a ∈ rest'.head?, ¬ p a)
    (same : front ++ rest = front' ++ rest') : front = front' ∧ rest = rest' := by
  have stops : ∀ {l : List α}, (∀ a ∈ l.head?, ¬ p a) → l.takeWhile p = [] := by
    intro l bound
    cases l with
    | nil => rfl
    | cons a l => exact List.takeWhile_cons_of_neg (bound a rfl)
  have taken := congrArg (List.takeWhile p) same
  rw [List.takeWhile_append_of_pos inside, List.takeWhile_append_of_pos inside', stops outside,
    stops outside', List.append_nil, List.append_nil] at taken
  subst taken
  exact ⟨rfl, List.append_cancel_left same⟩

end splitting

section digits

/-- The number that a hexadecimal digit stands for. -/
def digitValue (d : Char) : Nat := d.toNat - if d.isDigit then 48 else 87

/-- The number that hexadecimal digits stand for. -/
def hexValue (digits : List Char) : Nat := digits.foldl (fun n d => 16 * n + digitValue d) 0

theorem digitValue_digitChar {k : Nat} (small : k < 16) : digitValue (Nat.digitChar k) = k := by
  have table : ∀ k < 16, digitValue (Nat.digitChar k) = k := by decide
  exact table k small

theorem hexValue_toDigits (n : Nat) : hexValue (Nat.toDigits 16 n) = n := by
  induction n using Nat.base_induction 16 (by decide) with
  | single m small =>
    rw [Nat.toDigits_of_lt_base small]
    simp [hexValue, digitValue_digitChar small]
  | digit m k small positive ih =>
    rw [hexValue] at ih
    rw [← Nat.toDigits_append_toDigits (by decide) positive small,
      Nat.toDigits_of_lt_base small, hexValue, List.foldl_append, ih]
    simp [digitValue_digitChar small]

theorem exists_digitChar_of_mem_toDigits {base n : Nat} (proper : 1 < base) {d : Char}
    (member : d ∈ Nat.toDigits base n) : ∃ k < base, d = Nat.digitChar k := by
  induction n using Nat.base_induction base proper with
  | single m small =>
    rw [Nat.toDigits_of_lt_base small, List.mem_singleton] at member
    exact ⟨m, small, member⟩
  | digit m k small positive ih =>
    rw [← Nat.toDigits_append_toDigits proper positive small,
      Nat.toDigits_of_lt_base small, List.mem_append, List.mem_singleton] at member
    rcases member with earlier | last
    · exact ih earlier
    · exact ⟨k, small, last⟩

theorem isPrintable_of_mem_toDigits {base n : Nat} (proper : 1 < base) (spelled : base ≤ 16)
    {d : Char} (member : d ∈ Nat.toDigits base n) : isPrintable d := by
  obtain ⟨k, small, rfl⟩ := exists_digitChar_of_mem_toDigits proper member
  have table : ∀ k < 16, isPrintable (Nat.digitChar k) := by decide
  exact table k (by omega)

theorem closing_notMem_toDigits (n : Nat) : '\x7d' ∉ Nat.toDigits 16 n := by
  intro member
  obtain ⟨k, small, closing⟩ := exists_digitChar_of_mem_toDigits (by decide) member
  have table : ∀ k < 16, '\x7d' ≠ Nat.digitChar k := by decide
  exact table k small closing

end digits

section reading
variable {context : Context} {c d : Char} {rest rest' : List Char}

/-- The character that a mark behind a backslash stands for. -/
def meaning : Char → Char
  | '0' => '\x00'
  | 't' => '\t'
  | 'r' => '\r'
  | 'n' => '\n'
  | mark => mark

/-- Read the character whose display a text begins with, and what follows that. -/
def read? : List Char → Option (Char × List Char)
  | '\\' :: 'u' :: '\x7b' :: rest =>
    some (Char.ofNat (hexValue (rest.takeWhile (· ≠ '\x7d'))),
      (rest.dropWhile (· ≠ '\x7d')).tail)
  | '\\' :: mark :: rest => some (meaning mark, rest)
  | c :: rest => some (c, rest)
  | [] => none

theorem read?_codePoint (c : Char) (rest : List Char) :
    read? (codePoint c ++ rest) = some (c, rest) := by
  have inside : ∀ d ∈ Nat.toDigits 16 c.toNat, decide (d ≠ '\x7d') := by
    intro d member
    have absent := closing_notMem_toDigits c.toNat
    exact decide_eq_true fun same => absent (same ▸ member)
  have shape : codePoint c ++ rest =
      '\\' :: 'u' :: '\x7b' :: (Nat.toDigits 16 c.toNat ++ '\x7d' :: rest) := by
    simp [codePoint]
  rw [shape, read?, List.takeWhile_append_of_pos inside, List.dropWhile_append_of_pos inside]
  simp [hexValue_toDigits]

theorem read?_of_ne (plain : c ≠ '\\') (rest : List Char) : read? (c :: rest) = some (c, rest) := by
  unfold read?
  split
  · next same => exact absurd (List.cons.inj same).1 plain
  · next same => exact absurd (List.cons.inj same).1 plain
  · next same =>
    obtain ⟨rfl, rfl⟩ := List.cons.inj same
    rfl
  · next same => cases same

theorem read?_mark {mark : Char} (short : mark ≠ 'u') (rest : List Char) :
    read? ('\\' :: mark :: rest) = some (meaning mark, rest) := by
  unfold read?
  split
  · next same => exact absurd (List.cons.inj (List.cons.inj same).2).1 short
  · next same =>
    obtain ⟨rfl, rfl⟩ := List.cons.inj (List.cons.inj same).2
    rfl
  · next numbered same =>
    obtain ⟨rfl, rfl⟩ := List.cons.inj same
    exact absurd rfl (numbered mark rest rfl)
  · next same => cases same

/-- The display of a character is the character itself, or a backslash with a mark behind it, or
the number of the character. -/
theorem char_cases (context : Context) (c : Char) :
    (char context c = [c] ∧ c ≠ '\\' ∧ isPrintable c) ∨
      (∃ mark, char context c = ['\\', mark] ∧ meaning mark = c ∧ mark ≠ 'u' ∧
        isPrintable mark) ∨
      char context c = codePoint c := by
  unfold char
  split
  · next same => exact .inr (.inl ⟨'0', rfl, same.symm, by decide, by decide⟩)
  split
  · next same => exact .inr (.inl ⟨'t', rfl, same.symm, by decide, by decide⟩)
  split
  · next same => exact .inr (.inl ⟨'r', rfl, same.symm, by decide, by decide⟩)
  split
  · next same => exact .inr (.inl ⟨'n', rfl, same.symm, by decide, by decide⟩)
  split
  · next same => exact .inr (.inl ⟨'\\', rfl, same.symm, by decide, by decide⟩)
  split
  · next same => exact .inr (.inl ⟨'"', rfl, same.1.symm, by decide, by decide⟩)
  split
  · next same => exact .inr (.inl ⟨'\'', rfl, same.1.symm, by decide, by decide⟩)
  split
  · exact .inr (.inr rfl)
  split
  · next backslash _ _ _ printable => exact .inl ⟨rfl, backslash, printable⟩
  · exact .inr (.inr rfl)

/-- The display of a character, followed by anything, is read back as the character and what
follows. -/
theorem read?_char (context : Context) (c : Char) (rest : List Char) :
    read? (char context c ++ rest) = some (c, rest) := by
  obtain ⟨itself, plain, _⟩ | ⟨mark, marked, rfl, short, _⟩ | numbered := char_cases context c
  · rw [itself]
    exact read?_of_ne plain rest
  · rw [marked]
    exact read?_mark short rest
  · rw [numbered]
    exact read?_codePoint c rest

theorem char_append_inj (same : char context c ++ rest = char context d ++ rest') :
    c = d ∧ rest = rest' := by
  have read := congrArg read? same
  rw [read?_char, read?_char] at read
  exact Prod.mk.inj (Option.some.inj read)

theorem char_ne_nil (context : Context) (c : Char) : char context c ≠ [] := by
  intro empty
  have read := read?_char context c []
  rw [empty] at read
  cases read

/-- A text that is escaped character by character is determined by its display. -/
theorem flatMap_char_inj {cs ds : List Char}
    (same : cs.flatMap (char context) = ds.flatMap (char context)) : cs = ds := by
  induction cs generalizing ds with
  | nil =>
    cases ds with
    | nil => rfl
    | cons d ds =>
      have empty := (List.append_eq_nil_iff.1 same.symm).1
      exact absurd empty (char_ne_nil context d)
  | cons c cs ih =>
    cases ds with
    | nil =>
      have empty := (List.append_eq_nil_iff.1 same).1
      exact absurd empty (char_ne_nil context c)
    | cons d ds =>
      obtain ⟨rfl, rest⟩ := char_append_inj same
      rw [ih rest]

theorem isPrintable_of_mem_codePoint (member : d ∈ codePoint c) : isPrintable d := by
  simp only [codePoint, List.mem_append] at member
  rcases member with (opening | digit) | closing
  · have table : ['\\', 'u', '\x7b'].all isPrintable := by decide
    exact List.all_eq_true.1 table d opening
  · exact isPrintable_of_mem_toDigits (by decide) (by decide) digit
  · obtain rfl := List.mem_singleton.1 closing
    decide

/-- Only printable characters appear in a display. -/
theorem isPrintable_of_mem_char (member : d ∈ char context c) : isPrintable d := by
  obtain ⟨itself, _, printable⟩ | ⟨mark, marked, _, _, printable⟩ | numbered :=
    char_cases context c
  · rw [itself, List.mem_singleton] at member
    exact member ▸ printable
  · rw [marked, List.mem_cons, List.mem_singleton] at member
    rcases member with rfl | rfl
    · decide
    · exact printable
  · rw [numbered] at member
    exact isPrintable_of_mem_codePoint member

end reading

end PatternGraph.Text.Escape
