import Mathlib.Data.List.Infix
import PatternGraph.Text.Bytes

/-!
# Character boundaries

The prefixes of a text and the bytes where they end. A prefix is determined by its length in bytes,
and of two prefixes the shorter one has fewer bytes, so a search through the prefixes in order is a
search through the boundaries in order.
-/
namespace PatternGraph.Text

/-- A character of the text ends right before byte `n`, or the text begins there. -/
def IsBoundary (text : List Char) (n : Nat) : Prop :=
  ∃ front, front <+: text ∧ byteLength front = n

theorem isBoundary_byteLength {front text : List Char} (leading : front <+: text) :
    IsBoundary text (byteLength front) :=
  ⟨front, leading, rfl⟩

theorem takeBytes_utf8Size_add (c : Char) (n : Nat) (rest : List Char) :
    takeBytes (c.utf8Size + n) (c :: rest) = c :: takeBytes n rest := by
  obtain ⟨k, size⟩ : ∃ k, c.utf8Size + n = k + 1 :=
    Nat.exists_eq_add_one.2 (Nat.add_pos_left c.utf8Size_pos n)
  rw [size, takeBytes, ← size, Nat.add_sub_cancel_left]

theorem dropBytes_utf8Size_add (c : Char) (n : Nat) (rest : List Char) :
    dropBytes (c.utf8Size + n) (c :: rest) = dropBytes n rest := by
  obtain ⟨k, size⟩ : ∃ k, c.utf8Size + n = k + 1 :=
    Nat.exists_eq_add_one.2 (Nat.add_pos_left c.utf8Size_pos n)
  rw [size, dropBytes, ← size, Nat.add_sub_cancel_left]

/-- The bytes up to a boundary hold exactly the prefix that ends there. -/
theorem takeBytes_byteLength {front text : List Char} (leading : front <+: text) :
    takeBytes (byteLength front) text = front := by
  induction front generalizing text with
  | nil => simp [takeBytes]
  | cons c front ih =>
    obtain ⟨rest, rfl⟩ := leading
    rw [byteLength_cons, List.cons_append, takeBytes_utf8Size_add,
      ih (List.prefix_append front rest)]

/-- What starts behind a boundary is what the prefix that ends there leaves. -/
theorem dropBytes_byteLength (front rest : List Char) :
    dropBytes (byteLength front) (front ++ rest) = rest := by
  induction front with
  | nil => simp [dropBytes]
  | cons c front ih => rw [byteLength_cons, List.cons_append, dropBytes_utf8Size_add, ih]

theorem pairwise_inits (text : List Char) :
    text.inits.Pairwise (byteLength · < byteLength ·) := by
  induction text with
  | nil => simp
  | cons c rest ih =>
    rw [List.inits_cons, List.pairwise_cons, List.pairwise_map]
    constructor
    · intro longer member
      obtain ⟨front, _, rfl⟩ := List.mem_map.1 member
      have positive : 0 < c.utf8Size := c.utf8Size_pos
      simp only [byteLength_nil, byteLength_cons]
      omega
    · exact ih.imp fun shorter => by
        simp only [byteLength_cons]
        omega

/-- What a search through the prefixes finds, it finds at the shortest one that gives anything. -/
theorem findSome?_inits_eq_some_iff {β : Type} {f : List Char → Option β} {text : List Char}
    {b : β} :
    text.inits.findSome? f = some b ↔
      ∃ front, front <+: text ∧ f front = some b ∧
        ∀ shorter, shorter <+: text → byteLength shorter < byteLength front →
          f shorter = none := by
  have ordered := pairwise_inits text
  constructor
  · intro found
    obtain ⟨before, front, after, split, hit, missed⟩ := List.findSome?_eq_some_iff.1 found
    have leading : front <+: text := by
      rw [← List.mem_inits, split]
      simp
    refine ⟨front, leading, hit, ?_⟩
    intro shorter within below
    rw [split] at ordered
    have later := (List.pairwise_cons.1 (List.pairwise_append.1 ordered).2.1).1
    rw [← List.mem_inits, split, List.mem_append, List.mem_cons] at within
    rcases within with earlier | rfl | behind
    · exact missed shorter earlier
    · omega
    · have := later shorter behind
      omega
  · rintro ⟨front, leading, hit, missed⟩
    obtain ⟨before, after, split⟩ := List.append_of_mem ((List.mem_inits front text).2 leading)
    refine List.findSome?_eq_some_iff.2 ⟨before, front, after, split, hit, ?_⟩
    intro shorter earlier
    have within : shorter <+: text := by
      rw [← List.mem_inits, split]
      exact List.mem_append_left _ earlier
    rw [split] at ordered
    exact missed shorter within
      ((List.pairwise_append.1 ordered).2.2 shorter earlier front List.mem_cons_self)

end PatternGraph.Text
