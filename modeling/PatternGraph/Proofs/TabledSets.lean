import PatternGraph.Proofs.SymbolSets

/-!
# Sets of characters with a table

A set that keeps a bit for each of the 128 ASCII characters, so that a single bit tells whether one
is a member, and an ordered set of its other members. Each operation treats a character in the part
that it belongs to, so no character is kept in both. That makes the two parts of a set determined
by its members, and what the set shows is what the ordered list of all members shows.
-/
namespace PatternGraph

structure TabledSet where
  /-- The ASCII members, by the bit of their code point. -/
  table : BitVec 128
  /-- The members that are not ASCII. -/
  others : SymbolSet
  deriving DecidableEq

namespace TabledSet

/-- The table with the bit of code point `n` alone. -/
def bit (n : Nat) : BitVec 128 := 1#128 <<< n

def empty : TabledSet := ⟨0#128, ∅⟩

def contains (t : TabledSet) (c : Char) : Bool :=
  if c.toNat < 128 then t.table &&& bit c.toNat ≠ 0#128 else t.others.contains c

/-- Add `c`, and tell whether it is new. -/
def insert (t : TabledSet) (c : Char) : Bool × TabledSet :=
  if c.toNat < 128 then
    (t.table &&& bit c.toNat = 0#128, { t with table := t.table ||| bit c.toNat })
  else ((t.others.insert? c).isSome, { t with others := t.others.insert c })

def single (c : Char) : TabledSet := (empty.insert c).2

def extend (t : TabledSet) (cs : List Char) : TabledSet := cs.foldl (fun t c => (t.insert c).2) t

def ofList (cs : List Char) : TabledSet := empty.extend cs

/-- The characters from `first` to `last`. -/
def between (first last : Char) : List Char :=
  (List.range' first.toNat (last.toNat + 1 - first.toNat)).map Char.ofNat

def alphanumeric : TabledSet := ofList (between '0' '9' ++ between 'A' 'Z' ++ between 'a' 'z')

def union (t u : TabledSet) : TabledSet := ⟨t.table ||| u.table, t.others.union u.others⟩

def size (t : TabledSet) : Nat := t.table.cpop.toNat + t.others.size

def isEmpty (t : TabledSet) : Bool := t.table = 0#128 && t.others.isEmpty

/-- The ASCII members of a table in order. -/
def asciiMembers (table : BitVec 128) : List Char :=
  ((List.range 128).filter fun n => table &&& bit n ≠ 0#128).map Char.ofNat

def members (t : TabledSet) : List Char := asciiMembers t.table ++ t.others.members

section table
variable {x y : BitVec 128} {m n : Nat}

theorem getLsbD_bit (within : m < 128) : (bit m).getLsbD n = decide (m = n) := by
  rw [bit, ← BitVec.twoPow_eq, BitVec.getLsbD_twoPow, decide_eq_true within, Bool.true_and]

/-- The bit test. -/
theorem and_bit_eq_zero_iff (within : n < 128) : x &&& bit n = 0#128 ↔ x.getLsbD n = false := by
  constructor
  · intro zero
    have tested := congrArg (·.getLsbD n) zero
    simpa [getLsbD_bit within] using tested
  · intro absent
    refine BitVec.eq_of_getLsbD_eq fun k _ => ?_
    rw [BitVec.getLsbD_and, getLsbD_bit within, BitVec.getLsbD_zero]
    by_cases same : n = k
    · simp [← same, absent]
    · simp [same]

theorem and_bit_ne_zero_iff (within : n < 128) : x &&& bit n ≠ 0#128 ↔ x.getLsbD n := by
  rw [Ne, and_bit_eq_zero_iff within, Bool.not_eq_false]

theorem getLsbD_or_bit (within : m < 128) :
    (x ||| bit m).getLsbD n = (x.getLsbD n || decide (m = n)) := by
  rw [BitVec.getLsbD_or, getLsbD_bit within]

theorem toNat_ofNat_of_lt (within : n < 128) : (Char.ofNat n).toNat = n := by
  have all : ∀ n < 128, (Char.ofNat n).toNat = n := by decide +kernel
  exact all n within

theorem mem_asciiMembers {c : Char} :
    c ∈ asciiMembers x ↔ c.toNat < 128 ∧ x.getLsbD c.toNat := by
  unfold asciiMembers
  rw [List.mem_map]
  constructor
  · rintro ⟨n, member, rfl⟩
    obtain ⟨within, set⟩ := List.mem_filter.1 member
    rw [List.mem_range] at within
    rw [toNat_ofNat_of_lt within]
    exact ⟨within, (and_bit_ne_zero_iff within).1 (by simpa using set)⟩
  · rintro ⟨within, set⟩
    refine ⟨c.toNat, List.mem_filter.2 ⟨List.mem_range.2 within, ?_⟩, Char.ofNat_toNat c⟩
    simpa using (and_bit_ne_zero_iff within).2 set

theorem lt_iff_toNat_lt {c d : Char} : c < d ↔ c.toNat < d.toNat := UInt32.lt_iff_toNat_lt

theorem pairwise_asciiMembers (x : BitVec 128) : (asciiMembers x).Pairwise (· < ·) := by
  have codes : ((List.range 128).filter fun n => x &&& bit n ≠ 0#128).Pairwise (· < ·) :=
    List.pairwise_lt_range.filter _
  refine List.pairwise_map.2 (codes.imp_of_mem fun {m n} lower upper less => ?_)
  have within : m < 128 := List.mem_range.1 (List.mem_filter.1 lower).1
  have withinNext : n < 128 := List.mem_range.1 (List.mem_filter.1 upper).1
  rwa [lt_iff_toNat_lt, toNat_ofNat_of_lt within, toNat_ofNat_of_lt withinNext]

theorem length_asciiMembers (x : BitVec 128) : (asciiMembers x).length = x.cpop.toNat := by
  have counted (k : Nat) (within : k ≤ 128) :
      ((List.range k).filter fun n => x &&& bit n ≠ 0#128).length = x.cpopNatRec k 0 := by
    -- both counts go through the bits from the lowest one up
    induction k with
    | zero => rfl
    | succ k ih =>
      rw [List.range_succ, List.filter_append, List.length_append, ih (Nat.le_of_lt within),
        BitVec.cpopNatRec_succ, BitVec.cpopNatRec_add]
      have test := and_bit_ne_zero_iff (x := x) within
      cases set : x.getLsbD k <;> simp_all
  rw [asciiMembers, List.length_map, counted 128 (Nat.le_refl 128), BitVec.toNat_cpop]

end table

section operations
variable {t u : TabledSet} {c d : Char} {cs : List Char}

theorem contains_iff_of_ascii (ascii : c.toNat < 128) :
    t.contains c ↔ t.table.getLsbD c.toNat := by
  rw [contains, if_pos ascii, decide_eq_true_iff]
  exact and_bit_ne_zero_iff ascii

theorem contains_iff_of_not_ascii (other : ¬ c.toNat < 128) : t.contains c ↔ c ∈ t.others := by
  rw [contains, if_neg other]
  exact SymbolSet.contains_iff

theorem not_contains_empty (c : Char) : ¬ empty.contains c := by
  by_cases ascii : c.toNat < 128
  · rw [contains_iff_of_ascii ascii, empty, BitVec.getLsbD_zero]
    exact Bool.false_ne_true
  · rw [contains_iff_of_not_ascii ascii]
    exact SymbolSet.notMem_empty c

/-- A character is new exactly if it is not contained. -/
theorem insert_fresh_iff : (t.insert c).1 ↔ ¬ t.contains c := by
  by_cases ascii : c.toNat < 128
  · rw [contains_iff_of_ascii ascii, insert, if_pos ascii, decide_eq_true_iff,
      and_bit_eq_zero_iff ascii, Bool.not_eq_true]
  · rw [contains_iff_of_not_ascii ascii, insert, if_neg ascii, Option.isSome_iff_ne_none, Ne,
      SymbolSet.insert?_eq_none_iff]

theorem contains_insert : (t.insert d).2.contains c ↔ c = d ∨ t.contains c := by
  -- where only one of `c` and `d` is ASCII, the part that `c` is looked up in stays as it was
  by_cases ascii : c.toNat < 128
  · rw [contains_iff_of_ascii ascii, contains_iff_of_ascii ascii, insert]
    split
    · next low =>
      have same : d.toNat = c.toNat ↔ c = d := by
        rw [Char.toNat_inj, eq_comm]
      rw [getLsbD_or_bit low, Bool.or_eq_true, decide_eq_true_iff, same, or_comm]
    · next high =>
      have different : c ≠ d := fun same => high (same ▸ ascii)
      exact (or_iff_right different).symm
  · rw [contains_iff_of_not_ascii ascii, contains_iff_of_not_ascii ascii, insert]
    split
    · next low =>
      have different : c ≠ d := fun same => ascii (same ▸ low)
      exact (or_iff_right different).symm
    · exact SymbolSet.mem_insert

theorem contains_extend : (t.extend cs).contains c ↔ c ∈ cs ∨ t.contains c := by
  induction cs generalizing t with
  | nil => simp [extend]
  | cons d rest ih =>
    have step : t.extend (d :: rest) = (t.insert d).2.extend rest := rfl
    rw [step, ih, contains_insert, List.mem_cons]
    grind

theorem contains_single : (single d).contains c ↔ c = d :=
  contains_insert.trans (or_iff_left (not_contains_empty c))

theorem contains_ofList : (ofList cs).contains c ↔ c ∈ cs :=
  contains_extend.trans (or_iff_left (not_contains_empty c))

theorem contains_alphanumeric : alphanumeric.contains c ↔ c.isAlphanum := by
  have same : between '0' '9' ++ between 'A' 'Z' ++ between 'a' 'z' =
      SymbolSet.alphanumeric.members := by decide +kernel
  rw [alphanumeric, same, contains_ofList]
  exact SymbolSet.mem_alphanumeric

theorem contains_union : (t.union u).contains c ↔ u.contains c ∨ t.contains c := by
  by_cases ascii : c.toNat < 128
  · simp only [contains_iff_of_ascii ascii, union, BitVec.getLsbD_or, Bool.or_eq_true]
    exact or_comm
  · simp only [contains_iff_of_not_ascii ascii, union, SymbolSet.mem_union]

/-- No ASCII character is kept among the others. -/
def Separated (t : TabledSet) : Prop := ∀ c ∈ t.others, ¬ c.toNat < 128

theorem separated_empty : empty.Separated := fun c member =>
  absurd member (SymbolSet.notMem_empty c)

theorem Separated.insert (separated : t.Separated) (c : Char) : (t.insert c).2.Separated := by
  unfold TabledSet.insert
  split
  · exact separated
  · next other =>
    intro d member
    rcases SymbolSet.mem_insert.1 member with rfl | before
    · exact other
    · exact separated d before

theorem Separated.extend (separated : t.Separated) (cs : List Char) :
    (t.extend cs).Separated := by
  induction cs generalizing t with
  | nil => exact separated
  | cons c rest ih => exact ih (separated.insert c)

theorem Separated.union (separated : t.Separated) (separatedOther : u.Separated) :
    (t.union u).Separated := by
  intro c member
  rcases SymbolSet.mem_union.1 member with other | own
  · exact separatedOther c other
  · exact separated c own

theorem Separated.mem_members (separated : t.Separated) : c ∈ t.members ↔ t.contains c := by
  rw [members, List.mem_append, mem_asciiMembers]
  by_cases ascii : c.toNat < 128
  · have absent : c ∉ t.others.members := fun member => separated c member ascii
    rw [contains_iff_of_ascii ascii]
    simp [ascii, absent]
  · rw [contains_iff_of_not_ascii ascii]
    exact or_iff_right fun low => ascii low.1

/-- All ASCII characters come before all others. -/
theorem Separated.ascending (separated : t.Separated) : t.members.Pairwise (· < ·) := by
  refine List.pairwise_append.2 ⟨pairwise_asciiMembers t.table, t.others.ascending, ?_⟩
  intro c low d member
  have ascii := (mem_asciiMembers.1 low).1
  have other := separated d member
  exact lt_iff_toNat_lt.2 (Nat.lt_of_lt_of_le ascii (Nat.not_lt.1 other))

/-- The parts of a set are determined by what it contains. -/
theorem Separated.eq_of_contains_iff (separated : t.Separated) (separatedOther : u.Separated)
    (same : ∀ c, t.contains c ↔ u.contains c) : t = u := by
  have tables : t.table = u.table := by
    refine BitVec.eq_of_getLsbD_eq fun n within => ?_
    have agree := same (Char.ofNat n)
    have code := toNat_ofNat_of_lt within
    have ascii : (Char.ofNat n).toNat < 128 := by rwa [code]
    rw [contains_iff_of_ascii ascii, contains_iff_of_ascii ascii, code] at agree
    exact Bool.eq_iff_iff.2 agree
  have others : t.others = u.others := by
    refine SymbolSet.eq_of_mem_iff fun c => ?_
    by_cases ascii : c.toNat < 128
    · exact iff_of_false (fun member => separated c member ascii)
        (fun member => separatedOther c member ascii)
    · rw [← contains_iff_of_not_ascii ascii, ← contains_iff_of_not_ascii ascii, same]
  cases t
  cases u
  cases tables
  cases others
  rfl

/-- The table and the other members are asked one after the other whether they are empty. -/
theorem isEmpty_iff_eq_empty : t.isEmpty ↔ t = empty := by
  constructor
  · intro none
    obtain ⟨table, others⟩ := t
    obtain ⟨noBit, noOther⟩ := Bool.and_eq_true_iff.1 none
    obtain rfl : table = 0#128 := of_decide_eq_true noBit
    have absent : others = ∅ := SymbolSet.ext (List.isEmpty_iff.1 noOther)
    rw [absent]
    rfl
  · rintro rfl
    rfl

theorem Separated.isEmpty_iff (separated : t.Separated) : t.isEmpty ↔ ∀ c, ¬ t.contains c := by
  rw [isEmpty_iff_eq_empty]
  constructor
  · rintro rfl
    exact not_contains_empty
  · intro none
    exact separated.eq_of_contains_iff separated_empty fun c =>
      iff_of_false (none c) (not_contains_empty c)

/-- The population of the table and the number of the others make up the number of members. -/
theorem length_members (t : TabledSet) : t.members.length = t.size := by
  rw [members, List.length_append, length_asciiMembers]
  rfl

/-- Collecting the members of a set gives the set, parts and all. -/
theorem Separated.ofList_members (separated : t.Separated) : ofList t.members = t :=
  (separated_empty.extend _).eq_of_contains_iff separated fun _ =>
    contains_ofList.trans separated.mem_members

end operations

end TabledSet

namespace SymbolSet
open TabledSet (Separated)

namespace Recipe

/-- The set with a table that is put together. -/
def tabled : Recipe → TabledSet
  | new => .empty
  | single c => .single c
  | alphanumeric => .alphanumeric
  | collect cs => .ofList cs
  | insert before c => (before.tabled.insert c).2
  | extend before cs => before.tabled.extend cs
  | union before other => before.tabled.union other.tabled

theorem contains_tabled {r : Recipe} {c : Char} : r.tabled.contains c ↔ r.Adds c := by
  induction r with
  | new => exact iff_of_false (TabledSet.not_contains_empty c) id
  | single d => exact TabledSet.contains_single
  | alphanumeric => exact TabledSet.contains_alphanumeric
  | collect cs => exact TabledSet.contains_ofList
  | insert before d ih => exact TabledSet.contains_insert.trans (or_congr_right ih)
  | extend before cs ih => exact TabledSet.contains_extend.trans (or_congr_right ih)
  | union before other ih ihOther =>
    exact TabledSet.contains_union.trans ((or_congr ihOther ih).trans or_comm)

/-- Every operation keeps the parts separate. -/
theorem separated_tabled (r : Recipe) : r.tabled.Separated := by
  induction r with
  | new => exact TabledSet.separated_empty
  | single d => exact TabledSet.separated_empty.insert d
  | alphanumeric => exact TabledSet.separated_empty.extend _
  | collect cs => exact TabledSet.separated_empty.extend cs
  | insert before d ih => exact ih.insert d
  | extend before cs ih => exact ih.extend cs
  | union before other ih ihOther => exact ih.union ihOther

end Recipe

/-- A set with a table shows the characters that it was given. -/
theorem shows_tabled (r : Recipe) :
    Shows r.Adds r.tabled.contains (fun c => (r.tabled.insert c).1) r.tabled.members
      r.tabled.size r.tabled.isEmpty where
  contains _ := Recipe.contains_tabled
  fresh _ := TabledSet.insert_fresh_iff.trans (not_congr Recipe.contains_tabled)
  ascending := r.separated_tabled.ascending
  members _ := r.separated_tabled.mem_members.trans Recipe.contains_tabled
  size := by
    rw [← TabledSet.length_members]
    exact length_eq_ncard r.separated_tabled.ascending fun _ =>
      r.separated_tabled.mem_members.trans Recipe.contains_tabled
  isEmpty := r.separated_tabled.isEmpty_iff.trans
    (forall_congr' fun _ => not_congr Recipe.contains_tabled)

theorem tabled_eq_iff {r r' : Recipe} : r.tabled = r'.tabled ↔ ∀ c, r.Adds c ↔ r'.Adds c := by
  constructor
  · intro same c
    rw [← Recipe.contains_tabled, same, Recipe.contains_tabled]
  · intro same
    refine r.separated_tabled.eq_of_contains_iff r'.separated_tabled fun c => ?_
    rw [Recipe.contains_tabled, Recipe.contains_tabled, same]

/-- The table and the others are gone through in the order of the list. -/
theorem members_tabled (r : Recipe) : r.tabled.members = r.build.members :=
  r.separated_tabled.ascending.eq_of_mem_iff r.build.ascending fun c =>
    ((shows_tabled r).members c).trans ((shows_build r).members c).symm

/-- However a set is put together, as an ordered list or with a table, it shows the characters that
it was given, it is what collecting its members gives, and sets that were given the same characters
are equal. -/
theorem set_determined_by_added_characters (r : Recipe) :
    Shows r.Adds r.build.contains (fun c => (r.build.insert? c).isSome) r.build.members
        r.build.size r.build.isEmpty ∧
      Shows r.Adds r.tabled.contains (fun c => (r.tabled.insert c).1) r.tabled.members
        r.tabled.size r.tabled.isEmpty ∧
      r.tabled.members = r.build.members ∧
      ofList r.build.members = r.build ∧ TabledSet.ofList r.tabled.members = r.tabled ∧
      ∀ r' : Recipe, (r.build = r'.build ↔ ∀ c, r.Adds c ↔ r'.Adds c) ∧
        (r.tabled = r'.tabled ↔ ∀ c, r.Adds c ↔ r'.Adds c) :=
  ⟨shows_build r, shows_tabled r, members_tabled r, ofList_members r.build,
    r.separated_tabled.ofList_members, fun _ => ⟨build_eq_iff, tabled_eq_iff⟩⟩

end SymbolSet

end PatternGraph
