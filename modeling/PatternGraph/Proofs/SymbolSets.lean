import Mathlib.Data.Char
import Mathlib.Data.List.Sort
import Mathlib.Data.Set.Card
import PatternGraph.SymbolSet

/-!
# Sets of characters and how they are put together

What each operation does to the members, and what the members decide: of sets with the same members
there is one. A recipe tells by which operations a set is put together, and so which characters it
is given; whatever else one may ask of the set follows from these characters.
-/
namespace PatternGraph.SymbolSet
variable {s t : SymbolSet} {c x : Char} {cs : List Char}

/-- Sets with the same members are equal. -/
theorem eq_of_mem_iff (same : ∀ c, c ∈ s ↔ c ∈ t) : s = t :=
  SymbolSet.ext (s.ascending.eq_of_mem_iff t.ascending same)

theorem notMem_empty (c : Char) : c ∉ (∅ : SymbolSet) := List.not_mem_nil

theorem mem_single : x ∈ single c ↔ x = c := List.mem_singleton

theorem mem_ofList : x ∈ ofList cs ↔ x ∈ cs :=
  mem_extend.trans (or_iff_left (notMem_empty x))

theorem mem_union : x ∈ s.union t ↔ x ∈ t ∨ x ∈ s := mem_extend

theorem toNat_lt_of_isAlphanum (listed : c.isAlphanum) : c.toNat < 128 := by
  have upTo {last : Char} (within : c.val ≤ last.val) (ascii : last.toNat < 128) :
      c.toNat < 128 := Nat.lt_of_le_of_lt (UInt32.le_iff_toNat_le.1 within) ascii
  rcases Bool.or_eq_true_iff.1 listed with letter | digit
  · rcases Bool.or_eq_true_iff.1 letter with upper | lower
    · exact upTo (of_decide_eq_true upper).2 (by decide)
    · exact upTo (of_decide_eq_true (Bool.and_eq_true_iff.1 lower).2) (by decide)
  · exact upTo (of_decide_eq_true (Bool.and_eq_true_iff.1 digit).2) (by decide)

theorem mem_alphanumeric : c ∈ alphanumeric ↔ c.isAlphanum := by
  have members : alphanumeric.members.all Char.isAlphanum := by decide +kernel
  have letters : ∀ n < 128, (Char.ofNat n).isAlphanum → Char.ofNat n ∈ alphanumeric.members := by
    decide +kernel
  constructor
  · exact List.all_eq_true.1 members c
  · intro listed
    have member := letters c.toNat (toNat_lt_of_isAlphanum listed)
    rw [Char.ofNat_toNat] at member
    exact member listed

/-- Collecting the members of a set gives the set. -/
theorem ofList_members (s : SymbolSet) : ofList s.members = s :=
  eq_of_mem_iff fun _ => mem_ofList

/-- The operations that a set of characters is put together by. -/
inductive Recipe where
  | new
  | single (c : Char)
  | alphanumeric
  | collect (cs : List Char)
  | insert (before : Recipe) (c : Char)
  | extend (before : Recipe) (cs : List Char)
  | union (before other : Recipe)
  deriving DecidableEq, Repr

namespace Recipe

/-- One of the operations adds the character, to the set itself or to one united with it. -/
def Adds : Recipe → Char → Prop
  | new, _ => False
  | single d, c => c = d
  | alphanumeric, c => c.isAlphanum
  | collect cs, c => c ∈ cs
  | insert before d, c => c = d ∨ before.Adds c
  | extend before cs, c => c ∈ cs ∨ before.Adds c
  | union before other, c => before.Adds c ∨ other.Adds c

/-- The set that is put together. -/
def build : Recipe → SymbolSet
  | new => ∅
  | single c => .single c
  | alphanumeric => .alphanumeric
  | collect cs => .ofList cs
  | insert before c => before.build.insert c
  | extend before cs => before.build.extend cs
  | union before other => before.build.union other.build

theorem mem_build {r : Recipe} : c ∈ r.build ↔ r.Adds c := by
  induction r with
  | new => exact iff_of_false (notMem_empty c) id
  | single d => exact mem_single
  | alphanumeric => exact mem_alphanumeric
  | collect cs => exact mem_ofList
  | insert before d ih => exact mem_insert.trans (or_congr_right ih)
  | extend before cs ih => exact mem_extend.trans (or_congr_right ih)
  | union before other ih ihOther => exact mem_union.trans ((or_congr ihOther ih).trans or_comm)

end Recipe

/-- What a set shows when asked, in terms of the characters that it `holds`: whether a character is
in it, whether one is new to it, its members in order, their number, and whether there is none. -/
structure Shows (holds : Char → Prop) (contains fresh : Char → Bool) (members : List Char)
    (size : Nat) (isEmpty : Bool) : Prop where
  contains : ∀ c, contains c ↔ holds c
  fresh : ∀ c, fresh c ↔ ¬ holds c
  ascending : members.Pairwise (· < ·)
  members : ∀ c, c ∈ members ↔ holds c
  size : size = {c | holds c}.ncard
  isEmpty : isEmpty ↔ ∀ c, ¬ holds c

/-- An ascending list has as many entries as there are characters in it. -/
theorem length_eq_ncard {holds : Char → Prop} (ascending : cs.Pairwise (· < ·))
    (members : ∀ c, c ∈ cs ↔ holds c) : cs.length = {c | holds c}.ncard := by
  have same : {c | holds c} = (cs.toFinset : Set Char) := by
    ext c
    simp [members]
  rw [same, Set.ncard_coe_finset, List.toFinset_card_of_nodup ascending.nodup]

theorem isEmpty_iff_forall_not {holds : Char → Prop} (members : ∀ c, c ∈ cs ↔ holds c) :
    cs.isEmpty ↔ ∀ c, ¬ holds c := by
  rw [List.isEmpty_iff, List.eq_nil_iff_forall_not_mem]
  exact forall_congr' fun c => not_congr (members c)

/-- A set that is put together shows the characters that it was given. -/
theorem shows_build (r : Recipe) :
    Shows r.Adds r.build.contains (fun c => (r.build.insert? c).isSome) r.build.members
      r.build.size r.build.isEmpty where
  contains _ := contains_iff.trans Recipe.mem_build
  fresh c := by
    rw [Option.isSome_iff_ne_none, Ne, insert?_eq_none_iff]
    exact not_congr Recipe.mem_build
  ascending := r.build.ascending
  members _ := Recipe.mem_build
  size := length_eq_ncard r.build.ascending fun _ => Recipe.mem_build
  isEmpty := isEmpty_iff_forall_not fun _ => Recipe.mem_build

/-- Sets that are put together are equal exactly if they are given the same characters. -/
theorem build_eq_iff {r r' : Recipe} : r.build = r'.build ↔ ∀ c, r.Adds c ↔ r'.Adds c := by
  constructor
  · intro same c
    rw [← Recipe.mem_build, same, Recipe.mem_build]
  · intro same
    refine eq_of_mem_iff fun c => ?_
    rw [Recipe.mem_build, Recipe.mem_build, same]

end PatternGraph.SymbolSet
