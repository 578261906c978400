/-!
# Sets of characters

The characters that a transition fires on. A set is kept as the ascending list of its members, so
two sets with the same members are equal, whatever was done to build them.
-/
namespace PatternGraph

/-- `cs` in ascending order with `c` put in its place, or nothing if `c` is already there. -/
def insertAscending? (c : Char) : List Char → Option (List Char)
  | [] => some [c]
  | d :: rest =>
    if c < d then some (c :: d :: rest)
    else if c = d then none
    else (insertAscending? c rest).map (d :: ·)

theorem mem_insertAscending? {c x : Char} {cs ds : List Char}
    (inserted : insertAscending? c cs = some ds) : x ∈ ds ↔ x = c ∨ x ∈ cs := by
  induction cs generalizing ds with
  | nil => cases inserted; simp
  | cons d rest ih =>
    simp only [insertAscending?] at inserted
    split at inserted
    · cases inserted; simp
    · split at inserted
      · cases inserted
      · obtain ⟨es, found, rfl⟩ := Option.map_eq_some_iff.1 inserted
        simp only [List.mem_cons, ih found]
        grind

theorem pairwise_insertAscending? {c : Char} {cs ds : List Char} (ascending : cs.Pairwise (· < ·))
    (inserted : insertAscending? c cs = some ds) : ds.Pairwise (· < ·) := by
  induction cs generalizing ds with
  | nil => cases inserted; exact List.pairwise_singleton ..
  | cons d rest ih =>
    have above := List.pairwise_cons.1 ascending
    simp only [insertAscending?] at inserted
    split at inserted
    · next before =>
      cases inserted
      exact List.pairwise_cons.2 ⟨fun x member => by
        rcases List.mem_cons.1 member with rfl | member
        · exact before
        · exact Char.lt_trans before (above.1 x member), ascending⟩
    · next notBefore =>
      split at inserted
      · cases inserted
      · next different =>
        obtain ⟨es, found, rfl⟩ := Option.map_eq_some_iff.1 inserted
        refine List.pairwise_cons.2 ⟨fun x member => ?_, ih above.2 found⟩
        rcases (mem_insertAscending? found).1 member with rfl | member
        · exact Decidable.byContradiction fun notAfter =>
            different (Char.le_antisymm (Char.not_lt.1 notAfter) (Char.not_lt.1 notBefore))
        · exact above.1 x member

theorem insertAscending?_eq_none_iff {c : Char} {cs : List Char}
    (ascending : cs.Pairwise (· < ·)) : insertAscending? c cs = none ↔ c ∈ cs := by
  induction cs with
  | nil => simp [insertAscending?]
  | cons d rest ih =>
    have above := List.pairwise_cons.1 ascending
    simp only [insertAscending?]
    split
    · next before =>
      have absent : c ∉ rest := fun member =>
        Char.lt_irrefl c (Char.lt_trans before (above.1 c member))
      have different : c ≠ d := fun same => Char.lt_irrefl d (same ▸ before)
      simp [absent, different]
    · split
      · next same => simp [same]
      · next different => simp [ih above.2, different]

/-- A finite set of characters. -/
@[ext] structure SymbolSet where
  members : List Char
  ascending : members.Pairwise (· < ·)
  deriving DecidableEq

namespace SymbolSet

def empty : SymbolSet := ⟨[], .nil⟩

instance : EmptyCollection SymbolSet := ⟨empty⟩
instance : Inhabited SymbolSet := ⟨empty⟩
instance : Membership Char SymbolSet := ⟨fun s c => c ∈ s.members⟩

instance (c : Char) (s : SymbolSet) : Decidable (c ∈ s) :=
  inferInstanceAs (Decidable (c ∈ s.members))

def contains (s : SymbolSet) (c : Char) : Bool := decide (c ∈ s)

@[simp] theorem contains_iff {s : SymbolSet} {c : Char} : s.contains c = true ↔ c ∈ s := by
  simp [contains]

/-- The set with `c` added, or nothing if `c` is already a member. -/
def insert? (s : SymbolSet) (c : Char) : Option SymbolSet :=
  match inserted : insertAscending? c s.members with
  | none => none
  | some members => some ⟨members, pairwise_insertAscending? s.ascending inserted⟩

theorem insert?_eq_none_iff {s : SymbolSet} {c : Char} : s.insert? c = none ↔ c ∈ s := by
  rw [insert?]
  split
  · next refused =>
    have member : c ∈ s := (insertAscending?_eq_none_iff s.ascending).1 refused
    simp [member]
  · next members inserted =>
    have absent : ¬ c ∈ s := fun member => by
      rw [(insertAscending?_eq_none_iff s.ascending).2 member] at inserted
      cases inserted
    simp [absent]

def insert (s : SymbolSet) (c : Char) : SymbolSet := (s.insert? c).getD s

@[simp] theorem mem_insert {s : SymbolSet} {c x : Char} : x ∈ s.insert c ↔ x = c ∨ x ∈ s := by
  rw [insert]
  cases added : s.insert? c with
  | none =>
    have member := insert?_eq_none_iff.1 added
    exact ⟨.inr, fun cases => cases.elim (fun same => same ▸ member) id⟩
  | some t =>
    rw [insert?] at added
    split at added
    · cases added
    · next members inserted =>
      cases added
      exact mem_insertAscending? inserted

def single (c : Char) : SymbolSet := ⟨[c], List.pairwise_singleton ..⟩

/-- Add every character of `cs`. -/
def extend (s : SymbolSet) (cs : List Char) : SymbolSet := cs.foldl insert s

@[simp] theorem mem_extend {s : SymbolSet} {cs : List Char} {x : Char} :
    x ∈ s.extend cs ↔ x ∈ cs ∨ x ∈ s := by
  induction cs generalizing s with
  | nil => simp [extend]
  | cons c rest ih =>
    have step : s.extend (c :: rest) = (s.insert c).extend rest := rfl
    rw [step, ih, mem_insert, List.mem_cons]
    grind

def ofList (cs : List Char) : SymbolSet := empty.extend cs

def union (s t : SymbolSet) : SymbolSet := s.extend t.members

instance : Union SymbolSet := ⟨union⟩

/-- The ASCII letters and digits, which a pattern writes `.`. -/
def alphanumeric : SymbolSet :=
  ⟨"0123456789ABCDEFGHIJKLMNOPQRSTUVWXYZabcdefghijklmnopqrstuvwxyz".toList, by decide +kernel⟩

def size (s : SymbolSet) : Nat := s.members.length

def isEmpty (s : SymbolSet) : Bool := s.members.isEmpty

end SymbolSet

end PatternGraph
