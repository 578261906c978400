import Mathlib.Computability.Language
import PatternGraph.Proofs.Items

/-!
# The textbook language of a list of items

Each item stands for a set of words: one character of its set, one or none under `?`, any number
under `*`, at least one under `+`. The language of a list of items is the concatenation of these.
Below that, what the first character of a word says about membership.
-/
namespace PatternGraph
open scoped Computability

/-- The words of one character of the set. -/
def SymbolSet.language (s : SymbolSet) : Language Char := {w | ∃ c, c ∈ s ∧ w = [c]}

namespace Item

def language (i : Item) : Language Char :=
  match i.quantifier with
  | none => i.symbols.language
  | some .question => i.symbols.language + 1
  | some .star => i.symbols.language∗
  | some .plus => i.symbols.language * i.symbols.language∗

/-- The concatenation of the languages of the items. -/
def languageOf (items : List Item) : Language Char := (items.map language).prod

@[simp] theorem languageOf_nil : languageOf [] = 1 := rfl

@[simp] theorem languageOf_cons (i : Item) (rest : List Item) :
    languageOf (i :: rest) = i.language * languageOf rest := by
  simp [languageOf]

@[simp] theorem languageOf_append (items more : List Item) :
    languageOf (items ++ more) = languageOf items * languageOf more := by
  simp [languageOf]

end Item

namespace SymbolSet
variable {s : SymbolSet} {l m : Language Char} {c : Char} {w : List Char}

theorem nil_mem_mul_iff : [] ∈ l * m ↔ [] ∈ l ∧ [] ∈ m := by
  rw [Language.mem_mul]
  constructor
  · rintro ⟨u, first, v, second, joined⟩
    obtain ⟨rfl, rfl⟩ := List.append_eq_nil_iff.1 joined
    exact ⟨first, second⟩
  · rintro ⟨first, second⟩
    exact ⟨[], first, [], second, rfl⟩

theorem nil_notMem_language : [] ∉ s.language := by
  rintro ⟨c, _, empty⟩
  cases empty

theorem cons_mem_language_mul_iff : c :: w ∈ s.language * l ↔ c ∈ s ∧ w ∈ l := by
  rw [Language.mem_mul]
  constructor
  · rintro ⟨_, ⟨d, member, rfl⟩, v, tail, joined⟩
    obtain ⟨rfl, rfl⟩ := List.cons.inj joined
    exact ⟨member, tail⟩
  · rintro ⟨member, tail⟩
    exact ⟨[c], ⟨c, member, rfl⟩, w, tail, rfl⟩

theorem kstar_language_mul : s.language∗ * l = l + s.language * (s.language∗ * l) := by
  rw [← mul_assoc]
  nth_rewrite 1 [← Language.one_add_self_mul_kstar_eq_kstar]
  rw [add_mul, one_mul]

theorem nil_mem_kstar_mul_iff : [] ∈ s.language∗ * l ↔ [] ∈ l := by
  rw [nil_mem_mul_iff]
  exact and_iff_right (Language.nil_mem_kstar _)

theorem cons_mem_kstar_mul_iff :
    c :: w ∈ s.language∗ * l ↔ (c ∈ s ∧ w ∈ s.language∗ * l) ∨ c :: w ∈ l := by
  nth_rewrite 1 [kstar_language_mul]
  rw [Language.mem_add, cons_mem_language_mul_iff, or_comm]

/-- At most one loop in front of a language: a word enters the loop or the language. -/
theorem cons_mem_loops_mul_iff {loops : List SymbolSet} (one : loops.length ≤ 1) :
    c :: w ∈ (loops.map (·.language∗)).prod * l ↔
      (∃ s ∈ loops, c ∈ s ∧ w ∈ (loops.map (·.language∗)).prod * l) ∨ c :: w ∈ l := by
  match loops, one with
  | [], _ => simp
  | [s], _ => simp [cons_mem_kstar_mul_iff]

theorem nil_mem_loops_mul_iff (loops : List SymbolSet) :
    [] ∈ (loops.map (·.language∗)).prod * l ↔ [] ∈ l := by
  induction loops with
  | nil => simp
  | cons s rest ih => rw [List.map_cons, List.prod_cons, mul_assoc, nil_mem_kstar_mul_iff, ih]

end SymbolSet

theorem Item.nil_mem_language_iff {i : Item} : [] ∈ i.language ↔ i.isStarred ∨ i.isOptional := by
  unfold Item.language Item.isStarred Item.isOptional
  split
  · next plain => simp [plain, SymbolSet.nil_notMem_language]
  · next optional =>
    exact iff_of_true ((Language.mem_add _ _ _).2 (.inr Language.nil_mem_one))
      (.inr (by simp [optional]))
  · next starred => simp [starred, Language.nil_mem_kstar]
  · next repeated => simp [repeated, SymbolSet.nil_mem_mul_iff, SymbolSet.nil_notMem_language]

end PatternGraph
