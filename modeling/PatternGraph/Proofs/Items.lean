import PatternGraph.Proofs.Tokens
import PatternGraph.SymbolSet

/-!
# Items of a pattern

An item is an element of a pattern, which is a literal, `.` or a class, together with the
quantifier right behind it. The items can be read off the text of a pattern without regard to the
grammar.
-/
namespace PatternGraph

inductive Quantifier where
  | star | plus | question
  deriving DecidableEq, Repr

def Quantifier.ofKind? : Token.Kind → Option Quantifier
  | .star => some star
  | .plus => some plus
  | .question => some question
  | _ => none

/-- The characters that an element stands for and the quantifier that it carries. -/
structure Item where
  symbols : SymbolSet
  quantifier : Option Quantifier
  deriving DecidableEq

namespace Item

def isStarred (i : Item) : Bool := i.quantifier = some .star

def isRepeated (i : Item) : Bool := i.quantifier = some .plus

def isOptional (i : Item) : Bool := i.quantifier = some .question

theorem isOptional_eq_false_of_isStarred {i : Item} (starred : i.isStarred) :
    i.isOptional = false := by
  simp_all [isStarred, isOptional]

theorem isStarred_eq_false_of_isOptional {i : Item} (optional : i.isOptional) :
    i.isStarred = false := by
  simp_all [isStarred, isOptional]

/-- The quantifier that a text begins with. -/
def quantifierAhead (rest : List Char) : Option Quantifier :=
  (rest.head?.bind Token.Kind.ofChar?).bind Quantifier.ofKind?

/-- Read the items of a text, inside a class if that has `members` so far. A quantifier belongs to
the element before it and is passed over. -/
def ofTextFrom : Option SymbolSet → List Char → List Item
  | _, [] => []
  | none, c :: rest =>
    match Token.Kind.ofChar? c with
    | some .char => ⟨.single c, quantifierAhead rest⟩ :: ofTextFrom none rest
    | some .wildcard => ⟨.alphanumeric, quantifierAhead rest⟩ :: ofTextFrom none rest
    | some .classOpen => ofTextFrom (some ∅) rest
    | _ => ofTextFrom none rest
  | some members, c :: rest =>
    match Token.Kind.ofChar? c with
    | some .classClose => ⟨members, quantifierAhead rest⟩ :: ofTextFrom none rest
    | _ => ofTextFrom (some (members.insert c)) rest

/-- The items of a pattern in order. -/
def ofText (text : List Char) : List Item := ofTextFrom none text

/-- The characters of an element are written in the text, or are those of `.`. -/
theorem mem_of_mem_ofTextFrom {class? : Option SymbolSet} {text : List Char} {i : Item} {c : Char}
    (member : i ∈ ofTextFrom class? text) (within : c ∈ i.symbols) :
    c ∈ text ∨ c ∈ SymbolSet.alphanumeric ∨ ∃ members ∈ class?, c ∈ members := by
  induction text generalizing class? with
  | nil => cases class? <;> cases member
  | cons d rest ih =>
    have later {class? : Option SymbolSet} (member : i ∈ ofTextFrom class? rest) :
        c ∈ d :: rest ∨ c ∈ SymbolSet.alphanumeric ∨ ∃ members ∈ class?, c ∈ members :=
      (ih member).imp_left (List.mem_cons_of_mem d)
    cases class? with
    | none =>
      simp only [ofTextFrom] at member
      split at member
      · rcases List.mem_cons.1 member with rfl | member
        · exact .inl (List.mem_cons.2 (.inl (List.mem_singleton.1 within)))
        · exact later member
      · rcases List.mem_cons.1 member with rfl | member
        · exact .inr (.inl within)
        · exact later member
      · rcases later member with written | wild | ⟨_, opened, empty⟩
        · exact .inl written
        · exact .inr (.inl wild)
        · cases opened
          cases empty
      · exact later member
    | some members =>
      simp only [ofTextFrom] at member
      split at member
      · rcases List.mem_cons.1 member with rfl | member
        · exact .inr (.inr ⟨members, rfl, within⟩)
        · rcases later member with written | wild | ⟨_, closed, _⟩
          · exact .inl written
          · exact .inr (.inl wild)
          · cases closed
      · rcases later member with written | wild | ⟨_, grown, inside⟩
        · exact .inl written
        · exact .inr (.inl wild)
        · cases grown
          rcases SymbolSet.mem_insert.1 inside with rfl | before
          · exact .inl List.mem_cons_self
          · exact .inr (.inr ⟨members, rfl, before⟩)

end Item

end PatternGraph
