import PatternGraph.Proofs.Concatenation
import PatternGraph.Proofs.SymbolSets

/-!
# Elements within a text

An element is written as a literal, as `.` or as a class of literals. Where it stands behind a
complete pattern, or at the very beginning, the text around it is read the same whichever way it is
written: what follows decides whether the whole is a pattern, and the element adds one item to those
in front of it and behind it.
-/
namespace PatternGraph
open Token (Kind InAlphabet)
open Grammar (Position)

theorem Token.ofChar?_of_isLiteral {c : Char} (literal : Text.isLiteral c) :
    Kind.ofChar? c = some .char := by
  unfold Kind.ofChar?
  split
  case h_7 => rw [if_pos literal]
  all_goals exact absurd literal (by decide)

/-- The text is an element, which stands for the characters of the set. -/
inductive Writes : List Char → SymbolSet → Prop
  | literal {c : Char} (literal : Text.isLiteral c) : Writes [c] (.single c)
  | wildcard : Writes ['.'] .alphanumeric
  | charClass {members : List Char} (nonempty : members ≠ [])
      (literal : ∀ c ∈ members, Text.isLiteral c) :
      Writes ('[' :: members ++ [']']) (.ofList members)

/-- The text is empty or a pattern, so that an element may follow it. -/
def Complete (text : List Char) : Prop := text = [] ∨ ∃ g, compile text = .ok g

namespace Grammar.Position
variable {p : Position} {text : List Char} {symbols : SymbolSet}

/-- An element may begin here. -/
def isBetween : Position → Bool
  | begin | behindElement | behindQuantifier => true
  | behindOpening | behindMember => false

theorem next?_of_isBetween (between : p.isBetween) {k : Kind} (starting : k.startsAtom) :
    p.next? k = intoElement? k := by
  cases p with
  | begin | behindQuantifier => rfl
  | behindElement => cases k <;> first | rfl | cases starting
  | behindOpening | behindMember => cases between

theorem isBetween_of_next?_classOpen {q : Position} (opened : p.next? .classOpen = some q) :
    p.isBetween := by
  cases p <;> first | rfl | cases opened

theorem reach?_members {members : List Char} (literal : ∀ c ∈ members, Text.isLiteral c) :
    behindMember.reach? (Token.kinds members) = some behindMember := by
  induction members with
  | nil => rfl
  | cons c rest ih =>
    have known := Token.ofChar?_of_isLiteral (literal c List.mem_cons_self)
    rw [Token.kinds_cons known]
    exact ih fun d member => literal d (List.mem_cons_of_mem c member)

/-- An element leads behind itself, wherever one may begin. -/
theorem reach?_of_writes (between : p.isBetween) (written : Writes text symbols) :
    p.reach? (Token.kinds text) = some behindElement := by
  cases written with
  | literal literal =>
    rw [Token.kinds_cons (Token.ofChar?_of_isLiteral literal), reach?,
      next?_of_isBetween between rfl]
    rfl
  | wildcard =>
    rw [Token.kinds_cons rfl, reach?, next?_of_isBetween between rfl]
    rfl
  | @charClass members nonempty literal =>
    obtain ⟨c, rest, rfl⟩ := List.exists_cons_of_ne_nil nonempty
    have known := Token.ofChar?_of_isLiteral (literal c List.mem_cons_self)
    have inside := reach?_members fun d member => literal d (List.mem_cons_of_mem c member)
    rw [List.cons_append, List.cons_append, Token.kinds_cons rfl, Token.kinds_cons known,
      Token.kinds_append, reach?, next?_of_isBetween between rfl]
    change behindMember.reach? (Token.kinds rest ++ [.classClose]) = _
    rw [reach?_append, inside]
    rfl

end Grammar.Position

theorem Writes.inAlphabet {text : List Char} {symbols : SymbolSet}
    (written : Writes text symbols) : ∀ c ∈ text, InAlphabet c := by
  have member {c : Char} (literal : Text.isLiteral c) : InAlphabet c := by
    rw [← Token.recognized_iff_inAlphabet, Token.Recognized, Token.ofChar?_of_isLiteral literal]
    rfl
  cases written with
  | literal literal => simpa using member literal
  | wildcard => exact List.forall_mem_singleton.2 (by decide)
  | charClass _ literal =>
    intro c among
    rcases List.mem_append.1 among with front | closing
    · rcases List.mem_cons.1 front with rfl | inside
      · decide
      · exact member (literal c inside)
    · obtain rfl := List.mem_singleton.1 closing
      decide

namespace Item
variable {text : List Char} {symbols : SymbolSet}

theorem ofTextFrom_members {members : List Char} (literal : ∀ c ∈ members, Text.isLiteral c)
    (before : SymbolSet) (rest : List Char) :
    ofTextFrom (some before) (members ++ ']' :: rest) =
      ⟨before.extend members, quantifierAhead rest⟩ :: ofTextFrom none rest := by
  induction members generalizing before with
  | nil => rfl
  | cons c more ih =>
    have known := Token.ofChar?_of_isLiteral (literal c List.mem_cons_self)
    simp only [List.cons_append, ofTextFrom, known]
    exact ih (fun d member => literal d (List.mem_cons_of_mem c member)) (before.insert c)

/-- The items of a text that begins with an element. -/
theorem ofText_of_writes (written : Writes text symbols) (rest : List Char) :
    ofText (text ++ rest) = ⟨symbols, quantifierAhead rest⟩ :: ofText rest := by
  cases written with
  | literal literal =>
    have known := Token.ofChar?_of_isLiteral literal
    simp only [List.singleton_append, ofText, ofTextFrom, known]
  | wildcard => rfl
  | charClass _ literal =>
    rw [List.append_assoc]
    exact ofTextFrom_members literal ∅ rest

theorem quantifierAhead_of_writes (written : Writes text symbols) (rest : List Char) :
    quantifierAhead (text ++ rest) = none := by
  cases written with
  | literal literal =>
    have known := Token.ofChar?_of_isLiteral literal
    simp [quantifierAhead, known, Quantifier.ofKind?]
  | wildcard => rfl
  | charClass _ _ => rfl

end Item

section complete
variable {front text rest : List Char} {symbols : SymbolSet} {g : Graph} {p : Position}

/-- Nothing leads back to the beginning. -/
theorem Grammar.Position.eq_nil_of_reach?_begin {w : List Kind}
    (reached : p.reach? w = some .begin) : w = [] := by
  induction w generalizing p with
  | nil => rfl
  | cons k more ih =>
    rw [reach?] at reached
    obtain ⟨q, moved, onward⟩ := Option.bind_eq_some_iff.1 reached
    obtain rfl := ih onward
    cases onward
    cases p <;> cases k <;> cases moved

theorem Complete.reach? (complete : Complete front) :
    (∀ c ∈ front, InAlphabet c) ∧
      ∃ p, Position.begin.reach? (Token.kinds front) = some p ∧ p.isBetween := by
  rcases complete with rfl | ⟨g, compiled⟩
  · exact ⟨by simp, .begin, rfl, rfl⟩
  · obtain ⟨alphabet, accepted, _⟩ := compile_eq_ok_iff_accepts.1 compiled
    rw [Position.accepts_eq_any_isFinal, Option.any_eq_true] at accepted
    obtain ⟨p, reached, final⟩ := accepted
    refine ⟨alphabet, p, reached, ?_⟩
    cases p <;> first | rfl | cases final

theorem complete_of_reach? (alphabet : ∀ c ∈ front, InAlphabet c)
    (reached : Position.begin.reach? (Token.kinds front) = some p) (between : p.isBetween) :
    Complete front := by
  cases p with
  | begin =>
    have none := Position.eq_nil_of_reach?_begin reached
    refine .inl (List.eq_nil_iff_forall_not_mem.2 fun c member => ?_)
    have recognized := Token.recognized_iff_inAlphabet.2 (alphabet c member)
    rw [Token.Recognized, List.filterMap_eq_nil_iff.1 none c member] at recognized
    cases recognized
  | behindElement | behindQuantifier =>
    have accepted : Position.begin.accepts (Token.kinds front) := by
      rw [Position.accepts_eq_any_isFinal, reached]
      rfl
    exact .inr ⟨_, compile_eq_ok_iff_accepts.2 ⟨alphabet, accepted, rfl⟩⟩
  | behindOpening | behindMember => cases between

theorem Complete.ofText_append (complete : Complete front)
    (plain : Item.quantifierAhead rest = none) :
    Item.ofText (front ++ rest) = Item.ofText front ++ Item.ofText rest := by
  rcases complete with rfl | ⟨g, compiled⟩
  · rfl
  · exact Item.ofText_append compiled plain

/-- A text with an element behind its complete front compiles exactly if what follows the element
completes the pattern, and the element is one of its items. -/
theorem compile_around_element_iff (complete : Complete front) (written : Writes text symbols) :
    compile (front ++ text ++ rest) = .ok g ↔
      (∀ c ∈ rest, InAlphabet c) ∧ Position.behindElement.accepts (Token.kinds rest) ∧
        g = Item.graph (Item.ofText front ++
          ⟨symbols, Item.quantifierAhead rest⟩ :: Item.ofText rest) := by
  obtain ⟨alphabet, p, reached, between⟩ := complete.reach?
  have accepts : Position.begin.accepts (Token.kinds (front ++ text ++ rest)) =
      Position.behindElement.accepts (Token.kinds rest) := by
    rw [Token.kinds_append, Token.kinds_append, List.append_assoc, Position.accepts_append,
      reached, Option.any_some, Position.accepts_append, Position.reach?_of_writes between written,
      Option.any_some]
  have items : Item.ofText (front ++ text ++ rest) =
      Item.ofText front ++ ⟨symbols, Item.quantifierAhead rest⟩ :: Item.ofText rest := by
    rw [List.append_assoc,
      complete.ofText_append (Item.quantifierAhead_of_writes written rest),
      Item.ofText_of_writes written]
  rw [compile_eq_ok_iff_accepts, accepts, items, List.append_assoc, List.forall_mem_append,
    List.forall_mem_append]
  constructor
  · rintro ⟨⟨_, _, following⟩, completed, same⟩
    exact ⟨following, completed, same⟩
  · rintro ⟨following, completed, same⟩
    exact ⟨⟨alphabet, written.inAlphabet, following⟩, completed, same⟩

end complete

end PatternGraph
