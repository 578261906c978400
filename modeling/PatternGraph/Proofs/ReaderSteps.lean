import PatternGraph.Pattern.Parse
import PatternGraph.Proofs.Items

/-!
# What one token does to the reader

A token is taken or refused in a few ways, and little of the reader's place decides between them:
whether a class is open, its members, and whether a quantifier may follow. So a fact about all
places and all tokens has one case for each of these ways. In particular, a parse that succeeds
recognizes exactly the items of the text, in this order.
-/
namespace PatternGraph.Parse

variable {place next : Place} {t : Token} {lookahead : Token.Kind} {tokens : List Token}
  {sourceEnd offset : Nat} {source rest : List Char}

def Step.item? : Step → Option Item
  | .rule .. => none
  | .element symbols lookahead => some ⟨symbols, Quantifier.ofKind? lookahead⟩

/-- The elements that a parse recognizes, each with the quantifier in sight behind it. -/
def items (p : Parse) : List Item := p.steps.filterMap Step.item?

theorem items_after (p : Parse) (steps : List Step) :
    (p.after steps).items = steps.filterMap Step.item? ++ p.items :=
  List.filterMap_append

theorem items_finish (sourceEnd : Nat) (place : Place) :
    (place.finish sourceEnd).steps.filterMap Step.item? = [] := by
  cases place <;> rfl

/-- The `[` of the class that is open, and the members read so far. -/
def Place.class? : Place → Option (Token × SymbolSet)
  | .start | .first | .further | .quantified => none
  | .opened _ opening => some (opening, ∅)
  | .inside _ opening members => some (opening, members)

/-- The members read so far of the class that is open. -/
def Place.members? : Place → Option SymbolSet
  | .opened _ _ => some ∅
  | .inside _ _ members => some members
  | .start | .first | .further | .quantified => none

theorem members?_eq_map_class? (place : Place) : place.members? = place.class?.map (·.2) := by
  cases place <;> rfl

@[simp] theorem members?_behindElement (inRun : Bool) :
    (Place.behindElement inRun).members? = none := by
  cases inRun <;> rfl

theorem class?_eq_none_of_behindElement (behind : place = .first ∨ place = .further) :
    place.class? = none := by
  rcases behind with rfl | rfl <;> rfl

/-- The ways in which a token is taken where the reader stands, with the characters of the element
that it completes, if it does. -/
inductive Takes (place : Place) (t : Token) : Option SymbolSet → Place → Prop
  | literal (outside : place.class? = none) (kind : t.kind = .char) (inRun : Bool) :
      Takes place t (some (.single t.char)) (.behindElement inRun)
  | wildcard (outside : place.class? = none) (kind : t.kind = .wildcard) (inRun : Bool) :
      Takes place t (some .alphanumeric) (.behindElement inRun)
  | opening (outside : place.class? = none) (kind : t.kind = .classOpen) (inRun : Bool) :
      Takes place t none (.opened inRun t)
  | quantifier (behind : place = .first ∨ place = .further) (kind : t.kind.isQuantifier) :
      Takes place t none .quantified
  | member {opening : Token} {members : SymbolSet} (inside : place.class? = some (opening, members))
      (kind : t.kind = .char) (inRun : Bool) :
      Takes place t none (.inside inRun opening (members.insert t.char))
  | closing {inRun : Bool} {opening : Token} {members : SymbolSet}
      (inside : place = .inside inRun opening members) (kind : t.kind = .classClose) :
      Takes place t (some members) (.behindElement inRun)

/-- The ways in which a token is refused where the reader stands. -/
inductive Refuses (place : Place) (t : Token) : Diagnostic → Prop
  | noElement (outside : place.class? = none) (kind : ¬ t.kind.startsAtom) :
      Refuses place t (unexpected t)
  | emptyClass {inRun : Bool} {opening : Token} (inside : place = .opened inRun opening)
      (kind : t.kind = .classClose) :
      Refuses place t (.bare .expectedClassMember t.span)
  | noMember {opening : Token} {members : SymbolSet}
      (inside : place.class? = some (opening, members)) (kind : t.kind ≠ .classClose) :
      Refuses place t (.naming .expectedClassMember t.span t.kind.describe)

/-- What a token does where the reader stands: the items that its steps recognize, and what it
leads to. -/
inductive Explains (place : Place) (t : Token) (lookahead : Token.Kind) :
    List Item → Except Diagnostic Place → Prop
  | takes {symbols? : Option SymbolSet} {next : Place} (takes : Takes place t symbols? next) :
      Explains place t lookahead
        (symbols?.map fun symbols => ⟨symbols, Quantifier.ofKind? lookahead⟩).toList (.ok next)
  | refuses {diagnostic : Diagnostic} (refuses : Refuses place t diagnostic) :
      Explains place t lookahead [] (.error diagnostic)

theorem explains_readElement (outside : place.class? = none) (inRun : Bool) (t : Token)
    (lookahead : Token.Kind) :
    Explains place t lookahead ((readElement inRun t lookahead).steps.filterMap Step.item?)
      (readElement inRun t lookahead).next := by
  cases kind : t.kind
  case char =>
    simp only [readElement, kind]
    exact .takes (.literal outside kind inRun)
  case wildcard =>
    simp only [readElement, kind]
    exact .takes (.wildcard outside kind inRun)
  case classOpen =>
    simp only [readElement, kind]
    exact .takes (.opening outside kind inRun)
  all_goals
    simp only [readElement, kind]
    exact .refuses (.noElement outside (by simp [kind, Token.Kind.startsAtom]))

/-- Whatever a token does, it does in one of the ways above. -/
theorem explains_read (place : Place) (t : Token) (lookahead : Token.Kind) :
    Explains place t lookahead ((place.read t lookahead).steps.filterMap Step.item?)
      (place.read t lookahead).next := by
  cases place with
  | start => exact explains_readElement rfl false t lookahead
  | first =>
    rw [Place.read]
    split
    · next quantifying => exact .takes (.quantifier (.inl rfl) quantifying)
    · exact explains_readElement rfl true t lookahead
  | further =>
    rw [Place.read]
    split
    · next quantifying => exact .takes (.quantifier (.inr rfl) quantifying)
    · exact explains_readElement rfl true t lookahead
  | quantified =>
    rw [Place.read]
    split
    · exact explains_readElement rfl false t lookahead
    · next kind => exact .refuses (.noElement rfl kind)
  | opened inRun opening =>
    have inside : (Place.opened inRun opening).class? = some (opening, ∅) := rfl
    rw [Place.read, readFirstMember]
    split
    · next kind => exact .takes (.member inside kind inRun)
    · next kind => exact .refuses (.emptyClass rfl kind)
    · next kind => exact .refuses (.noMember inside kind)
  | inside inRun opening members =>
    rw [Place.read, readMember]
    split
    · next kind => exact .takes (.member rfl kind inRun)
    · next kind => exact .takes (.closing rfl kind)
    · next kind => exact .refuses (.noMember rfl kind)

/-- No token is taken in another way. -/
theorem takes_of_read (moved : (place.read t lookahead).next = .ok next) :
    ∃ symbols?, Takes place t symbols? next ∧
      (place.read t lookahead).steps.filterMap Step.item? =
        (symbols?.map fun symbols => ⟨symbols, Quantifier.ofKind? lookahead⟩).toList := by
  have explained := explains_read place t lookahead
  rw [moved] at explained
  generalize (place.read t lookahead).steps.filterMap Step.item? = recognized at explained ⊢
  cases explained with
  | takes takes => exact ⟨_, takes, rfl⟩

/-- No token is refused in another way. -/
theorem refuses_of_read {diagnostic : Diagnostic}
    (refused : (place.read t lookahead).next = .error diagnostic) :
    Refuses place t diagnostic := by
  have explained := explains_read place t lookahead
  rw [refused] at explained
  generalize (place.read t lookahead).steps.filterMap Step.item? = recognized at explained
  cases explained with
  | refuses refuses => exact refuses

/-- A token completes at most one element. -/
theorem length_items_read (place : Place) (t : Token) (lookahead : Token.Kind) :
    ((place.read t lookahead).steps.filterMap Step.item?).length ≤ 1 := by
  have explained := explains_read place t lookahead
  generalize (place.read t lookahead).steps.filterMap Step.item? = recognized at explained ⊢
  generalize (place.read t lookahead).next = outcome at explained
  cases explained with
  | @takes symbols? => cases symbols? <;> simp
  | refuses => exact Nat.zero_le 1

/-- One token of a parse takes from the items what one character of the text does. -/
theorem ofTextFrom_of_read {kind : Token.Kind} {c : Char} {start : Nat}
    (known : Token.Kind.ofChar? c = some kind)
    (ahead : Quantifier.ofKind? lookahead = Item.quantifierAhead rest)
    (moved : (place.read ⟨kind, c, start⟩ lookahead).next = .ok next) :
    Item.ofTextFrom place.members? (c :: rest) =
      (place.read ⟨kind, c, start⟩ lookahead).steps.filterMap Step.item? ++
        Item.ofTextFrom next.members? rest := by
  obtain ⟨symbols?, takes, recognized⟩ := takes_of_read moved
  rw [recognized, ahead, members?_eq_map_class?]
  cases takes with
  | literal outside kind inRun | wildcard outside kind inRun =>
    cases kind
    simp [outside, Item.ofTextFrom, known]
  | opening outside kind inRun =>
    cases kind
    simp [outside, Item.ofTextFrom, known, Place.members?]
  | quantifier behind quantifying =>
    have outside := class?_eq_none_of_behindElement behind
    cases kind <;> cases quantifying <;> simp [outside, Item.ofTextFrom, known, Place.members?]
  | member inside kind inRun =>
    cases kind
    simp [inside, Item.ofTextFrom, known, Place.members?]
  | closing inside kind =>
    cases kind
    simp [inside, Item.ofTextFrom, known, Place.class?]

/-- The quantifier in sight of the reader is the one that the text goes on with. -/
theorem ofKind?_lookahead (read : Token.ofSourceFrom offset source = .ok tokens) :
    Quantifier.ofKind? (Token.lookahead tokens) = Item.quantifierAhead source := by
  rw [Token.lookahead_of_ofSourceFrom read, Item.quantifierAhead]
  cases source.head?.bind Token.Kind.ofChar? <;> rfl

/-- A parse that succeeds reads a token and goes on with success. -/
theorem exists_next_of_failure_eq_none
    (succeeded : (ofTokensFrom sourceEnd place (t :: tokens)).failure = none) :
    ∃ next, (place.read t (Token.lookahead tokens)).next = .ok next ∧
      ofTokensFrom sourceEnd place (t :: tokens) =
        (ofTokensFrom sourceEnd next tokens).after
          (place.read t (Token.lookahead tokens)).steps ∧
      (ofTokensFrom sourceEnd next tokens).failure = none := by
  rw [ofTokensFrom] at succeeded ⊢
  cases moved : place.read t (Token.lookahead tokens) with
  | mk steps next =>
    rw [moved] at succeeded
    cases next with
    | error diagnostic => cases succeeded
    | ok next => exact ⟨next, rfl, rfl, succeeded⟩

/-- A parse that succeeds from a place on recognizes the items of the text from there on. -/
theorem items_ofTokensFrom (read : Token.ofSourceFrom offset source = .ok tokens)
    (succeeded : (ofTokensFrom sourceEnd place tokens).failure = none) :
    (ofTokensFrom sourceEnd place tokens).items = Item.ofTextFrom place.members? source := by
  induction source generalizing offset place tokens with
  | nil =>
    cases read
    cases place <;> cases succeeded <;> rfl
  | cons c rest ih =>
    obtain ⟨kind, following, known, readRest, rfl⟩ := Token.ofSourceFrom_cons_eq_ok_iff.1 read
    obtain ⟨next, arrived, parsed, succeeded⟩ := exists_next_of_failure_eq_none succeeded
    rw [parsed, items_after, ih readRest succeeded,
      ofTextFrom_of_read known (ofKind?_lookahead readRest) arrived]

/-- A parse that succeeds recognizes the items of the text. -/
theorem items_ofTokens (read : Token.ofSource source = .ok tokens)
    (succeeded : (ofTokens sourceEnd tokens).failure = none) :
    (ofTokens sourceEnd tokens).items = Item.ofText source :=
  items_ofTokensFrom read succeeded

end PatternGraph.Parse
