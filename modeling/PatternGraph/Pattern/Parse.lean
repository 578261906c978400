import PatternGraph.Pattern.Token
import PatternGraph.SymbolSet

/-!
# Reading tokens by the grammar

```text
Pattern      := Atom TailOpt
TailOpt      := Pattern | ε
Atom         := (CHAR | WILDCARD | '[' ListBody ']') AtomSuffix
AtomSuffix   := Quantifier | Run
Run          := (CHAR | WILDCARD | '[' ListBody ']') Run | Quantifier | ε
Quantifier   := '*' | '+' | '?'
ListBody     := CHAR ListBodyTail
ListBodyTail := CHAR ListBodyTail | ε
```

The tokens are read from left to right, one at a time and with the next one in sight. Between two
tokens the reader stands at a `Place` of the grammar; each token moves it to the next place or is
refused there. The steps of a parse are the rules entered and the elements recognised, in order.
-/
namespace PatternGraph

/-- The rules of the grammar whose entry is worth telling. -/
inductive Rule where
  | pattern | atom | atomSuffix | run | quantifier | charClass | listBody
  deriving DecidableEq, Repr

def Rule.name : Rule → String
  | pattern => "pattern"
  | atom => "atom"
  | atomSuffix => "atom_suffix"
  | run => "run"
  | quantifier => "quantifier"
  | charClass => "class"
  | listBody => "list_body"

namespace Parse

inductive Step where
  /-- A rule is entered at a token of kind `lookahead`. -/
  | rule (rule : Rule) (lookahead : Token.Kind)
  /-- A literal, wildcard or class is complete and a token of kind `lookahead` follows it. -/
  | element (symbols : SymbolSet) (lookahead : Token.Kind)
  deriving DecidableEq

/-- Where the reader stands between two tokens. A place says which rules are under way and where in
their loops the reader is:

* `start`: the `Pattern` is entered at the next token, and its first `Atom`.
* `first`: the element of an `Atom` is done, and its `AtomSuffix` is entered next: a `Quantifier`,
  or a `Run` of further elements.
* `further`: the loop of a `Run` has taken an element and is to look again. A token that neither
  begins an element nor is a quantifier ends the `Run`, its `Atom` and the loop over the atoms, and
  is then refused as text behind a complete pattern.
* `quantified`: a `Quantifier` has ended its `Atom`, and the loop over the atoms is to look again.
  What begins no atom ends that loop, and is refused likewise. A second quantifier is refused by the
  `Quantifier` itself, in the same words.
* `opened`: the `[` of a class is taken, and its `ListBody` is entered next.
* `inside`: the loop of the `ListBody` has taken a member and is to look again.

An element is read alike in an `Atom` and in a `Run`; only the place behind it differs. To read rule
by rule, as `Descent` does, comes to the same. -/
inductive Place where
  /-- Nothing is read yet. -/
  | start
  /-- Behind the first element of an atom. -/
  | first
  /-- Behind a later element of the same run. -/
  | further
  /-- Behind a quantifier. -/
  | quantified
  /-- Right behind the `[` that `opening` is. -/
  | opened (inRun : Bool) (opening : Token)
  /-- Inside a class, behind at least one member. -/
  | inside (inRun : Bool) (opening : Token) (members : SymbolSet)
  deriving DecidableEq

/-- The place behind an element that does, or does not, continue a run. -/
def Place.behindElement (inRun : Bool) : Place := if inRun then .further else .first

/-- What reading one token amounts to: the steps taken, and the new place or the refusal. -/
structure Move where
  steps : List Step
  next : Except Diagnostic Place

/-- The same move with steps taken before it. -/
def Move.after (m : Move) (steps : List Step) : Move := ⟨steps ++ m.steps, m.next⟩

/-- The refusal of a token where an element would have to begin. -/
def unexpected (t : Token) : Diagnostic :=
  match t.kind with
  | .classClose => .bare .unmatchedClassClose t.span
  | .star | .plus | .question => .naming .nothingToRepeat t.span t.kind.describe
  | .endOfInput => .bare .expectedAtom t.span
  | _ => .naming .expectedAtom t.span t.kind.describe

/-- Read `t` where an element begins. -/
def readElement (inRun : Bool) (t : Token) (lookahead : Token.Kind) : Move :=
  match t.kind with
  | .char => ⟨[.element (.single t.char) lookahead], .ok (.behindElement inRun)⟩
  | .wildcard => ⟨[.element .alphanumeric lookahead], .ok (.behindElement inRun)⟩
  | .classOpen => ⟨[.rule .charClass t.kind], .ok (.opened inRun t)⟩
  | _ => ⟨[], .error (unexpected t)⟩

/-- Read `t` right behind the `[` of a class. -/
def readFirstMember (inRun : Bool) (opening t : Token) : Move :=
  match t.kind with
  | .char => ⟨[], .ok (.inside inRun opening (.single t.char))⟩
  | .classClose => ⟨[], .error (.bare .expectedClassMember t.span)⟩
  | _ => ⟨[], .error (.naming .expectedClassMember t.span t.kind.describe)⟩

/-- Read `t` behind the members of a class. -/
def readMember (inRun : Bool) (opening : Token) (members : SymbolSet) (t : Token)
    (lookahead : Token.Kind) : Move :=
  match t.kind with
  | .char => ⟨[], .ok (.inside inRun opening (members.insert t.char))⟩
  | .classClose => ⟨[.element members lookahead], .ok (.behindElement inRun)⟩
  | _ => ⟨[], .error (.naming .expectedClassMember t.span t.kind.describe)⟩

/-- Read the token `t`, with one of kind `lookahead` behind it. -/
def Place.read (place : Place) (t : Token) (lookahead : Token.Kind) : Move :=
  match place with
  | .start =>
    (readElement false t lookahead).after [.rule .pattern t.kind, .rule .atom t.kind]
  | .first =>
    if t.kind.isQuantifier then
      ⟨[.rule .atomSuffix t.kind, .rule .quantifier t.kind], .ok .quantified⟩
    else (readElement true t lookahead).after [.rule .atomSuffix t.kind, .rule .run t.kind]
  | .further =>
    if t.kind.isQuantifier then ⟨[.rule .quantifier t.kind], .ok .quantified⟩
    else readElement true t lookahead
  | .quantified =>
    if t.kind.startsAtom then (readElement false t lookahead).after [.rule .atom t.kind]
    else ⟨[], .error (unexpected t)⟩
  | .opened inRun opening =>
    (readFirstMember inRun opening t).after [.rule .listBody t.kind]
  | .inside inRun opening members => readMember inRun opening members t lookahead

/-- The failure of a source of `sourceEnd` bytes that ends inside the class opened by `opening`. -/
def unclosed (sourceEnd : Nat) (opening : Token) : Diagnostic :=
  { Diagnostic.bare .unclosedClass ⟨sourceEnd, sourceEnd⟩ with
    related := [⟨opening.span, "class opened here"⟩]
    fix := some ⟨⟨sourceEnd, sourceEnd⟩, "]", "close the class"⟩ }

end Parse

/-- The steps taken, and what stopped them if the tokens form no pattern. -/
structure Parse where
  steps : List Parse.Step
  failure : Option Diagnostic := none

namespace Parse

/-- The same parse with steps taken before it. -/
def after (p : Parse) (steps : List Step) : Parse := ⟨steps ++ p.steps, p.failure⟩

/-- What remains to be done where the tokens of a source of `sourceEnd` bytes end. -/
def Place.finish (sourceEnd : Nat) : Place → Parse
  | .start =>
    ⟨[.rule .pattern .endOfInput, .rule .atom .endOfInput],
      some (.bare .expectedAtom ⟨sourceEnd, sourceEnd⟩)⟩
  | .first => ⟨[.rule .atomSuffix .endOfInput, .rule .run .endOfInput], none⟩
  | .further | .quantified => ⟨[], none⟩
  | .opened _ opening => ⟨[.rule .listBody .endOfInput], some (unclosed sourceEnd opening)⟩
  | .inside _ opening _ => ⟨[], some (unclosed sourceEnd opening)⟩

/-- Read the rest of the tokens from `place` on. -/
def ofTokensFrom (sourceEnd : Nat) (place : Place) : List Token → Parse
  | [] => place.finish sourceEnd
  | t :: rest =>
    match place.read t (Token.lookahead rest) with
    | ⟨steps, .ok next⟩ => (ofTokensFrom sourceEnd next rest).after steps
    | ⟨steps, .error diagnostic⟩ => ⟨steps, some diagnostic⟩

/-- Read all tokens of a source of `sourceEnd` bytes. -/
def ofTokens (sourceEnd : Nat) (tokens : List Token) : Parse :=
  ofTokensFrom sourceEnd .start tokens

end Parse

end PatternGraph
