import PatternGraph.Diagnostic
import PatternGraph.Text.Alphabet
import PatternGraph.Text.Bytes
import PatternGraph.Text.Escape

/-!
# Tokens of a pattern

Each character of a pattern is a token of its own. The first run of characters that belong to no
token is reported as one error.
-/
namespace PatternGraph

namespace Token

inductive Kind where
  | char | wildcard | star | plus | question | classOpen | classClose
  /-- What follows the last token; no token of a pattern is of this kind. -/
  | endOfInput
  deriving DecidableEq, Repr

namespace Kind

def all : List Kind :=
  [char, wildcard, star, plus, question, classOpen, classClose, endOfInput]

def name : Kind → String
  | char => "Char"
  | wildcard => "Wildcard"
  | star => "Star"
  | plus => "Plus"
  | question => "Question"
  | classOpen => "ClassOpen"
  | classClose => "ClassClose"
  | endOfInput => "Eoi"

/-- How a token is named in a message. -/
def describe : Kind → String
  | char => "a character"
  | wildcard => "`.`"
  | star => "`*`"
  | plus => "`+`"
  | question => "`?`"
  | classOpen => "`[`"
  | classClose => "`]`"
  | endOfInput => "end of pattern"

def isQuantifier : Kind → Bool
  | star | plus | question => true
  | _ => false

/-- Tokens that can begin an atom. -/
def startsAtom : Kind → Bool
  | char | wildcard | classOpen => true
  | _ => false

/-- The kind of token that a character is, if it is one. -/
def ofChar? (c : Char) : Option Kind :=
  match c with
  | '.' => some wildcard
  | '*' => some star
  | '+' => some plus
  | '?' => some question
  | '[' => some classOpen
  | ']' => some classClose
  | _ => if Text.isLiteral c then some char else none

end Kind

/-- A character that belongs to the alphabet of patterns. -/
def Recognized (c : Char) : Bool := (Kind.ofChar? c).isSome

end Token

/-- A token: its kind, the character it is made of, and the byte where that starts. -/
structure Token where
  kind : Token.Kind
  char : Char
  start : Nat
  deriving DecidableEq, Repr

namespace Token

def stop (t : Token) : Nat := t.start + t.char.utf8Size

def span (t : Token) : Span := ⟨t.start, t.stop⟩

/-- The error for a run of unrecognized characters that starts at byte `start`. -/
def unrecognized (start : Nat) (run : List Char) : Diagnostic :=
  { kind := .unrecognizedInput
    range := ⟨start, start + Text.byteLength run⟩
    message := "unrecognized " ++ (if run.length = 1 then "character" else "characters") ++ " `" ++
      String.ofList (Text.Escape.text run) ++ "`" }

/-- The tokens of a source that starts at byte `offset`. -/
def ofSourceFrom (offset : Nat) : List Char → Except Diagnostic (List Token)
  | [] => .ok []
  | c :: rest =>
    match Kind.ofChar? c with
    | none => .error (unrecognized offset (c :: rest.takeWhile (!Recognized ·)))
    | some kind =>
      match ofSourceFrom (offset + c.utf8Size) rest with
      | .error diagnostic => .error diagnostic
      | .ok tokens => .ok (⟨kind, c, offset⟩ :: tokens)

def ofSource (source : List Char) : Except Diagnostic (List Token) := ofSourceFrom 0 source

/-- The kind of the next token of a list. -/
def lookahead : List Token → Kind
  | [] => .endOfInput
  | t :: _ => t.kind

end Token

end PatternGraph
