import PatternGraph.Text.Extender
import PatternGraph.Text.Printable

/-!
# Escaped display of text

How characters are shown in dumps, traces and messages. Controls that have a short spelling use it,
other unprintable characters are written `\u` with their number in braces, and the backslash and the
quotes take a backslash. The contexts differ only in the quotes and the extenders they escape.
-/
namespace PatternGraph.Text.Escape

/-- Which of the context-dependent characters are escaped. -/
structure Context where
  extenders : Bool
  singleQuote : Bool
  doubleQuote : Bool
  deriving DecidableEq, Repr

/-- A character that stands alone in a display without quotes of its own. -/
def Context.bare : Context := ⟨true, true, true⟩

/-- A later character of a text: an extender there has a character to attach to. -/
def Context.continuing : Context := ⟨false, true, true⟩

/-- A character between single quotes. -/
def Context.singleQuoted : Context := ⟨true, true, false⟩

/-- A character between double quotes. -/
def Context.doubleQuoted : Context := ⟨true, false, true⟩

/-- The number of a character in lower-case hexadecimal: `\u`, then the digits in braces. -/
def codePoint (c : Char) : List Char :=
  ['\\', 'u', '\x7b'] ++ Nat.toDigits 16 c.toNat ++ ['\x7d']

def char (context : Context) (c : Char) : List Char :=
  if c = '\x00' then ['\\', '0']
  else if c = '\t' then ['\\', 't']
  else if c = '\r' then ['\\', 'r']
  else if c = '\n' then ['\\', 'n']
  else if c = '\\' then ['\\', '\\']
  else if c = '"' ∧ context.doubleQuote then ['\\', '"']
  else if c = '\'' ∧ context.singleQuote then ['\\', '\'']
  else if isExtender c ∧ context.extenders then codePoint c
  else if isPrintable c then [c]
  else codePoint c

/-- A text without quotes around it: only its first character can be an extender with nothing to
attach to. -/
def text : List Char → List Char
  | [] => []
  | c :: rest => char .bare c ++ rest.flatMap (char .continuing)

/-- A character between single quotes. -/
def quotedChar (c : Char) : List Char :=
  ['\''] ++ char .singleQuoted c ++ ['\'']

/-- A text between double quotes. -/
def quotedText (cs : List Char) : List Char :=
  ['"'] ++ cs.flatMap (char .doubleQuoted) ++ ['"']

end PatternGraph.Text.Escape
