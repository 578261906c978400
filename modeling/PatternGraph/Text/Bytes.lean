/-!
# Texts as bytes

Offsets into a text count its UTF-8 bytes. Byte streams are cut into lines and read back as text.
-/
namespace PatternGraph.Text

/-- The length of the UTF-8 form of a text. -/
def byteLength (cs : List Char) : Nat :=
  (cs.map Char.utf8Size).foldr (· + ·) 0

@[simp] theorem byteLength_nil : byteLength [] = 0 := rfl

@[simp] theorem byteLength_cons (c : Char) (cs : List Char) :
    byteLength (c :: cs) = c.utf8Size + byteLength cs := rfl

@[simp] theorem byteLength_append (cs ds : List Char) :
    byteLength (cs ++ ds) = byteLength cs + byteLength ds := by
  induction cs with
  | nil => simp
  | cons c rest ih => rw [List.cons_append, byteLength_cons, byteLength_cons, ih, Nat.add_assoc]

/-- The characters that start before byte `n`. -/
def takeBytes : Nat → List Char → List Char
  | 0, _ => []
  | _, [] => []
  | n + 1, c :: cs => c :: takeBytes (n + 1 - c.utf8Size) cs

/-- The characters that start at byte `n` or later. -/
def dropBytes : Nat → List Char → List Char
  | 0, cs => cs
  | _, [] => []
  | n + 1, c :: cs => dropBytes (n + 1 - c.utf8Size) cs

/-- The text that a byte sequence is the UTF-8 form of. -/
def decode? (bytes : List UInt8) : Option (List Char) :=
  (String.fromUTF8? ⟨bytes.toArray⟩).map String.toList

def newline : UInt8 := 10

/-- Cut a byte stream after each newline. An unterminated piece at the end is a line if it holds a
byte. -/
def lines (bytes : List UInt8) : List (List UInt8) :=
  bytes.foldr (fun byte following =>
    if byte = newline then [byte] :: following
    else match following with
      | [] => [[byte]]
      | line :: rest => (byte :: line) :: rest) []

/-- A text without the one line feed, or carriage return and line feed, at its end. -/
def withoutLineEnding (cs : List Char) : List Char :=
  match cs.reverse with
  | '\n' :: '\r' :: rest => rest.reverse
  | '\n' :: rest => rest.reverse
  | _ => cs

end PatternGraph.Text
