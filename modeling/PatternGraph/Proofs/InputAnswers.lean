import Mathlib.Data.List.Forall2
import PatternGraph.Command.Run
import PatternGraph.Proofs.InputLines

/-!
# Answers to lines of input

Texts to match come as arguments or as lines of the standard input. The input is answered line by
line as it is read, into a buffer that is cleared before each line. What is printed for it is what
is printed for the same texts as arguments, up to the first line that is no text, which ends the
run with a failure.
-/
namespace PatternGraph.Command
open Text

section reading

/-- The next line of a stream, up to and including its newline, and what is left behind it. -/
def takeLine : List UInt8 → List UInt8 × List UInt8
  | [] => ([], [])
  | byte :: rest =>
    if byte = newline then ([byte], rest) else (byte :: (takeLine rest).1, (takeLine rest).2)

theorem takeLine_append (bytes : List UInt8) :
    (takeLine bytes).1 ++ (takeLine bytes).2 = bytes := by
  induction bytes with
  | nil => rfl
  | cons byte rest ih =>
    rw [takeLine]
    split
    · rfl
    · rw [List.cons_append, ih]

/-- The line is empty at the end of the stream only. -/
theorem takeLine_ne_nil {bytes : List UInt8} (unfinished : bytes ≠ []) :
    (takeLine bytes).1 ≠ [] := by
  cases bytes with
  | nil => exact absurd rfl unfinished
  | cons byte rest =>
    rw [takeLine]
    split <;> exact List.cons_ne_nil byte _

theorem lines_eq_cons_takeLine {bytes : List UInt8} (unfinished : bytes ≠ []) :
    lines bytes = (takeLine bytes).1 :: lines (takeLine bytes).2 := by
  induction bytes with
  | nil => exact absurd rfl unfinished
  | cons byte rest ih =>
    rw [takeLine]
    split
    · next ends =>
      rw [ends]
      exact lines_cons_newline rest
    · next other =>
      rw [lines_cons other]
      cases rest with
      | nil => rfl
      | cons next rest => rw [ih (List.cons_ne_nil next rest)]

/-- What is kept while a stream is answered: the buffer that lines are read into, the bytes that
are not read yet, and the output so far. -/
structure Reading where
  buffer : List Char := []
  left : List UInt8
  output : String := ""

namespace Reading

def clear (r : Reading) : Reading := { r with buffer := [] }

/-- Append the next line to the buffer. The number of bytes that it takes is 0 at the end of the
stream; bytes that are no text are a failure. -/
def readLine (r : Reading) : Option (Nat × Reading) :=
  let (line, left) := takeLine r.left
  (decode? line).map fun cs => (line.length, { r with buffer := r.buffer ++ cs, left })

theorem length_left_of_readLine {r next : Reading} {count : Nat}
    (read : r.readLine = some (count, next)) : count + next.left.length = r.left.length := by
  obtain ⟨cs, _, same⟩ := Option.map_eq_some_iff.1 read
  obtain ⟨rfl, rfl⟩ := Prod.mk.inj same
  rw [← List.length_append, takeLine_append]

/-- Answer the text in the buffer. -/
def answer (r : Reading) (a : Automaton) (mode : Mode) : Reading :=
  let text := String.ofList (withoutLineEnding r.buffer)
  { r with output := r.output ++ answerText a mode text }

end Reading

/-- Read a line after the other and answer each, until the end of the stream or a failure. -/
def answerStream (a : Automaton) (mode : Mode) (r : Reading) : Answer :=
  match _read : r.clear.readLine with
  | none => inputFailure.after r.output
  | some (0, _) => .success r.output
  | some (_ + 1, next) => answerStream a mode (next.answer a mode)
termination_by r.left.length
decreasing_by
  have taken : _ + 1 + next.left.length = r.clear.left.length :=
    Reading.length_left_of_readLine _read
  simp only [Reading.answer, Reading.clear] at taken ⊢
  omega

end reading

section answering
variable {a : Automaton} {mode : Mode} {ls : List (List UInt8)} {texts : List String}

@[simp] theorem after_empty (answer : Answer) : answer.after "" = answer := by
  simp [Answer.after]

theorem after_after (answer : Answer) (first second : String) :
    (answer.after second).after first = answer.after (first ++ second) := by
  simp [Answer.after, String.append_assoc]

/-- At the end of the stream no byte is read. -/
theorem answerStream_of_nil {r : Reading} (atEnd : r.left = []) :
    answerStream a mode r = .success r.output := by
  have ended : r.clear.readLine = some (0, r.clear) := by
    have empty : decode? [] = some [] := decode?_eq_some_iff.2 rfl
    simp [Reading.readLine, Reading.clear, atEnd, takeLine, empty]
  rw [answerStream]
  split
  · next refused => cases ended.symm.trans refused
  · rfl
  · next read => cases ended.symm.trans read

theorem answerStream_of_refused {r : Reading} (noText : decode? (takeLine r.left).1 = none) :
    answerStream a mode r = inputFailure.after r.output := by
  have refused : r.clear.readLine = none := Option.map_eq_none_iff.2 noText
  rw [answerStream]
  split
  · rfl
  · next ended => cases refused.symm.trans ended
  · next read => cases refused.symm.trans read

/-- The buffer is cleared first, so it holds the characters of the line and no others. -/
theorem answerStream_of_text {r : Reading} (unfinished : r.left ≠ []) {cs : List Char}
    (decoded : decode? (takeLine r.left).1 = some cs) :
    answerStream a mode r =
      answerStream a mode (Reading.answer ⟨cs, (takeLine r.left).2, r.output⟩ a mode) := by
  have read : r.clear.readLine =
      some ((takeLine r.left).1.length, ⟨cs, (takeLine r.left).2, r.output⟩) :=
    Option.map_eq_some_iff.2 ⟨cs, decoded, rfl⟩
  rw [answerStream]
  split
  · next refused => cases read.symm.trans refused
  · next ended =>
    have nothing := (Prod.mk.inj (Option.some.inj (read.symm.trans ended))).1
    exact absurd (List.length_eq_zero_iff.1 nothing) (takeLine_ne_nil unfinished)
  · next again =>
    rw [(Prod.mk.inj (Option.some.inj (read.symm.trans again))).2]

/-- The reading loop answers as the lines of the stream are answered. -/
theorem answerStream_eq (a : Automaton) (mode : Mode) (r : Reading) :
    answerStream a mode r = (answerLines a mode (lines r.left)).after r.output := by
  induction size : r.left.length using Nat.strongRecOn generalizing r with
  | ind size ih =>
    by_cases atEnd : r.left = []
    · rw [answerStream_of_nil atEnd, atEnd]
      simp [lines, answerLines, Answer.success, Answer.after]
    · rw [lines_eq_cons_takeLine atEnd, answerLines]
      cases decoded : decode? (takeLine r.left).1 with
      | none => exact answerStream_of_refused decoded
      | some cs =>
        have positive := List.length_pos_of_ne_nil (takeLine_ne_nil atEnd)
        have whole := congrArg List.length (takeLine_append r.left)
        rw [List.length_append] at whole
        rw [answerStream_of_text atEnd decoded, ih (takeLine r.left).2.length (by omega) _ rfl]
        exact (after_after _ _ _).symm

/-- Texts are answered one after the other, until a line is no text. -/
theorem answerLines_append (each : List.Forall₂ IsLineOf ls texts)
    (following : List (List UInt8)) :
    answerLines a mode (ls ++ following) =
      (answerLines a mode following).after (answerTexts a mode texts) := by
  induction each with
  | nil => exact (after_empty _).symm
  | @cons line text ls texts holds _ ih =>
    obtain ⟨cs, encoded, unended⟩ := holds
    rw [List.cons_append, answerLines, decode?_eq_some_iff.2 encoded]
    simp only
    rw [withoutLineEnding_eq_iff.2 unended, String.ofList_toList, ih, after_after]
    simp [answerTexts]

theorem answerLines_of_texts (each : List.Forall₂ IsLineOf ls texts) :
    answerLines a mode ls = .success (answerTexts a mode texts) := by
  have whole := @answerLines_append a mode ls texts each []
  rw [List.append_nil] at whole
  rw [whole, answerLines, Answer.after]
  simp [Answer.success]

end answering

section command
variable {source : PatternSource} {pattern : String} {g : Graph} {mode : Mode}
  {color : Bool} {files : String → Except ReadFailure (List UInt8)}

/-- Only a pattern that is read from the standard input depends on it. -/
theorem load_congr (elsewhere : source ≠ .standardInput) (input other : List UInt8) :
    source.load ⟨files, input⟩ = source.load ⟨files, other⟩ := by
  cases source with
  | given | file => rfl
  | standardInput => exact absurd rfl elsewhere

theorem run_matching (elsewhere : source ≠ .standardInput)
    (loaded : source.load ⟨files, []⟩ = .ok pattern) (compiled : compile pattern.toList = .ok g)
    (texts : List String) (input : List UInt8) :
    (Request.matching (some source) texts mode color).run ⟨files, input⟩ =
      if texts = [] then answerLines ⟨pattern, g⟩ mode (lines input)
      else .success (answerTexts ⟨pattern, g⟩ mode texts) := by
  have automaton : loadAutomaton ⟨files, input⟩ (some source) color = .ok ⟨pattern, g⟩ := by
    rw [loadAutomaton, load, load_congr elsewhere input [], loaded]
    simp only [bind, Except.bind, Command.automaton, Automaton.compile, compiled]
    rfl
  have apart : ¬ (texts.isEmpty && some source = some .standardInput) = true := by
    simp [elsewhere]
  rw [Request.run, runMatching, if_neg apart, automaton]
  cases texts <;> rfl

/-- Texts from the standard input are answered like texts given as arguments. A stream has one
cutting into lines. Where all of them are text, each holds one text, and the answer is that to these
texts, which is one line for each of them. Where one is not, what is printed are the answers to the
lines before it, and the run fails. -/
theorem input_answered_like_arguments (elsewhere : source ≠ .standardInput)
    (loaded : source.load ⟨files, []⟩ = .ok pattern) (compiled : compile pattern.toList = .ok g)
    (mode : Mode) (color : Bool) :
    let answer := fun texts input =>
      (Request.matching (some source) texts mode color).run ⟨files, input⟩
    let alone := fun text => (answer [text] []).output
    (∀ text input, answer [text] input =
        .success (if (g.run text.toList mode).isSome then "true\n" else "false\n")) ∧
      ∀ input, ∃ ls, (∀ cut, CutInto input cut ↔ cut = ls) ∧
        ((∀ line ∈ ls, IsUtf8 line) →
          ∃ texts, (∀ others, List.Forall₂ IsLineOf ls others ↔ others = texts) ∧
            answer [] input = .success (String.join (texts.map alone)) ∧
            (texts ≠ [] → ∀ other, answer texts other = answer [] input)) ∧
        (∀ before line after, ls = before ++ line :: after →
          (∀ earlier ∈ before, IsUtf8 earlier) → ¬ IsUtf8 line →
          ∃ texts, (∀ others, List.Forall₂ IsLineOf before others ↔ others = texts) ∧
            answer [] input =
              { status := 1
                output := String.join (texts.map alone)
                errors := "error: failed to read stdin: stream did not contain valid UTF-8\n" }) ∧
        ∀ buffer, answer [] input =
          answerStream ⟨pattern, g⟩ mode { buffer, left := input } := by
  intro answer alone
  have noTexts (input : List UInt8) :
      answer [] input = answerLines ⟨pattern, g⟩ mode (lines input) :=
    run_matching elsewhere loaded compiled [] input
  have someTexts {texts : List String} (given : texts ≠ []) (input : List UInt8) :
      answer texts input = .success (answerTexts ⟨pattern, g⟩ mode texts) :=
    (run_matching elsewhere loaded compiled texts input).trans (if_neg given)
  have single (text : String) (input : List UInt8) :
      answer [text] input = .success (answerText ⟨pattern, g⟩ mode text) := by
    rw [someTexts (List.cons_ne_nil text [])]
    simp [answerTexts]
  have eachAlone : alone = answerText ⟨pattern, g⟩ mode :=
    funext fun text => congrArg Answer.output (single text [])
  refine ⟨single, fun input => ⟨lines input, fun cut => cutInto_iff, ?valid, ?invalid, ?loop⟩⟩
  case valid =>
    intro valid
    obtain ⟨texts, held⟩ := exists_forall₂_isLineOf_iff valid
    have answered := (noTexts input).trans (answerLines_of_texts ((held texts).2 rfl))
    refine ⟨texts, held, ?_, ?_⟩
    · rw [answered, eachAlone, answerTexts]
    · intro given other
      rw [answered, someTexts given]
  case invalid =>
    intro before line after split valid noText
    obtain ⟨texts, held⟩ := exists_forall₂_isLineOf_iff valid
    refine ⟨texts, held, ?_⟩
    rw [noTexts, split, answerLines_append ((held texts).2 rfl), answerLines,
      decode?_eq_none_iff.2 noText, eachAlone]
    simp [Answer.after, inputFailure, Answer.error, Answer.failing, answerTexts,
      ReadFailure.message]
  case loop =>
    intro buffer
    rw [noTexts, answerStream_eq, after_empty]

/-- A carriage return goes with the newline behind it and stays where there is none; a byte that is
no text ends the run behind the answers to the lines before it. -/
theorem input_answered_like_arguments_mixed :
    let answer := fun texts input =>
      (Request.matching (some (.given "ab?")) texts .whole false).run
        ⟨fun _ => .error .missing, input⟩
    answer [] [97, 98, 13, 10, 13, 97] = answer ["ab", "\ra"] [] ∧
      answer [] [97, 98, 10, 255, 10, 97] =
        { status := 1
          output := "true\n"
          errors := "error: failed to read stdin: stream did not contain valid UTF-8\n" } := by
  intro answer
  have compiled : compile "ab?".toList = .ok ⟨#[⟨[⟨1, .single 'a'⟩], false⟩,
      ⟨[⟨2, .single 'b'⟩], true⟩, ⟨[], true⟩]⟩ := by decide
  have elsewhere : PatternSource.given "ab?" ≠ .standardInput := by decide
  obtain ⟨-, streams⟩ := input_answered_like_arguments elsewhere rfl compiled .whole false
  constructor
  · obtain ⟨ls, cut, valid, -⟩ := streams [97, 98, 13, 10, 13, 97]
    obtain rfl := (cut [[97, 98, 13, 10], [13, 97]]).1 (by decide)
    obtain ⟨texts, held, -, same⟩ := valid (by decide)
    obtain rfl := (held ["ab", "\ra"]).1 (.cons (by decide) (.cons (by decide) .nil))
    exact (same (by decide) []).symm
  · obtain ⟨ls, cut, -, invalid, -⟩ := streams [97, 98, 10, 255, 10, 97]
    obtain rfl := (cut [[97, 98, 10], [255, 10], [97]]).1 (by decide)
    obtain ⟨texts, held, printed⟩ := invalid [[97, 98, 10]] [255, 10] [[97]] rfl (by decide)
      (by decide)
    obtain rfl := (held ["ab"]).1 (.cons (by decide) .nil)
    exact printed.trans (by decide)

end command

end PatternGraph.Command
