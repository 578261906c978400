import PatternGraph.Command.Run

/-!
# The program

Reads what a request needs, writes the answer and ends with its status.
-/
namespace PatternGraph.Command

def usage : String :=
  String.join <| (· ++ "\n") <$>
    ["Usage: match <PATTERN> [TEXT]... | check <PATTERN> | dump <PATTERN> | trace <PATTERN> <TEXT>",
      "  -f, --file <FILE>  read the pattern from a file, or from the input if it is `-`",
      "  --color <WHEN>     auto, always or never",
      "  --full             match and trace: require the whole text to match",
      "  --json             dump: write JSON",
      "  -v                 trace: tell more, and still more when repeated"]

/-- Collect the bytes of a stream up to its end. -/
partial def readAll (stream : IO.FS.Stream) (collected : ByteArray) : IO ByteArray := do
  let chunk ← stream.read 65536
  if chunk.isEmpty then return collected else readAll stream (collected ++ chunk)

def readFailure : IO.Error → ReadFailure
  | .noFileOrDirectory .. => .missing
  | .inappropriateType .. => .directory
  | .permissionDenied .. => .forbidden
  | failure => .other (toString failure)

def readFile (path : String) : IO (Except ReadFailure (List UInt8)) := do
  try
    return .ok (← IO.FS.readBinFile path).toList
  catch failure =>
    return .error (readFailure failure)

/-- Read the file that a request names, and the standard input if the request needs it. -/
def Request.environment (request : Request) : IO Environment := do
  let contents ← match request.source with
    | some (.file path) => readFile path
    | _ => pure (.error .missing)
  let input ← if request.readsInput then
      (·.toList) <$> readAll (← IO.getStdin) .empty
    else pure []
  return { contents := fun _ => contents, input }

end PatternGraph.Command

open PatternGraph.Command in
def main (arguments : List String) : IO UInt32 := do
  let stdout ← IO.getStdout
  let stderr ← IO.getStderr
  match Request.ofArguments arguments ((← stdout.isTty) && (← stderr.isTty)) with
  | .error refusal =>
    (if refusal = .help then stdout else stderr).putStr usage
    return refusal.status.toUInt32
  | .ok request =>
    let answer := request.run (← request.environment)
    stdout.putStr answer.output
    stderr.putStr answer.errors
    return answer.status.toUInt32
