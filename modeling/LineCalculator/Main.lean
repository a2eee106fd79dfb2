import LineCalculator.Program

/-!
# The command

Reads what a run depends on, and writes what the run does as it goes.
-/
namespace LineCalculator

/-- What opening a path comes to on the machine at hand. -/
def openOnDisk (path : String) : IO (Except Fault Input) := do
  try
    let bytes ← IO.FS.readBinFile path
    return .ok (.content bytes.data.toList)
  catch e =>
    match e with
    | .noFileOrDirectory .. => return .error .notFound
    | .inappropriateType _ code _ =>
      return if code = 20 then .error .notADirectory else .ok .directory
    | .invalidArgument _ code _ =>
      return .error (if code = 36 then .nameTooLong else .invalidName)
    | _ => return .error .notFound

def writeEvents (filter : Filter) (events : List Event) : IO Unit := do
  let out ← IO.getStdout
  let err ← IO.getStderr
  for e in events do
    out.write ⟨(Program.stdoutBytes e).toArray⟩
    out.flush
    err.write ⟨(Program.stderrBytes filter e).toArray⟩

/-- Bytes up to and with a line feed; no bytes at the end of the input. -/
partial def readRawLine (input : IO.FS.Stream) (line : ByteArray) : IO ByteArray := do
  let byte ← input.read 1
  if byte.isEmpty then return line
  else if byte.data.toList = [Text.lineFeed] then return line ++ byte
  else readRawLine input (line ++ byte)

/-- The interactive loop on the standard input. -/
partial def loop (prompt : Bool) (filter : Filter) (session : Session) : IO UInt32 := do
  writeEvents filter (Session.await prompt session).events
  let raw ← readRawLine (← IO.getStdin) ByteArray.empty
  match (Input.content raw.data.toList).typedLines with
  | [] => return 0
  | .error fault :: _ =>
    IO.eprintln (Program.faultLine fault)
    return UInt32.ofNat (Program.faultCode fault)
  | .ok line :: _ =>
    let step := Session.respond line session
    writeEvents filter step.events
    match step.value with
    | .ok .goOn => loop prompt filter step.session
    | .ok .stop => return 0
    | .error fault =>
      IO.eprintln (Program.faultLine fault)
      return 1

def processSettings : IO Settings := do
  try
    let bytes ← IO.FS.readBinFile "/proc/self/environ"
    let entries := (String.fromUTF8? bytes).getD "" |>.splitOn "\x00"
    return .ofList (entries.filterMap fun entry =>
      match entry.splitOn "=" with
      | name :: value :: more => some (name, "=".intercalate (value :: more))
      | _ => none)
  catch _ => return {}

/-- Gather what a run with these arguments depends on. The lines of the standard input are read
by the loop. -/
def gather (args : List String) : IO Invocation := do
  let file ← openOnDisk Program.settingsFile
  let opened ← match Mode.ofArgs args with
    | .file path => openOnDisk path
    | .fileThenInteractive path => openOnDisk path
    | _ => pure (.error .notFound)
  return {
    args
    input := .content []
    openPath := fun path => if path = Program.settingsFile then file else opened
    settings := ← processSettings }

end LineCalculator

open LineCalculator in
def main (args : List String) : IO UInt32 := do
  let inv ← gather args
  let (filter, warnings) := Program.filterOf inv
  for w in warnings do IO.eprintln w
  let start := Program.prepare inv {}
  writeEvents filter start.events
  match start.value with
  | .error fault =>
    IO.eprintln (Program.faultLine fault)
    return 1
  | .ok false => return 0
  | .ok true =>
    let greeting := Session.greet start.session
    writeEvents filter greeting.events
    loop (Program.prompts inv) filter greeting.session
