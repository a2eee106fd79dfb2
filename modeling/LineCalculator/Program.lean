import LineCalculator.Filter
import LineCalculator.Session.Interactive
import LineCalculator.Session.Reader
import LineCalculator.Settings.File
import LineCalculator.Text.Typing

/-!
# The program

One run of the program from its arguments, its settings and its input to what it writes.
-/
namespace LineCalculator

/-- Everything outside that a run depends on. -/
structure Invocation where
  args : List String
  /-- The standard input. -/
  input : Input
  /-- What opening a path comes to. -/
  openPath : String → Except Fault Input
  /-- The settings that are made before the settings file is read. -/
  settings : Settings

/-- What a run writes, and the code with which it ends. -/
structure Outcome where
  stdout : List UInt8
  stderr : List UInt8
  code : Nat
  deriving DecidableEq, Repr

namespace Program

def filterName : String := "RUST_LOG"

def terminalName : String := "TERM"

def settingsFile : String := ".env"

def promptText : String := ">> "

/-- The settings of a run, and why the settings file could not be read to its end. -/
def loaded (inv : Invocation) : Settings × Option SettingsError :=
  inv.settings.load (inv.openPath settingsFile)

/-- The filter of a run, and warnings about it. -/
def filterOf (inv : Invocation) : Filter × List String :=
  match (loaded inv).1.get filterName with
  | some spec => Filter.read spec
  | none => ({ directives := Filter.errorsOnly }, [])

/-- The prompt is written on terminals that can do nothing but write. -/
def prompts (inv : Invocation) : Bool :=
  ((loaded inv).1.get terminalName).any fun kind =>
    ["dumb", "cons25", "emacs"].contains (String.ofList (kind.toList.map Char.toLower))

/-- Do all that comes before the interactive loop, and answer whether the loop follows. -/
def prepare (inv : Invocation) : Action (Except Fault Bool) := do
  Session.emit ((loaded inv).2.toList.map fun e => .logged (.settingsFailed e.message))
  let mode := Mode.ofArgs inv.args
  Session.log (.started mode)
  match mode with
  | .help =>
    Except.map (fun _ => false) <$> Session.printText usage
  | .interactive => return .ok true
  | .file path =>
    Except.map (fun _ => false) <$> Session.runPath path (inv.openPath path)
  | .fileThenInteractive path =>
    Except.map (fun _ => true) <$> Session.runPath path (inv.openPath path)

def session (inv : Invocation) : Action (Except Fault Unit) := do
  match ← prepare inv with
  | .error fault => return .error fault
  | .ok false => return .ok ()
  | .ok true => Session.interact (prompts inv) inv.input.typedLines

/-- A text in which every further line is set in. -/
def indented (s : String) : String :=
  String.ofList (s.toList.flatMap fun c => if c = '\n' then "\n    ".toList else [c])

/-- A record as it is shown, its severity filled up to five characters. -/
def recordLine (r : Record) : String :=
  let level := r.severity.name
  "[" ++ level ++ String.ofList (List.replicate (5 - level.length) ' ') ++ " " ++ r.topic ++ "] " ++
    indented r.message

def stdoutBytes : Event → List UInt8
  | .prompted => promptText.toUTF8.data.toList
  | e => e.printBytes

def stderrBytes (f : Filter) : Event → List UInt8
  | .logged r => if f.shows r then lineBytes (recordLine r) else []
  | e => e.errorBytes

/-- The last words of a run that a fault ends. -/
def faultLine (fault : Fault) : String :=
  match fault with
  | .characterCut => fault.message
  | _ =>
    "Error: Io(Error \x7b kind: InvalidData, message: " ++ Text.quoteText fault.message ++ " \x7d)"

def faultCode : Fault → Nat
  | .characterCut => 101
  | _ => 1

/-- Run the program on working channels. -/
def run (inv : Invocation) : Outcome :=
  let (filter, warnings) := filterOf inv
  let step := session inv {}
  let last : List UInt8 :=
    match step.value with
    | .error fault => lineBytes (faultLine fault)
    | .ok () => []
  { stdout := step.events.flatMap stdoutBytes
    stderr := warnings.flatMap lineBytes ++ step.events.flatMap (stderrBytes filter) ++ last
    code := match step.value with
      | .error fault => faultCode fault
      | .ok () => 0 }

end Program

end LineCalculator
