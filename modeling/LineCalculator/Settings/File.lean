import LineCalculator.Settings.Value
import LineCalculator.Text.Bytes
import LineCalculator.Text.Lines
import LineCalculator.Text.WhiteSpace

/-!
# The settings file

A settings file holds entries `NAME=value`, each on a line of its own that an open quote carries on
to the next one. Blank lines and comments are passed over, and `export` may stand before a name.
The first line that breaks the form ends the file.
-/
namespace LineCalculator

inductive SettingsError where
  | missing
  /-- A text breaks the form at the place given. -/
  | malformed (text : String) (place : Nat)
  | unreadable (fault : Fault)
  deriving DecidableEq, Repr

def SettingsError.message : SettingsError → String
  | missing => "path not found"
  | malformed text place =>
    "Error parsing line: '" ++ text ++ "', error at line index: " ++ toString place
  | unreadable fault => fault.message

namespace Settings

/-- What the characters of a line before this one leave open. -/
inductive Opened where
  | nothing
  /-- A single blank, after which a comment may begin. -/
  | blank
  | escape
  | quote (quote : Char)
  | escapeIn (quote : Char)
  deriving DecidableEq, Repr

/-- What is open after one more character. -/
def Opened.next (c : Char) : Opened → Opened
  | escape => nothing
  | escapeIn q => quote q
  | quote q => if c = '\\' then escapeIn q else if c = q then nothing else quote q
  | before =>
    if c = '\\' then escape
    else if c = '"' || c = '\'' then quote c
    else if before = nothing && Text.isWhiteSpace c && c ≠ '\n' && c ≠ '\r' then blank
    else nothing

/-- A piece of a line up to a comment, and what is open at its end; nothing after a comment. -/
def beforeComment (state : Opened) : List Char → List Char × Option Opened
  | [] => ([], some state)
  | c :: cs =>
    if state = .blank && c = '#' then ([], none)
    else
      let (front, last) := beforeComment (state.next c) cs
      (c :: front, last)

def skipBlanks (cs : List Char) : List Char := cs.dropWhile Text.isWhiteSpace

/-- A text with nothing in it but white space and a comment. -/
def isPassedOver (cs : List Char) : Bool :=
  match skipBlanks cs with
  | [] => true
  | c :: _ => c = '#'

/-- The lines of a file, put together where something is left open; `front` is the beginning of the
line at hand. A file cannot end where something is open. -/
def joinLines (front : List Char) (state : Opened) :
    List (Except Fault String) → List (Except SettingsError (List Char))
  | [] =>
    if state = .nothing then []
    else [.error (.malformed (String.ofList front) (Text.byteLength front))]
  | .error fault :: _ => [.error (.unreadable fault)]
  | .ok piece :: rest =>
    let line := front ++ piece.toList
    if (skipBlanks line).head? = some '#' then joinLines [] .nothing rest
    else
      match beforeComment state piece.toList with
      | (kept, none) => .ok (front ++ kept) :: joinLines [] .nothing rest
      | (_, some .nothing) => .ok (Text.dropLineEnd line) :: joinLines [] .nothing rest
      | (_, some opened) => joinLines line opened rest

def isNameStart (c : Char) : Bool := c.isAlpha || c == '_'

def isNameChar (c : Char) : Bool := c.isAlphanum || c == '_' || c == '.'

/-- A name at the front and what follows it after blanks; the text itself if no name is there. -/
def readName (cs : List Char) : Except (List Char) (List Char × List Char) :=
  match cs with
  | c :: _ =>
    if isNameStart c then .ok (cs.takeWhile isNameChar, skipBlanks (cs.dropWhile isNameChar))
    else .error cs
  | [] => .error cs

/-- A name with its equals sign, and the text after that; on failure the text at fault. -/
def readTarget (cs : List Char) : Except (List Char) (List Char × List Char) := do
  let (name, rest) ← readName cs
  match rest with
  | '=' :: rest => return (name, rest)
  | rest =>
    if name = "export".toList then
      let (name, rest) ← readName rest
      match rest with
      | '=' :: rest => return (name, rest)
      | rest => throw rest
    else throw rest

/-- The entry in a line, if there is one, on top of the settings read so far. -/
def readEntry (s : Settings) (line : List Char) :
    Except SettingsError (Option (String × String)) :=
  let trimmed := Text.trimEnd line
  if isPassedOver trimmed then .ok none
  else
    match readTarget (skipBlanks trimmed) with
    | .error rest =>
      .error (.malformed (String.ofList line) (Text.byteLength trimmed - Text.byteLength rest))
    | .ok (name, rest) =>
      let value := skipBlanks rest
      if isPassedOver value then .ok (some (String.ofList name, ""))
      else
        match readValue s (Text.byteLength value) (.inside .bare) 0 value with
        | .ok v => .ok (some (String.ofList name, String.ofList v))
        | .error place => .error (.malformed (String.ofList value) place)

/-- Add the entries of lines, as far as they can be read; the reason if that is not to the end. -/
def addLines (s : Settings) :
    List (Except SettingsError (List Char)) → Settings × Option SettingsError
  | [] => (s, none)
  | .error e :: _ => (s, some e)
  | .ok line :: rest =>
    match readEntry s line with
    | .error e => (s, some e)
    | .ok none => s.addLines rest
    | .ok (some (name, value)) => (s.add name value).addLines rest

/-- A content without the mark of its encoding in front. -/
def dropMark : List UInt8 → List UInt8
  | 0xEF :: 0xBB :: 0xBF :: rest => rest
  | bytes => bytes

/-- Add the entries of the settings file, given what opening it came to. -/
def load (s : Settings) : Except Fault Input → Settings × Option SettingsError
  | .ok (.content bytes) =>
    s.addLines (joinLines [] .nothing (Input.content (dropMark bytes)).rawLines)
  | _ => (s, some .missing)

end Settings

end LineCalculator
