import LineCalculator.Settings
import LineCalculator.Text.Letters

/-!
# Values in the settings file

A value may be quoted in whole or in part. Single quotes take everything as it stands; elsewhere a
backslash escapes, and a dollar sign before a name, which may stand in braces, is replaced by the
value of that name. After a blank outside quotes only a comment may follow.
-/
namespace LineCalculator.Settings

/-- How the text at hand is quoted. -/
inductive Quote where
  | bare
  | single
  | double
  deriving DecidableEq, Repr

/-- Where in a value the reading stands. -/
inductive Position where
  | inside (quote : Quote)
  /-- After a backslash. -/
  | escaped (quote : Quote)
  /-- After a dollar sign and a part of a name. -/
  | named (quote : Quote) (name : List Char)
  /-- After a dollar sign, a brace and a part of a name. -/
  | braced (quote : Quote) (name : List Char)
  /-- After the value. -/
  | ended
  deriving DecidableEq, Repr

/-- The characters that a backslash may stand before. -/
def unescape? : Char → Option Char
  | '\\' => some '\\'
  | '\'' => some '\''
  | '"' => some '"'
  | '$' => some '$'
  | ' ' => some ' '
  | 'n' => some '\n'
  | _ => none

/-- What stands for a name in a value; a name without a value stands for nothing. -/
def substitute (s : Settings) (name : List Char) : List Char :=
  ((s.get (String.ofList name)).getD "").toList

def Position.isFinal : Position → Bool
  | inside quote => quote = .bare
  | escaped quote => quote = .bare
  | named quote _ => quote = .bare
  | braced _ _ => false
  | ended => true

/-- Read one more character: what it adds to the value, and where the reading stands then. -/
def Position.next (s : Settings) (c : Char) : Position → Option (List Char × Position)
  | ended => if c = ' ' || c = '\t' then some ([], ended) else none
  | escaped quote => (unescape? c).map fun d => ([d], inside quote)
  | inside .single => if c = '\'' then some ([], inside .bare) else some ([c], inside .single)
  | inside .double =>
    if c = '$' then some ([], named .double [])
    else if c = '"' then some ([], inside .bare)
    else if c = '\\' then some ([], escaped .double)
    else some ([c], inside .double)
  | inside .bare =>
    if c = '$' then some ([], named .bare [])
    else if c = '\'' then some ([], inside .single)
    else if c = '"' then some ([], inside .double)
    else if c = '\\' then some ([], escaped .bare)
    else if c = ' ' || c = '\t' then some ([], ended)
    else some ([c], inside .bare)
  | named quote name =>
    if Text.isLetterOrNumber c then some ([], named quote (name ++ [c]))
    else if c = '\x7b' && name.isEmpty then some ([], braced quote [])
    else if c = '$' then some (substitute s name, named quote [])
    else some (substitute s name ++ [c], inside quote)
  | braced quote name =>
    if c = '\x7d' then some (substitute s name, inside quote)
    else some ([], braced quote (name ++ [c]))

def Position.atEnd (s : Settings) : Position → List Char
  | named _ name => substitute s name
  | _ => []

/-- The value that a text of `size` bytes denotes, or the place at which it breaks the form. -/
def readValue (s : Settings) (size : Nat) (here : Position) (place : Nat) :
    List Char → Except Nat (List Char)
  | [] => if here.isFinal then .ok (here.atEnd s) else .error (size - 1)
  | c :: cs =>
    if here = .ended && c = '#' then .ok []
    else
      match here.next s c with
      | none => .error place
      | some (added, there) => (readValue s size there (place + 1) cs).map (added ++ ·)

end LineCalculator.Settings
