import LineCalculator.CommandLine
import LineCalculator.Fault
import LineCalculator.LineError
import LineCalculator.Scan
import LineCalculator.Summary

/-!
# Log records

A record says what happened. Its severity, its topic and its words are read off it.
-/
namespace LineCalculator

/-- How severe a record is, the most severe first. -/
inductive Severity where
  | error
  | warn
  | info
  | debug
  | trace
  deriving DecidableEq, Repr

namespace Severity

def name : Severity → String
  | error => "ERROR"
  | warn => "WARN"
  | info => "INFO"
  | debug => "DEBUG"
  | trace => "TRACE"

/-- The most severe is the lowest. -/
def rank : Severity → Nat
  | error => 1
  | warn => 2
  | info => 3
  | debug => 4
  | trace => 5

end Severity

inductive Record where
  /-- The settings file could not be used, for the reason given. -/
  | settingsFailed (reason : String)
  | started (mode : Mode)
  | interactive
  /-- A line is about to be read, after a prompt or without one. -/
  | reading (prompt : Bool)
  | skippedCharacter (unknown : UnknownCharacter)
  | scanned (item : Item)
  | parseFailed (start : Option Nat)
  /-- Items after the expression were ignored. -/
  | ignored (count : Nat) (first : Item)
  | parsed (expr : Expr)
  | reassigned (name : String) (old new : Float)
  | evaluated (line : String) (value : Float)
  | failed (error : LineError)
  | failedAt (line : Nat) (error : LineError)
  /-- A diagnostic did not arrive completely. -/
  | reportFailed (fault : Fault)
  | opening (path : String)
  | openFailed (path : String) (fault : Fault)
  | finished (path : String) (summary : Summary)

namespace Record

def severity : Record → Severity
  | settingsFailed _ => .debug
  | started _ => .info
  | interactive => .info
  | reading _ => .debug
  | skippedCharacter _ => .warn
  | scanned _ => .trace
  | parseFailed _ => .trace
  | ignored _ _ => .debug
  | parsed _ => .trace
  | reassigned _ _ _ => .trace
  | evaluated _ _ => .debug
  | failed _ => .error
  | failedAt _ _ => .error
  | reportFailed _ => .error
  | opening _ => .info
  | openFailed _ _ => .error
  | finished _ _ => .debug

/-- The topic that a record belongs to, by which records are selected. -/
def topic : Record → String
  | settingsFailed _ => "simple_lang"
  | started _ => "simple_lang"
  | interactive => "simple_lang::repl"
  | reading _ => "rustyline"
  | skippedCharacter _ => "simple_lang::parse::lex"
  | ignored _ _ => "simple_lang::parse::parser"
  | reassigned _ _ _ => "simple_lang::interpret::interpreter"
  | _ => "simple_lang::session"

def placeText : Option Nat → String
  | some n => "Some(" ++ toString n ++ ")"
  | none => "None"

def valueText (v : Float) : String := String.ofList (NumberStyle.logged.text v)

def message : Record → String
  | settingsFailed reason => "dotenvy load with error " ++ reason
  | started mode => mode.text
  | interactive => "Running in REPL mode"
  | reading prompt => if prompt then "unsupported terminal" else "stdin is not a tty"
  | skippedCharacter u =>
    "skipping unknown character " ++ Text.quoteChar u.char ++ " at " ++ toString u.offset
  | scanned i => i.span.text ++ " - " ++ i.token.name ++ ": " ++ Text.quoteText i.lexeme
  | parseFailed start => "parse failed at " ++ placeText start
  | ignored n i =>
    "ignoring " ++ toString n ++ " trailing token(s) starting with `" ++ i.label ++ "` at " ++
      i.span.text
  | parsed e => e.text
  | reassigned x old new => x ++ " reassigned from " ++ valueText old ++ " to " ++ valueText new
  | evaluated line v => Text.quoteText line ++ " => " ++ valueText v
  | failed e => "Evaluate error: " ++ e.message
  | failedAt n e => "Evaluate error at line " ++ toString n ++ ": " ++ e.message
  | reportFailed f => "writing diagnostic failed: " ++ f.message
  | opening path => "Read from file " ++ path
  | openFailed path f => "open " ++ path ++ " failed: " ++ f.message
  | finished path s => path ++ " finished: " ++ s.text

end Record

end LineCalculator
