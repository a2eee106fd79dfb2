import LineCalculator.Text.Quoted

/-!
# The command line
-/
namespace LineCalculator

/-- What the program is asked to do. -/
inductive Mode where
  | interactive
  | help
  | file (path : String)
  | fileThenInteractive (path : String)
  deriving DecidableEq, Repr

namespace Mode

/-- The first argument decides, and `-i` takes a file from the second. -/
def ofArgs : List String → Mode
  | [] => interactive
  | first :: rest =>
    if first = "-h" || first = "--help" then help
    else if first = "-i" || first = "--interactive" then
      match rest with
      | [] => interactive
      | path :: _ => fileThenInteractive path
    else file first

def text : Mode → String
  | interactive => "Interactive"
  | help => "Help"
  | file p => "File(" ++ Text.quoteText p ++ ")"
  | fileThenInteractive p => "FileThenInteractive(" ++ Text.quoteText p ++ ")"

end Mode

def usage : String :=
  "Usage: simple_lang [options] [file]\n" ++
  "Options:\n" ++
  "  -h, --help         Display this help message\n" ++
  "  -i, --interactive  Run in interactive mode after executing file\n" ++
  "If no file is specified, the interpreter runs in interactive mode."

end LineCalculator
