import LineCalculator.Text.Shapeless

/-!
# Quoted text

Log records show texts and characters in quotes, so that blanks and controls can be told apart. The
two differ only in which quote they escape.
-/
namespace LineCalculator.Text

/-- One character inside quotes of the kind `quote`, which must be escaped itself. -/
def escape (quote : Char) (c : Char) : String :=
  match c with
  | '\x00' => "\\0"
  | '\t' => "\\t"
  | '\n' => "\\n"
  | '\r' => "\\r"
  | '\\' => "\\\\"
  | c =>
    if c = quote then String.ofList ['\\', c]
    else if isShapeless c then
      "\\u\x7b" ++ String.ofList (Nat.toDigits 16 c.toNat) ++ "\x7d"
    else String.singleton c

def quoteText (s : String) : String := "\"" ++ String.join (s.toList.map (escape '"')) ++ "\""

/-- A character in single quotes. -/
def quoteChar (c : Char) : String := "'" ++ escape '\'' c ++ "'"

end LineCalculator.Text
