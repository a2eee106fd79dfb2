/-!
# The summary of a file
-/
namespace LineCalculator

/-- How many lines of a file were evaluated, skipped and failed. -/
structure Summary where
  evaluated : Nat := 0
  skipped : Nat := 0
  failed : Nat := 0
  deriving DecidableEq, Repr

namespace Summary

instance : Add Summary :=
  ⟨fun a b => ⟨a.evaluated + b.evaluated, a.skipped + b.skipped, a.failed + b.failed⟩⟩

/-- A summary as log records show it. -/
def text (s : Summary) : String :=
  "RunSummary \x7b evaluated: " ++ toString s.evaluated ++ ", skipped: " ++ toString s.skipped ++
    ", failed: " ++ toString s.failed ++ " \x7d"

end Summary

end LineCalculator
