/-!
# Faults of the outside

What can go wrong with files and channels, and the words of the operating system for it.
-/
namespace LineCalculator

inductive Fault where
  | notFound
  | notADirectory
  | isADirectory
  | nameTooLong
  /-- A path holds the character zero. -/
  | invalidName
  /-- A line holds bytes that are no text. -/
  | invalidText
  /-- A character was to be taken back in part. -/
  | characterCut
  /-- A channel takes no more bytes. -/
  | channelFull
  deriving DecidableEq, Repr

def Fault.message : Fault → String
  | notFound => "No such file or directory (os error 2)"
  | notADirectory => "Not a directory (os error 20)"
  | isADirectory => "Is a directory (os error 21)"
  | nameTooLong => "File name too long (os error 36)"
  | invalidName => "file name contained an unexpected NUL byte"
  | invalidText => "stream did not contain valid UTF-8"
  | characterCut => "assertion failed: self.is_char_boundary(new_len)"
  | channelFull => "sink full"

end LineCalculator
