import TestWeaver.Text.Quoted

/-!
Why an operation on a file fails: a condition of the file system on a path, or a refusal with words of its own.
-/
namespace TestWeaver.Files

inductive Condition where
  | noEntry
  | exists
  | notDirectory
  | isDirectory
  | nameTooLong
  deriving DecidableEq, Repr

namespace Condition

def number : Condition → Nat
  | noEntry => 2
  | «exists» => 17
  | notDirectory => 20
  | isDirectory => 21
  | nameTooLong => 36

def message : Condition → Text
  | noEntry => "No such file or directory"
  | «exists» => "File exists"
  | notDirectory => "Not a directory"
  | isDirectory => "Is a directory"
  | nameTooLong => "File name too long"

end Condition

inductive FileError where
  | condition (c : Condition) (path : Text)
  | refused (message : Text)
  deriving DecidableEq, Repr

def FileError.message : FileError → Text
  | condition c path => "[Errno " ++ Text.ofNat c.number ++ "] " ++ c.message ++ ": " ++ path.quoted
  | refused message => message

end TestWeaver.Files
