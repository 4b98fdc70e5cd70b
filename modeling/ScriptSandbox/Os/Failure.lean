/-!
# Refusals of the operating system

## Main definitions

* `Os.Failure`: why the operating system, or the layer above it, does not do what it is asked
* `Os.Failure.message`: the wording
-/

namespace ScriptSandbox.Os

/-- Why an operation on a file or a socket fails. -/
inductive Failure where
  | noEntry
  | noDevice
  | notDirectory
  | isDirectory
  | invalidArgument
  | nameTooLong
  | tooManyLinks
  | addressNotAvailable
  /-- A path holds a zero byte, so that it cannot be passed on. -/
  | zeroByteInPath
  /-- The bytes of a file are no text. -/
  | notText
  deriving Repr, DecidableEq

namespace Failure

/-- The wording and the number of a failure that the operating system reports itself. -/
def code? : Failure → Option (String × Nat)
  | .noEntry => some ("No such file or directory", 2)
  | .noDevice => some ("No such device", 19)
  | .notDirectory => some ("Not a directory", 20)
  | .isDirectory => some ("Is a directory", 21)
  | .invalidArgument => some ("Invalid argument", 22)
  | .nameTooLong => some ("File name too long", 36)
  | .tooManyLinks => some ("Too many levels of symbolic links", 40)
  | .addressNotAvailable => some ("Cannot assign requested address", 99)
  | .zeroByteInPath | .notText => none

/-- The wording of a failure. -/
def message (f : Failure) : String :=
  match f.code? with
  | some (text, number) => s!"{text} (os error {number})"
  | none =>
    match f with
    | .zeroByteInPath => "file name contained an unexpected NUL byte"
    | _ => "stream did not contain valid UTF-8"

end Failure

end ScriptSandbox.Os
