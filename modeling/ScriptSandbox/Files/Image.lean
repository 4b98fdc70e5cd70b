import ScriptSandbox.Files.Tree
import ScriptSandbox.Text.Utf8

/-!
# Images

An image is a file that is read as a whole. Its size is looked at first, so that one that is too
large is never read.

## Main definitions

* `Files.LoadError`: why there is no image
* `Files.load`: the image at a path
-/

namespace ScriptSandbox.Files

/-- Bytes in a mebibyte. -/
def bytesPerMib : Nat := 1048576

/-- The size that a directory is given. -/
def directorySize : Nat := 4096

/-- Why there is no image. -/
inductive LoadError where
  | notFound (p : Path)
  | tooLarge (p : Path) (size limitMib : Nat)
  | readFailed (p : Path) (f : Os.Failure)
  deriving Repr, DecidableEq

namespace LoadError

/-- The failure below a load error. -/
def cause? : LoadError → Option Os.Failure
  | .notFound _ => some .noEntry
  | .tooLarge .. => none
  | .readFailed _ f => some f

/-- The wording of a load error. -/
def message : LoadError → String
  | .notFound p =>
    "failed to open wasm image " ++ Utf8.lossy p ++ ": " ++ Os.Failure.noEntry.message
  | .tooLarge p size limit =>
    "wasm image " ++ Utf8.lossy p ++
      s!" is too large ({size} bytes), exceeding max size of {limit} MiB"
  | .readFailed p f => "failed to read wasm image " ++ Utf8.lossy p ++ ": " ++ f.message

end LoadError

/-- A number of mebibytes in bytes, limited to 64 bits. -/
def byteLimit (limitMib : UInt64) : Nat := min (limitMib.toNat * bytesPerMib) (UInt64.size - 1)

/-- The image at a path, of at most `limitMib` mebibytes. -/
def load (v : View) (p : Path) (limitMib : UInt64) : Except LoadError Content :=
  let limit := byteLimit limitMib
  match v p with
  | .error .noEntry => .error (.notFound p)
  | .error f => .error (.readFailed p f)
  | .ok (.directory _) =>
    if limit < directorySize then .error (.tooLarge p directorySize limitMib.toNat)
    else .error (.readFailed p .isDirectory)
  | .ok (.file c) =>
    if limit < c.size then .error (.tooLarge p c.size limitMib.toNat) else .ok c

end ScriptSandbox.Files
