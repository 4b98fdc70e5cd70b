/-!
# Error numbers

The numbers with which calls of host functions report why they failed.
-/

namespace ScriptSandbox.Wasi

/-- Why a call of a host function failed. -/
inductive Errno where
  /-- The descriptor is not open, or not of the kind the call needs. -/
  | badDescriptor
  /-- A text is not well-formed UTF-8. -/
  | badText
  /-- The call was interrupted. -/
  | interrupted
  /-- An argument is invalid. -/
  | invalid
  /-- Input or output failed. -/
  | inputOutput
  /-- The descriptor is not a directory. -/
  | notDirectory
  /-- The descriptor is not a socket. -/
  | notSocket
  /-- The call is not supported. -/
  | notSupported
  /-- A number is too large. -/
  | overflow
  /-- The descriptor cannot be positioned. -/
  | notSeekable
  deriving Repr, DecidableEq

/-- The number of an error. -/
def Errno.code : Errno → UInt32
  | .badDescriptor => 8
  | .badText => 25
  | .interrupted => 27
  | .invalid => 28
  | .inputOutput => 29
  | .notDirectory => 54
  | .notSocket => 57
  | .notSupported => 58
  | .overflow => 61
  | .notSeekable => 70

end ScriptSandbox.Wasi
