/-!
# Handles

A compiled guest is shared by handles. A ticker interrupts the running instances at regular times;
it runs as long as there is a handle. A host that is shut down waits for the ticker if its own
handle is the last one.

## Main definitions

* `Sandbox.Handles`: how many handles there are, and the ticker
* `Sandbox.Handles.acquire`, `Sandbox.Handles.drop`: another handle, one handle less
* `Sandbox.Handles.shutdown`: the end of the host's own handle
-/

namespace ScriptSandbox.Sandbox

/-- The handles of a compiled guest and its ticker. -/
structure Handles where
  count : Nat
  /-- How often the ticker was told to stop. -/
  stops : Nat
  /-- Whether the end of the ticker was waited for. -/
  joined : Bool
  deriving Repr, DecidableEq, Inhabited

namespace Handles

/-- The handle of a new host. -/
def fresh : Handles := ⟨1, 0, false⟩

/-- Whether the ticker runs. -/
def ticking (h : Handles) : Bool := h.stops = 0

/-- Another handle. -/
def acquire (h : Handles) : Handles := { h with count := h.count + 1 }

/-- One handle less. With the last one the ticker is told to stop. -/
def drop (h : Handles) : Handles :=
  if h.count = 1 then { h with count := 0, stops := h.stops + 1 }
  else { h with count := h.count - 1 }

/-- The end of the host's own handle. The ticker is waited for if no other handle is left. -/
def shutdown (h : Handles) : Handles :=
  if h.count = 1 then { h.drop with joined := true } else h.drop

end Handles

end ScriptSandbox.Sandbox
