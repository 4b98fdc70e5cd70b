/-!
# Protocol versions

A client names the version of the protocol it wants to speak. The server agrees if it speaks that
version and offers its own otherwise.
-/

namespace ScriptSandbox.Mcp

/-- The versions the server speaks, the newest first. -/
def supportedVersions : List String := ["2025-06-18", "2025-03-26", "2024-11-05"]

/-- The version the server offers. -/
def offeredVersion : String := "2025-03-26"

/-- The version that is spoken when a client asks for one. -/
def negotiate (requested : String) : String :=
  if requested ∈ supportedVersions then requested else offeredVersion

end ScriptSandbox.Mcp
