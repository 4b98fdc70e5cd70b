import ScriptSandbox.Tool.Basic

/-!
# Registries of tools

A registry keeps tools in the order of their registration. A tool replaces an earlier one of its
name, and then counts as the latest.
-/

namespace ScriptSandbox.Tool

/-- Tools in the order of their registration. -/
structure Registry where
  tools : List Tool := []

namespace Registry

/-- Adds a tool in place of an earlier one of its name. -/
def register (r : Registry) (t : Tool) : Registry :=
  ⟨r.tools.filter (fun t' => t'.name ≠ t.name) ++ [t]⟩

/-- The tool with a name. -/
def get? (r : Registry) (name : String) : Option Tool := r.tools.find? (·.name = name)

/-- The definitions of all tools. -/
def definitions (r : Registry) : List Definition := r.tools.map (·.definition)

/-- The number of tools. -/
def size (r : Registry) : Nat := r.tools.length

/-- Whether there is no tool. -/
def isEmpty (r : Registry) : Bool := r.tools.isEmpty

end Registry

end ScriptSandbox.Tool
