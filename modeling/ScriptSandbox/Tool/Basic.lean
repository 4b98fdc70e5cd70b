import ScriptSandbox.Json.Basic

/-!
# Tools

A tool is called with a document and answers with one. A call that makes no sense to the tool, and a
fault of the tool itself, are errors.

## Main definitions

* `Tool.Definition`: how a tool presents itself
* `Tool.Error`: why a call has no answer
* `Tool`: a tool
* `Tool.Executor`: a way to have tools executed
-/

namespace ScriptSandbox

namespace Tool

/-- How a tool presents itself. -/
structure Definition where
  name : String
  title : String
  description : String
  /-- The schema of the arguments. -/
  inputSchema : Json.Value
  deriving Inhabited

/-- A definition as a document. -/
def Definition.toJson (d : Definition) : Json.Value :=
  .object [("name", .string d.name), ("title", .string d.title),
    ("description", .string d.description), ("inputSchema", d.inputSchema)]

/-- Why a call has no answer. -/
inductive Error where
  | invalidParams (reason : String)
  | internal (reason : String)
  deriving Repr, DecidableEq

/-- The wording of an error. -/
def Error.message : Error → String
  | .invalidParams reason => "invalid params: " ++ reason
  | .internal reason => "internal error: " ++ reason

end Tool

/-- A tool. -/
structure Tool where
  definition : Tool.Definition
  execute : Json.Value → Except Tool.Error Json.Value

namespace Tool

/-- The name of a tool. -/
def name (t : Tool) : String := t.definition.name

/-- A way to have a tool executed on a document. What a server does besides is the same for all of
them. -/
abbrev Executor (m : Type → Type) := Tool → Json.Value → m (Except Error Json.Value)

/-- Executes a tool and does nothing else. -/
def Executor.plain : Executor Id := fun t params => t.execute params

end Tool

end ScriptSandbox
