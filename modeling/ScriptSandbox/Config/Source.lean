import ScriptSandbox.Config.Decoding
import ScriptSandbox.Config.Flags
import ScriptSandbox.Files.Tree
import ScriptSandbox.Text.Utf8

/-!
# Where a configuration comes from

The defaults are overridden by the file that a flag names, and this by the other flags. The result
is checked as a whole.

## Main definitions

* `Config.SourceError`: why there is no configuration
* `Config.Settings.ofFlags`: the configuration that flags ask for
-/

namespace ScriptSandbox.Config

/-- Why there is no configuration. -/
inductive SourceError where
  | unreadable (path : String) (f : Os.Failure)
  | unparsable (text : String) (e : ParseError)
  | faulty (f : Fault)

/-- The report of an error. -/
def SourceError.report : SourceError → Report
  | .unreadable path f =>
    { message := "failed to read config " ++ path, causes := [f.message] }
  | .unparsable text e => e.report text
  | .faulty f => { message := f.message }

/-- The text of the file at a path. -/
def readText (files : Files.View) (path : String) : Except Os.Failure String := do
  let content ← files.read (Utf8.encode path)
  match Utf8.decode? content.toList with
  | some text => return text
  | none => throw .notText

/-- The configuration in the file at a path. -/
def Settings.load (files : Files.View) (path : String) : Except SourceError Settings := do
  let text ← (readText files path).mapError (.unreadable path)
  (Settings.parse text).mapError (.unparsable text)

/-- A configuration without faults. -/
def Settings.check (s : Settings) : Except SourceError Settings :=
  match s.fault? with
  | none => .ok s
  | some f => .error (.faulty f)

/-- The configuration that flags ask for. -/
def Settings.ofFlags (files : Files.View) (v : Flags) : Except SourceError Settings := do
  let base ← match v.config with
    | some path => Settings.load files path
    | none => .ok {}
  (base.apply v).check

end ScriptSandbox.Config
