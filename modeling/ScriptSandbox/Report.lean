/-!
# Failure reports

A failure is reported by what was attempted and by the chain of its causes, the nearest one first.

## Main definitions

* `Report.line`: a report on one line
* `Report.lines`, `Report.text`: a report on several lines, with numbered causes
-/

namespace ScriptSandbox

/-- What failed and why. -/
structure Report where
  message : String
  causes : List String := []
  deriving Repr, DecidableEq

namespace Report

/-- The message and the causes between colons. -/
def line (r : Report) : String := ": ".intercalate (r.message :: r.causes)

/-- A report below another message. -/
def under (r : Report) (message : String) : Report := ⟨message, r.message :: r.causes⟩

/-- A text behind a margin on the first line and behind blanks of the same width on the others. -/
def indent (margin text : String) : List String :=
  match text.splitOn "\n" with
  | [] => []
  | first :: more =>
    (margin ++ first) :: more.map fun l => String.ofList (List.replicate margin.length ' ') ++ l

/-- A lone cause is indented, several ones are numbered from zero. -/
def causeLines : List String → List String
  | [] => []
  | [cause] => "" :: "Caused by:" :: indent "    " cause
  | causes =>
    "" :: "Caused by:" ::
      causes.zipIdx.flatMap fun (cause, i) => indent (s!"    {i}: ") cause

/-- The message, and the causes below it. -/
def lines (r : Report) : List String :=
  ("Error: " ++ r.message).splitOn "\n" ++ causeLines r.causes

/-- The lines, each with its end. -/
def text (r : Report) : String := String.join (r.lines.map (· ++ "\n"))

end Report

end ScriptSandbox
