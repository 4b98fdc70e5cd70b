import ScriptSandbox.Config.Flag
import ScriptSandbox.Text.Terminal

/-!
# What the command line tells

The help text, the version, and the refusal of arguments that make no sense.

## Main definitions

* `Config.helpText`, `Config.versionText`: the texts that are asked for
* `Config.UsageError`: why arguments are refused
* `Config.UsageError.text`: a refusal as it is shown
-/

namespace ScriptSandbox.Config

/-! ### Texts -/

/-- The name of the program. -/
def programName : String := "js-eval-wasi"

/-- The version of the program. -/
def programVersion : String := "0.1.0"

/-- The line that shows the version. -/
def versionText : String := programName ++ " " ++ programVersion ++ "\n"

/-- How the program is called with some arguments or, when there are none, in general. -/
def usageLine (arguments : List String) : String :=
  let rest := if arguments.isEmpty then ["[OPTIONS]"] else arguments
  "Usage: " ++ " ".intercalate (programName :: rest)

/-- One of the flags with its value. -/
def anyFlag : String := "<" ++ "|".intercalate (Flag.all.map Flag.usage) ++ ">"

/-- What the help text explains, with the explanations. -/
def helpEntries : List (String × String) :=
  (Flag.all.map fun f => ("      " ++ f.usage, f.purpose)) ++
    [("  -h, --help", "Print help"), ("  -V, --version", "Print version")]

/-- The column of the explanations: two blanks behind the longest entry. -/
def helpColumn : Nat := (helpEntries.map (·.1.length)).foldl max 0 + 2

/-- A line of the help text. -/
def helpLine (what explanation : String) : String :=
  what ++ String.ofList (List.replicate (helpColumn - what.length) ' ') ++ explanation ++ "\n"

/-- The help text. -/
def helpText : String :=
  "JavaScript evaluator MCP server (WASI sandbox)\n\n" ++ usageLine [] ++ "\n\nOptions:\n" ++
    String.join (helpEntries.map fun (what, explanation) => helpLine what explanation)

/-! ### Refusals -/

/-- Why a text is not a number that a flag takes. -/
inductive NumberFault where
  | empty
  | digit
  | tooLarge
  | tooSmall
  | outside (n : Int) (max : Nat)
  deriving Repr, DecidableEq

/-- The wording of a fault. -/
def NumberFault.message : NumberFault → String
  | .empty => "cannot parse integer from empty string"
  | .digit => "invalid digit found in string"
  | .tooLarge => "number too large to fit in target type"
  | .tooSmall => "number too small to fit in target type"
  | .outside n max => s!"{n} is not in 0..={max}"

/-- Why arguments are refused. -/
inductive UsageError where
  | invalidNumber (f : Flag) (value : String) (why : NumberFault)
  | missingValue (f : Flag)
  | repeated (f : Flag)
  | unexpectedArgument (text : String)
  /-- There is no switch of the name; `used` are the flags before it. -/
  | unknownSwitch (name : String) (used : List Flag)
  /-- The switch takes no value; `used` are the flags before it. -/
  | unexpectedValue (s : Switch) (value : String) (used : List Flag)
  deriving Repr, DecidableEq

namespace UsageError

/-- The wording of a refusal. Of what was given, only what a terminal prints is shown. -/
def message : UsageError → String
  | .invalidNumber f value why =>
    "error: invalid value '" ++ Text.printed value ++ "' for '" ++ f.usage ++ "': " ++ why.message
  | .missingValue f =>
    "error: a value is required for '" ++ f.usage ++ "' but none was supplied"
  | .repeated f => "error: the argument '" ++ f.usage ++ "' cannot be used multiple times"
  | .unexpectedArgument text =>
    "error: unexpected argument '" ++ Text.printed text ++ "' found"
  | .unknownSwitch name _ =>
    "error: unexpected argument '--" ++ Text.printed name ++ "' found"
  | .unexpectedValue s value _ =>
    "error: unexpected value '" ++ Text.printed value ++ "' for '" ++ s.text ++
      "' found; no more were expected"

/-- The switch that is suggested in place of an unknown one. -/
def suggestion? : UsageError → Option Switch
  | .unknownSwitch name _ => Switch.near? name
  | _ => none

/-- The tip that comes with a suggestion. -/
def tip (e : UsageError) : String :=
  match e.suggestion? with
  | some s => "\n\n  tip: a similar argument exists: '" ++ s.text ++ "'"
  | none => ""

/-- The arguments that a refusal is about: the flags before an unknown switch and the one that is
suggested, or the switch that takes no value and, if flags were given before it, any of them. -/
def arguments : UsageError → List String
  | .unknownSwitch name used =>
    let before := used.map Switch.flag
    (before ++ (Switch.near? name).toList.filter (· ∉ before)).map Switch.usage
  | .unexpectedValue s _ used => s.text :: if used.isEmpty then [] else [anyFlag]
  | _ => []

/-- Whether a refusal comes with the line that shows how the program is called. -/
def showsUsage : UsageError → Bool
  | .invalidNumber .. | .missingValue _ => false
  | _ => true

/-- A refusal as it is shown. -/
def text (e : UsageError) : String :=
  e.message ++ e.tip ++ (if e.showsUsage then "\n\n" ++ usageLine e.arguments else "") ++
    "\n\nFor more information, try '--help'.\n"

end UsageError

end ScriptSandbox.Config
