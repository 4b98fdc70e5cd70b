import ScriptSandbox.Text.Similarity

/-!
# The flags of the command line

A flag with a value names a part of the configuration; two more ask for the help text and for the
version. A name that is not known may be a misspelt one.

## Main definitions

* `Config.Flag`: the flags that take a value
* `Config.Switch`: everything that has a name behind two dashes
* `Config.Switch.near?`: the switch that a name comes near to
-/

namespace ScriptSandbox.Config

/-- A flag with a value. -/
inductive Flag where
  | config
  | port
  | host
  | engine
  | memory
  | timeout
  | imageSize
  deriving Repr, DecidableEq

namespace Flag

/-- All flags, in the order of the help text. -/
def all : List Flag := [config, port, host, engine, memory, timeout, imageSize]

/-- What is written behind the dashes. -/
def name : Flag → String
  | .config => "config"
  | .port => "port"
  | .host => "host"
  | .engine => "path2engine"
  | .memory => "mem"
  | .timeout => "timeout"
  | .imageSize => "max-wasm-size"

/-- What stands for the value. -/
def placeholder : Flag → String
  | .config => "CONFIG"
  | .port => "PORT"
  | .host => "HOST"
  | .engine => "ENGINE_PATH"
  | .memory => "MEM"
  | .timeout => "TIMEOUT"
  | .imageSize => "MAX_WASM_SIZE"

/-- What the flag is for. -/
def purpose : Flag → String
  | .config => "Optional TOML configuration file"
  | .port => "Port to listen on"
  | .host => "Address to bind"
  | .engine => "Path to the WASM JavaScript engine"
  | .memory => "WASM memory limit in MiB"
  | .timeout => "WASM execution timeout in milliseconds"
  | .imageSize => "Maximum WASM file size in MiB"

/-- The flag and its value. -/
def usage (f : Flag) : String := "--" ++ f.name ++ " <" ++ f.placeholder ++ ">"

end Flag

/-- What has a name behind two dashes. -/
inductive Switch where
  | flag (f : Flag)
  /-- Asks for the help text. -/
  | help
  /-- Asks for the version. -/
  | version
  deriving Repr, DecidableEq

namespace Switch

/-- All switches, in the order of the help text. -/
def all : List Switch := Flag.all.map flag ++ [help, version]

/-- What is written behind the dashes. -/
def name : Switch → String
  | .flag f => f.name
  | .help => "help"
  | .version => "version"

/-- The switch with its dashes. -/
def text (s : Switch) : String := "--" ++ s.name

/-- The switch with its value, if it takes one. -/
def usage : Switch → String
  | .flag f => f.usage
  | s => s.text

/-- The switch of a name. -/
def ofName? (name : String) : Option Switch := all.find? (·.name = name)

/-- The similarity above which a name is taken for a misspelt one. -/
def leastSimilarity : Float := 0.7

/-- The switch whose name is the most similar to a name, if any is similar enough. Of several, it is
the last. -/
def near? (name : String) : Option Switch :=
  let nearer (best : Option (Float × Switch)) (s : Switch) : Option (Float × Switch) :=
    let x := Text.similarity name.toList s.name.toList
    if leastSimilarity < x && best.all (fun b => b.1 ≤ x) then some (x, s) else best
  (all.foldl nearer none).map (·.2)

end Switch

end ScriptSandbox.Config
