import TabletFleet.Pass.State
import TabletFleet.Text.Numeral

set_option autoImplicit false

/-! # Command line arguments

What a command line asks for. Options come before or after each other in any order, each at most once;
a command takes the options after its name, and the output format may be given on either side of it.
Values are checked when the next option is reached, so of several faults the one that is found first
on the way from left to right counts. -/

namespace TabletFleet.Cli

/-- Why a command line asks for nothing that can be done. -/
inductive ArgError where
  | helpAsked
  | versionAsked
  /-- There is nothing at all on the command line. -/
  | nothingGiven
  | missingCommand
  | unknownCommand
  | unknownArgument
  | missingArgument
  /-- An option without its value, or with one that is not among the possible ones. -/
  | invalidValue
  /-- A number that is none. -/
  | invalidNumber
  /-- A value for an option that takes none. -/
  | unwantedValue
  /-- An option given twice. -/
  | repeated
deriving DecidableEq, Inhabited

/-- The output format. -/
inductive Format where
  | human
  | json
deriving DecidableEq, Inhabited

def Format.ofName? : String → Option Format
  | "human" => some .human
  | "json" => some .json
  | _ => none

/-- The options of all commands. -/
inductive Setting where
  | help
  | version
  | output
  | file
  | topologyFile
  | dryRun
  | loop
  | interval
  | reconcileTimeout
  | topologyTimeout
deriving DecidableEq, Inhabited

namespace Setting

def name : Setting → String
  | .help => "help"
  | .version => "version"
  | .output => "output"
  | .file => "file"
  | .topologyFile => "topo-file"
  | .dryRun => "dry-run"
  | .loop => "loop"
  | .interval => "interval-secs"
  | .reconcileTimeout => "reconcile-timeout-secs"
  | .topologyTimeout => "topo-timeout-ms"

/-- The one-letter name. -/
def letter? : Setting → Option Char
  | .help => some 'h'
  | .version => some 'V'
  | .output => some 'o'
  | .file => some 'f'
  | _ => none

def takesValue : Setting → Bool
  | .help | .version | .dryRun | .loop => false
  | _ => true

/-- What is wrong with a value. -/
def fault? (s : Setting) (v : String) : Option ArgError :=
  match s with
  | .output => if (Format.ofName? v).isSome then none else some .invalidValue
  | .file | .topologyFile => if v.isEmpty then some .invalidValue else none
  | .interval | .reconcileTimeout | .topologyTimeout =>
    if (Numeral.uint64? v).isSome then none else some .invalidNumber
  | .help | .version | .dryRun | .loop => none

/-- The environment variable that stands in for an option that is not given. -/
def environmentName? : Setting → Option String
  | .reconcileTimeout => some PassConfig.reconcileVariable
  | .topologyTimeout => some PassConfig.topologyVariable
  | _ => none

end Setting

/-- The commands. -/
inductive CommandName where
  | plan
  | reconcile
deriving DecidableEq, Inhabited

def CommandName.ofText? : String → Option CommandName
  | "plan" => some .plan
  | "reconcile" => some .reconcile
  | _ => none

/-- The options that may stand after a command, or before all of them. -/
def settingsOf : Option CommandName → List Setting
  | none => [.output, .help, .version]
  | some .plan => [.file, .output, .help]
  | some .reconcile => [.file, .topologyFile, .dryRun, .loop, .interval, .reconcileTimeout,
      .topologyTimeout, .output, .help]

/-! ## Reading options -/

/-- What was read so far. -/
structure Reading where
  given : List (Setting × String) := []
  /-- The last option, whose value is still to come or to be checked. -/
  pending : Option (Setting × Option String) := none
deriving DecidableEq, Inhabited

namespace Reading

/-- The value of an option. -/
def value? (r : Reading) (s : Setting) : Option String := (r.given.find? (·.1 = s)).map (·.2)

/-- Take an option's value. -/
def take (r : Reading) (s : Setting) (v : String) : Except ArgError Reading :=
  if (r.value? s).isSome then .error .repeated
  else
    match s.fault? v with
    | some e => .error e
    | none => .ok { r with given := (s, v) :: r.given }

/-- Take the pending option. -/
def settle (r : Reading) : Except ArgError Reading :=
  match r.pending with
  | none => .ok r
  | some (_, none) => .error .invalidValue
  | some (s, some v) => { r with pending := none }.take s v

/-- A value is still to come. -/
def awaitsValue (r : Reading) : Bool :=
  match r.pending with
  | some (_, none) => true
  | _ => false

/-- Read an option without a value. -/
def flag (r : Reading) (s : Setting) : Except ArgError Reading := do
  let r ← r.settle
  match s with
  | .help => .error .helpAsked
  | .version => .error .versionAsked
  | s => r.take s ""

/-- Read an option with a value, which may be attached to it. -/
def option (r : Reading) (s : Setting) (attached : Option String) : Except ArgError Reading := do
  let r ← r.settle
  match attached with
  | some v => r.take s v
  | none => .ok { r with pending := some (s, none) }

/-- Read an option that is given by its name, after two dashes. -/
def long (r : Reading) (settings : List Setting) (arg : List Char) : Except ArgError Reading :=
  let name := arg.takeWhile (· != '=')
  let attached := (arg.drop name.length).head?.map fun _ => String.ofList (arg.drop (name.length + 1))
  match settings.find? (·.name == String.ofList name), attached with
  | none, _ => .error .unknownArgument
  | some s, attached =>
    if s.takesValue then r.option s attached
    else if attached.isSome then .error .unwantedValue
    else r.flag s

/-- Read options that are given by their letters, after one dash. The first one that takes a value
takes what is left, less an equals sign. -/
def short (r : Reading) (settings : List Setting) : List Char → Except ArgError Reading
  | [] => .ok r
  | c :: rest =>
    match settings.find? (·.letter? = some c) with
    | none => .error .unknownArgument
    | some s =>
      if s.takesValue then
        r.option s <| match rest with
          | [] => none
          | '=' :: v => some (String.ofList v)
          | v => some (String.ofList v)
      else do short (← r.flag s) settings rest

/-- Read the next argument; `none` if it is no option and no option's value. -/
def next? (r : Reading) (settings : List Setting) (arg : String) :
    Option (Except ArgError Reading) :=
  match arg.toList with
  | '-' :: '-' :: c :: rest => some (r.long settings (c :: rest))
  | ['-', '-'] => none
  | '-' :: c :: rest => some (r.short settings (c :: rest))
  | _ =>
    match r.pending with
    | some (s, none) => some (.ok { r with pending := some (s, some arg) })
    | _ => none

end Reading

/-! ## Commands -/

/-- Read the options of a command. After two dashes no option follows, and nothing else is expected. -/
def readOptions (name : CommandName) (r : Reading) : List String → Except ArgError Reading
  | [] => r.settle
  | arg :: rest =>
    match r.next? (settingsOf (some name)) arg with
    | some next => do readOptions name (← next) rest
    | none => if arg = "--" && rest.isEmpty then r.settle else .error .unknownArgument

/-- Let environment variables stand in for options that are not given. -/
def readEnvironment (env : String → Option String) (name : CommandName) (r : Reading) :
    Except ArgError Reading :=
  (settingsOf (some name)).foldlM (fun r s =>
    match r.value? s, s.environmentName?.bind env with
    | none, some v => r.take s v
    | _, _ => .ok r) r

/-- What is read before a command, and the command with the arguments after it. -/
def readTop (r : Reading) : List String → Except ArgError (Reading × Option (CommandName × List String))
  | [] => .ok (r, none)
  | arg :: rest =>
    if !r.awaitsValue && arg = "help" then
      match rest with
      | [] => .error .helpAsked
      | [topic] =>
        if topic = "help" || (CommandName.ofText? topic).isSome then .error .helpAsked
        else .error .unknownCommand
      | _ => .error .unknownCommand
    else
      match if r.awaitsValue then none else CommandName.ofText? arg with
      | some name => .ok (r, some (name, rest))
      | none =>
        match r.next? (settingsOf none) arg with
        | some next => do readTop (← next) rest
        | none =>
          match arg, rest with
          | "--", [] => .ok (r, none)
          | "--", next :: _ =>
            if next = "help" || (CommandName.ofText? next).isSome then .error .unknownArgument
            else .error .unknownCommand
          | _, _ => .error .unknownCommand

/-- What the reconcile command is given. -/
structure ReconcileOptions where
  file : String
  topologyFile : Option String := none
  dryRun : Bool := false
  /-- Go on with further passes. -/
  loop : Bool := false
  /-- Seconds between passes. -/
  interval : Nat := 30
  reconcileTimeout : Option Nat := none
  topologyTimeout : Option Nat := none
deriving DecidableEq, Inhabited

inductive Command where
  | plan (file : String)
  | reconcile (options : ReconcileOptions)
deriving DecidableEq, Inhabited

/-- What a command line asks for. -/
structure Invocation where
  format : Format
  command : Command
deriving DecidableEq, Inhabited

namespace Reading

/-- The value of an option that is a number. -/
def number? (r : Reading) (s : Setting) : Option Nat :=
  ((r.value? s).bind Numeral.uint64?).map (·.toNat)

/-- The command that options make up. -/
def command (r : Reading) (name : CommandName) : Except ArgError Command :=
  match r.value? .file with
  | none => .error .missingArgument
  | some file =>
    match name with
    | .plan => .ok (.plan file)
    | .reconcile => .ok (.reconcile {
        file
        topologyFile := r.value? .topologyFile
        dryRun := (r.value? .dryRun).isSome
        loop := (r.value? .loop).isSome
        interval := (r.number? .interval).getD 30
        reconcileTimeout := r.number? .reconcileTimeout
        topologyTimeout := r.number? .topologyTimeout })

end Reading

/-- What a command line asks for in an environment. -/
def Invocation.parse (env : String → Option String) (args : List String) :
    Except ArgError Invocation := do
  let (top, command) ← readTop {} args
  match command with
  | some (name, rest) =>
    let options ← readOptions name {} rest
    let options ← readEnvironment env name options
    let command ← options.command name
    let top ← top.settle
    let format := ((options.value? .output).or (top.value? .output)).bind Format.ofName?
    return { format := format.getD .human, command }
  | none =>
    let top ← top.settle
    if top.given.isEmpty then .error .nothingGiven else .error .missingCommand

/-- The settings of a pass: those of the environment, and over them those of the command line. -/
def ReconcileOptions.config (o : ReconcileOptions) (env : String → Option String) : PassConfig :=
  let c := PassConfig.ofEnvironment env
  {
    reconcileTimeout := (o.reconcileTimeout.map Duration.ofSeconds).getD c.reconcileTimeout
    topologyTimeout := (o.topologyTimeout.map Duration.ofMillis).getD c.topologyTimeout }

/-! ## Usage

What the program says about its command line, and about one that it cannot follow. -/

/-- The help text, line by line. -/
def usage : List String := [
  "Compile and reconcile a shard's tablets",
  "",
  "Usage: tablet-fleet [OPTIONS] <COMMAND>",
  "",
  "Commands:",
  "  plan       Print the tablets a shard compiles to",
  "  reconcile  Run a reconciliation pass and print the resulting status",
  "  help       Print this message or the help of the given subcommand(s)",
  "",
  "Options:",
  "  -o, --output <OUTPUT>  Output format [default: human] [possible values: human, json]",
  "  -h, --help             Print help",
  "  -V, --version          Print version",
  "",
  "Options of plan and reconcile:",
  "  -f, --file <FILE>  Shard manifest (YAML)",
  "",
  "Options of reconcile:",
  "      --topo-file <FILE>               Shard records snapshot (YAML list)",
  "      --dry-run                        Reconcile against an in-memory store",
  "      --loop                           Keep reconciling until Ctrl-C",
  "      --interval-secs <SECS>           Delay between passes [default: 30]",
  "      --reconcile-timeout-secs <SECS>  Pass deadline",
  "      --topo-timeout-ms <MS>           Upper bound for one topology lookup"]

def version : String := "tablet-fleet 0.0.0"

/-- What is wrong with a command line. -/
def ArgError.message : ArgError → String
  | .helpAsked | .versionAsked | .nothingGiven => ""
  | .missingCommand => "a subcommand is required but one was not provided"
  | .unknownCommand => "unrecognized subcommand"
  | .unknownArgument => "unexpected argument found"
  | .missingArgument => "the following required arguments were not provided: --file <FILE>"
  | .invalidValue => "invalid or missing value"
  | .invalidNumber => "invalid digit found in a number, or the number is out of range"
  | .unwantedValue => "unexpected value for an option that takes none"
  | .repeated => "an option cannot be used multiple times"

end TabletFleet.Cli
