import TabletFleet.Cli.Arguments
import TabletFleet.Cli.Commands

set_option autoImplicit false

/-! # The program

Reads the command line, the environment and the files that they name, and prints what the commands
answer. Objects in memory never become ready, so dry runs come to the same at any hour and need no
clock. -/

namespace TabletFleet.Cli

/-- Stop with an error. -/
def fail {α : Type} (text : String) : IO α := throw (IO.userError text)

/-- The text of a file. -/
def readText (path : String) : IO String := do
  try IO.FS.readFile path catch _ => fail ("reading " ++ path)

def readShard (path : String) : IO Shard := do
  match Shard.ofManifest? (← readText path) with
  | some shard => return shard
  | none => fail ("parsing shard manifest " ++ path)

def readSnapshot (path : String) : IO Topology := do
  match Topology.ofSnapshot (← readText path) with
  | .ok topology => return topology
  | .error _ => fail ("parsing " ++ path)

/-- The environment variables that the program knows. -/
def readVariables : IO (String → Option String) := do
  let reconcile ← IO.getEnv PassConfig.reconcileVariable
  let topology ← IO.getEnv PassConfig.topologyVariable
  return fun name =>
    if name = PassConfig.reconcileVariable then reconcile
    else if name = PassConfig.topologyVariable then topology
    else none

/-- A source of uids in the form of random UUIDs, which end in the number of the write. -/
def randomUids : IO (Nat → String) := do
  let bytes ← IO.getRandomBytes 9
  let digits := bytes.toList.flatMap fun b => (Nat.toDigits 16 (b.toNat + 256)).drop 1
  let part (start length : Nat) : String := .ofList ((digits.drop start).take length)
  return fun n => "-".intercalate
    [part 0 8, part 8 4, "4" ++ part 12 3, "8" ++ part 15 3, Numeral.padded 12 n]

/-- Run passes over objects in memory: one, or one after the other for as long as the program runs. -/
def runPasses (format : Format) (o : ReconcileOptions) (shard : Shard) (topology : Topology)
    (config : PassConfig) : IO Unit := do
  let mut shard := shard
  let mut store : MemoryStore := .empty (← randomUids)
  repeat
    let (pass, after) := dryRun format shard topology config default store
    IO.print pass.text
    (← IO.getStdout).flush
    if o.loop then
      shard := pass.shard
      store := after
      IO.sleep (.ofNat (pass.wait (.ofSeconds o.interval)).millis)
    else
      match pass.error with
      | some e => fail e
      | none => return

/-- Do what the command line asks for. -/
def Invocation.run (i : Invocation) (env : String → Option String) : IO Unit := do
  match i.command with
  | .plan file => IO.print (plan i.format (← readShard file))
  | .reconcile o =>
    let shard ← readShard o.file
    let topology ← match o.topologyFile with
      | some path => readSnapshot path
      | none => pure {}
    if o.dryRun then runPasses i.format o shard topology (o.config env)
    else fail "connecting to the cluster: only dry runs are possible here"

end TabletFleet.Cli

open TabletFleet.Cli in
def main (args : List String) : IO UInt32 := do
  let env ← readVariables
  match Invocation.parse env args with
  | .ok i =>
    try
      i.run env
      return 0
    catch e =>
      IO.eprintln ("Error: " ++ toString e)
      return 1
  | .error .helpAsked =>
    usage.forM IO.println
    return 0
  | .error .versionAsked =>
    IO.println version
    return 0
  | .error .nothingGiven =>
    usage.forM IO.eprintln
    return 2
  | .error e =>
    IO.eprintln ("error: " ++ e.message)
    return 2
