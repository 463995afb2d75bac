import RunningBalance.Backend.Wire
import RunningBalance.Log
import RunningBalance.Program
import Std.Async.DNS
import Std.Async.Signal
import Std.Async.TCP
import Std.Async.Timer
import Std.Time.DateTime.Timestamp

/-!
# The command line

`Program.runIn` in the surroundings of a process: the environment and the files are read, the
backend is asked over the network, and documents and log lines are printed.
-/

set_option autoImplicit false
set_option relaxedAutoImplicit false

namespace RunningBalance.Main

open Std.Async Std.Net

/-! ### Environment and files -/

/-- The variables that the settings come from. -/
def settingVariables : List String :=
  ["BALANCE_MONITOR_CONFIG", "BACKEND_URL", "BEARER_TOKEN", "BEARER_TOKEN_ENABLED",
    "BACKEND_TIMEOUT_SECS", "BALANCE_ACCOUNTS", "POLL_SCHEDULE", "TOKEN_DECIMALS", "TOKEN_SYMBOL",
    "OUTPUT_FORMAT", "METRICS_FILE", "LOG_FORMAT"]

/-- The names of variables that a file of assignments may set or use. -/
def mentioned (content : String) : List String :=
  let pieces (inPiece : Char → Bool) : List (List Char) :=
    Text.split '\n' (content.toList.map fun c ↦ if inPiece c then c else '\n')
  let names :=
    pieces Environment.inName ++ pieces Text.isAlphanumeric ++
      pieces fun c ↦ c ≠ '\x7b' ∧ c ≠ '\x7d'
  (names.filter (!·.isEmpty)).map String.ofList

def readFile? (path : String) : IO (Option String) := do
  try
    return some (← IO.FS.readFile path)
  catch _ =>
    return none

/-- The nearest file of assignments, in the working directory or above it. -/
def assignments : Nat → String → IO (Option String)
  | 0, _ => return none
  | levels + 1, directory => do
    match ← readFile? (directory ++ Settings.assignmentsFile) with
    | some content => return some content
    | none => assignments levels (directory ++ "../")

/-- The values of the named variables. -/
def environmentOf (names : List String) : IO Environment := do
  let values ← names.filterMapM fun name ↦ do
    return (← IO.getEnv name).map (name, ·)
  return fun name ↦ values.lookup name

/-! ### The network -/

/-- The bytes that come back until the connection ends. -/
partial def receive (client : TCP.Socket.Client) (soFar : ByteArray) : Async ByteArray := do
  match ← client.recv? 65536 with
  | some bytes => receive client (soFar ++ bytes)
  | none => return soFar

def socketAddress (address : IPAddr) (service : UInt16) : SocketAddress :=
  match address with
  | .v4 address => .v4 ⟨address, service⟩
  | .v6 address => .v6 ⟨address, service⟩

/-- What a host is looked up by: its address stands without brackets. -/
def lookupName : Url.Host → String
  | .bracketed address => String.ofList address.write
  | host => host.write

def addressOf (host : Url.Host) : Async (Except Backend.Outage IPAddr) := do
  try
    match (← DNS.getAddrInfo (lookupName host) "").toList with
    | address :: _ => return .ok address
    | [] => return .error (.name "no address")
  catch failure =>
    return .error (.name failure.toString)

/-- What comes back for a request. Connections are made without encryption only. -/
def exchange (request : Request) : Async (Except Backend.Outage Response) := do
  if request.url.scheme = .encrypted then
    return .error (.connection "encryption is not supported")
  match ← addressOf request.url.host with
  | .error outage => return .error outage
  | .ok address =>
    let client ← TCP.Socket.Client.mk
    client.connect (socketAddress address (UInt16.ofNat request.url.service))
    client.send (Backend.Wire.write request).toUTF8
    let bytes ← receive client ByteArray.empty
    match (String.fromUTF8? bytes).bind Backend.Wire.response? with
    | some response => return .ok response
    | none => return .error (.connection "the answer is no response")

/-- The longest time to wait, in seconds. -/
def longestWait : Nat :=
  1000000000

/-- What comes back for a request in time. -/
def ask (timeoutSeconds : Nat) (request : Request) : IO (Except Backend.Outage Response) := do
  let wait : Async (Except Backend.Outage Response) := do
    sleep (.ofNat (1000 * min timeoutSeconds longestWait))
    return .error .timeout
  try
    (Async.race (exchange request) wait).block
  catch failure =>
    return .error (.connection failure.toString)

/-! ### What the program meets -/

def now : IO Instant := do
  let time ← Std.Time.Timestamp.now
  return { seconds := time.val.second.val, nanos := time.val.nano.val.toNat }

/-- How long it takes to reconcile transfers. -/
def measure (transfers : Transfers) : IO Float := do
  let start ← IO.monoNanosNow
  let _ ← IO.lazyPure fun _ ↦ transfers.reconcile
  return Float.ofNat ((← IO.monoNanosNow) - start) / 1e9

/-- Writes a file. Whether it can be written shows only when it is tried. -/
def writeFile (path content : String) : IO (Option String) := do
  try
    IO.FS.writeFile path content
    return none
  catch failure =>
    return some failure.toString

def surroundings (settings : Settings) : Surroundings IO where
  ask _ request := ask settings.backend.timeoutSeconds request
  time _ transfers := measure transfers
  print document := IO.println document
  log level message := do IO.println (Log.line settings.logFormat (← now) level message)
  writeFile := writeFile

/-! ### The program -/

/-- Visits all accounts whenever the schedule fires, until an interrupt comes. -/
partial def poll (settings : Settings) (monitor : Monitor) (schedule : Schedule)
    (interrupt : AsyncTask Int) (second : Int) (state : Monitor.State) : IO Unit := do
  if ← IO.hasFinished interrupt then return
  let instant ← now
  if instant.seconds ≠ second ∧ schedule.fires instant then
    let round ← monitor.refreshAllIn (surroundings settings) state
    if monitor.allFailed round then
      (surroundings settings).log .error (Program.pollWarning round.failures)
    poll settings monitor schedule interrupt instant.seconds round.state
  else
    IO.sleep 200
    poll settings monitor schedule interrupt instant.seconds state

/-- Waits for the times of a schedule, and for an interrupt. -/
def goOn (settings : Settings) (monitor : Monitor) (schedule : Schedule) (state : Monitor.State) :
    IO Unit := do
  let interrupt ← (← Signal.Waiter.mk .sigint false).wait
  poll settings monitor schedule interrupt (← now).seconds state

def run : IO UInt32 := do
  let content ← assignments 64 ""
  let environment ← environmentOf (settingVariables ++ mentioned (content.getD ""))
  let path := (environment.addFile? content).bind (· "BALANCE_MONITOR_CONFIG")
  let document ← path.bindM readFile?
  let files : Files := fun asked ↦
    if asked = Settings.assignmentsFile then content
    else if some asked = path then document
    else none
  let outcome ← Program.runIn surroundings goOn environment files .plain fun _ ↦ none
  IO.eprint outcome.ending.report
  return outcome.ending.exitCode.toUInt32

end RunningBalance.Main

def main : IO UInt32 :=
  RunningBalance.Main.run
