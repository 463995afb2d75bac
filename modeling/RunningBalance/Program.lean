import RunningBalance.Monitor.Run
import RunningBalance.Schedule.Reader
import RunningBalance.Settings.Load

/-!
# The program

The program loads its settings, visits all accounts once, and ends with that if there is no
schedule. With a schedule the first round may fail; the schedule is read after it, and the program
then goes on until it is interrupted. `Program.runIn` does so in any surroundings; `Program.run`
stops where the program would go on, and it is set what its visits meet.
-/

set_option autoImplicit false
set_option relaxedAutoImplicit false

namespace RunningBalance.Program

/-- Where metrics are left, given what keeps paths from being written. -/
def metricsTarget (hindrance? : String → Option String) : Option String → MetricsTarget
  | none => .nowhere
  | some path =>
    match hindrance? path with
    | none => .file path
    | some cause => .unwritable path cause

/-- The monitor that settings ask for, with a library to make its requests. -/
def monitorOf (library : Backend.Library) (hindrance? : String → Option String)
    (settings : Settings) : Except Settings.Fault Monitor :=
  match settings.addresses with
  | .ok accounts =>
    .ok
      { client := { settings := settings.backend, library }
        accounts
        display := settings.display
        metricsTarget := metricsTarget hindrance? settings.metricsFile }
  | .error fault => .error (.account fault)

/-- How the program ends, if no interrupt comes. -/
inductive Ending
  | success
  | misconfigured (fault : Settings.Fault)
  | allFailed (count : Nat)
  /-- The text of the schedule is none. -/
  | noSchedule
  /-- A ledger could not be rendered, or a variable could not be set. -/
  | aborted
  /-- It goes on until an interrupt ends it well. -/
  | waiting (schedule : Schedule)
  deriving DecidableEq, Repr

namespace Ending

/-- How the program ends without settings. -/
def ofFault : Settings.Fault → Ending
  | .impossibleValue => .aborted
  | fault => .misconfigured fault

/-- What is wrong, in one line. -/
def message? : Ending → Option String
  | .misconfigured fault => some fault.message
  | .allFailed count => some (Monitor.allFailedMessage count)
  | .noSchedule => some "ParseSchedule"
  | _ => none

/-- What the program writes about its end to standard error. An empty line comes first if it is
aborted. -/
def report (ending : Ending) : String :=
  match ending, ending.message? with
  | .aborted, _ => "\nThe program cannot go on\n"
  | _, some message => "Error: " ++ message ++ "\n"
  | _, none => ""

/-- Whether the program goes on. -/
def waits : Ending → Bool
  | .waiting _ => true
  | _ => false

/-- The status that the system is told. -/
def exitCode : Ending → UInt8
  | .success => 0
  | .waiting _ => 0
  | .misconfigured _ => 1
  | .allFailed _ => 1
  | .noSchedule => 1
  | .aborted => 101

end Ending

/-- How the program goes on after the first round. -/
def endingAfter (monitor : Monitor) (schedule : Option String) (round : Monitor.Round) : Ending :=
  if round.aborted then .aborted
  else
    match schedule with
    | none => if monitor.allFailed round then .allFailed round.failures else .success
    | some text =>
      match Schedule.read? text with
      | some schedule => .waiting schedule
      | none => .noSchedule

/-- What the program says when it goes on although all visits of the first round failed. -/
def warning (count : Nat) : String :=
  "Initial refresh failed: " ++ Monitor.allFailedMessage count

/-- What the program says when all visits of a later round failed. -/
def pollWarning (count : Nat) : String :=
  "Failed to refresh accounts: " ++ Monitor.allFailedMessage count

/-- What the program says when it starts to wait. -/
def announcement (schedule : String) : String :=
  "Polling scheduled: " ++ schedule

/-- What is logged after a first round: that all its visits failed, if the program goes on with
that, and that it goes on. -/
def remarks (monitor : Monitor) (schedule : Option String) (round : Monitor.Round) :
    List (Log.Level × String) :=
  (if schedule.isSome && !round.aborted && monitor.allFailed round then
    [(.error, warning round.failures)] else []) ++
    (if (endingAfter monitor schedule round).waits then
      schedule.toList.map fun text ↦ (.info, announcement text) else [])

/-- What the program does until it ends or waits. -/
structure Outcome where
  ending : Ending
  /-- The documents printed, each with its account. -/
  printed : List (Account × String)
  /-- The failures and the schedule that are logged. -/
  logged : List String
  requests : List Request
  /-- What is written to the metrics file. -/
  exposed : Option String

/-- Without settings the program does nothing but end. -/
def Outcome.ofFault (fault : Settings.Fault) : Outcome where
  ending := .ofFault fault
  printed := []
  logged := []
  requests := []
  exposed := none

section Surroundings

variable {m : Type → Type} [Monad m]

/-- The first round of a monitor, and what follows from it. If the program waits, it goes on as it
is given. -/
def startIn (surroundings : Surroundings m) (goOn : Schedule → Monitor.State → m Unit)
    (monitor : Monitor) (schedule : Option String) : m Outcome := do
  let round ← monitor.refreshAllIn surroundings .initial
  let ending := endingAfter monitor schedule round
  let remarks := remarks monitor schedule round
  remarks.forM fun (level, message) ↦ surroundings.log level message
  match ending with
  | .waiting schedule => goOn schedule round.state
  | _ => pure ()
  pure
    { ending
      printed := round.printed
      logged := round.complaints.map Monitor.Complaint.explanation ++ remarks.map Prod.snd
      requests := round.requests
      exposed := round.state.exposed }

/-- The program, in surroundings that may depend on the settings. -/
def runIn (surroundings : Settings → Surroundings m)
    (goOn : Settings → Monitor → Schedule → Monitor.State → m Unit) (environment : Environment)
    (files : Files) (library : Backend.Library) (hindrance? : String → Option String) :
    m Outcome :=
  match Settings.load environment files with
  | .error fault => pure (.ofFault fault)
  | .ok settings =>
    match monitorOf library hindrance? settings with
    | .error fault => pure (.ofFault fault)
    | .ok monitor =>
      startIn (surroundings settings) (goOn settings monitor) monitor settings.schedule

end Surroundings

def start (monitor : Monitor) (schedule : Option String) (occasions : Nat → Occasion) : Outcome :=
  Id.run (startIn (.script occasions) (fun _ _ ↦ pure ()) monitor schedule)

def run (environment : Environment) (files : Files) (library : Backend.Library)
    (hindrance? : String → Option String) (occasions : Nat → Occasion) : Outcome :=
  Id.run
    (runIn (fun _ ↦ .script occasions) (fun _ _ _ _ ↦ pure ()) environment files library hindrance?)

/-- The lines of text printed. -/
def Outcome.output (outcome : Outcome) : String :=
  String.join (outcome.printed.map fun (_, document) ↦ document ++ "\n")

end RunningBalance.Program
