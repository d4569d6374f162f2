import OpcodeTables.FileSystem
import OpcodeTables.Journal.Filter
import OpcodeTables.Text.ControlSequence
import OpcodeTables.Text.Utf8

/-!
# The world of a run

All that a run of the program reads and changes: the file system, the events
reported so far, and the log file if one is open.  An event reaches the log file
at once, so that a log file among the sources is read with the events before it.
-/

namespace OpcodeTables

/-- An open log file. -/
structure LogFile where
  location : Location
  /-- Where the next event is written. -/
  offset : Nat
  filter : LogFilter
  deriving DecidableEq

/-- What a run reads and changes: the files, and the events that it has reported. -/
structure World where
  files : FileSystem
  /-- The reported events, the first one first. -/
  events : List Event := []
  logFile : Option LogFile := none
  deriving DecidableEq

namespace World

/-- The event as it is written to a log: what steers a terminal is left out. -/
def logLine (event : Event) : String := Text.shown .stream (event.text ++ "\n")

/-- Reports an event, which is written to the log file if one is open. -/
def report (world : World) (event : Event) : World :=
  let world := { world with events := world.events ++ [event] }
  match world.logFile with
  | none => world
  | some log =>
    if log.filter.shows event then
      let bytes := Utf8.encode (logLine event)
      { world with
        files := world.files.writeAt log.location log.offset bytes
        logFile := some { log with offset := log.offset + bytes.length } }
    else world

def reportAll (world : World) (events : List Event) : World :=
  events.foldl report world

@[simp] theorem events_report (world : World) (event : Event) :
    (world.report event).events = world.events ++ [event] := by
  unfold report
  cases world.logFile with
  | none => rfl
  | some log =>
    simp only
    split <;> rfl

/-- Without a log file a report changes no file. -/
theorem files_report {world : World} (h : world.logFile = none) (event : Event) :
    (world.report event).files = world.files := by
  simp [report, h]

theorem logFile_report {world : World} (h : world.logFile = none) (event : Event) :
    (world.report event).logFile = none := by
  simp [report, h]

theorem reportAll_of_logFile_eq_none {world : World} (h : world.logFile = none)
    (events : List Event) :
    world.reportAll events = { world with events := world.events ++ events } := by
  induction events generalizing world with
  | nil => simp [reportAll]
  | cons event rest ih =>
    have hreport : world.report event = { world with events := world.events ++ [event] } := by
      simp [report, h]
    have hnone : (world.report event).logFile = none := logFile_report h event
    calc world.reportAll (event :: rest)
        = (world.report event).reportAll rest := rfl
      _ = { world with events := world.events ++ event :: rest } := by
          rw [ih hnone, hreport]; simp

end World

end OpcodeTables
