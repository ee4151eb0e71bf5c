import Rollout.Error.Report
import Rollout.Log.Record
import Rollout.Text.Decimal

/-! The records that frame an operation: one at its start, and one at its end, which says
whether it failed and how long it took. -/

set_option autoImplicit false

namespace Rollout.Log

def started (operation : String) (extra : List (String × String)) : Record where
  level := .info
  fields := ("op", operation) :: ("event", "start") :: extra

def ended (operation : String) (extra : List (String × String)) : Record where
  level := .info
  fields := ("op", operation) :: ("event", "end") :: extra

def failed (operation : String) (report : Report) (extra : List (String × String)) : Record where
  level := .error
  fields := ("op", operation) :: ("event", "end_error") :: ("err.kind", report.kind.name) ::
    ("err.code", report.kind.code) :: ("err.message", report.text) :: extra

def duration (milliseconds : Nat) : String × String :=
  ("duration_ms", Text.decimal milliseconds)

end Rollout.Log
