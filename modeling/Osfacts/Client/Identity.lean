import Osfacts.Client.Parse

set_option autoImplicit false

/-! # The start-qualified identity of a process

A pid and the instant its process started. That the process is gone is an answer of its own,
and any other reading without a start time is an error.
-/

namespace Osfacts.Client

/-- The identity has the fields of a start-time row, and so its type. -/
def foldStartTimeReading (reading : SnapshotReading) (pid : Nat) :
    Except OsfactsClientError (Option StartTimeRow) :=
  match reading.startTimes.find? (fun value => value.pid == pid) with
  | some row => .ok (some ⟨row.pid, row.startUnixUs⟩)
  | none =>
      match reading.unreadable.find?
        (fun value => value.pid == pid && value.facet == "start_time".toList) with
      | some unreadable =>
          if unreadable.errno = "ESRCH".toList ∨ unreadable.errno = "ENOENT".toList then .ok none
          else
            parseError ("osfacts could not read pid ".toList ++ Decimal.decimal pid
              ++ " start time (".toList ++ unreadable.errno ++ ")".toList)
      | none =>
          parseError
            ("osfacts returned no start time for pid ".toList ++ Decimal.decimal pid)

end Osfacts.Client
