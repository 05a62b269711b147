import Osfacts.Client.Parse

set_option autoImplicit false

/-! # What the system said about a socket path

The client folds a `socket-holders` reading into three answers that it keeps apart: someone
holds the path, no one does, or the system would not say.
-/

namespace Osfacts.Client

structure SocketHolder where
  pid : Nat
  command : Option Text
  deriving DecidableEq, Repr

/-- `held` is never empty. -/
inductive SocketOccupancy where
  | held (first : SocketHolder) (rest : List SocketHolder)
  | none
  | unattributed (detail : Text)
  deriving DecidableEq, Repr

/-- The holders that have a pid, each with its name where it was read. -/
def namedHolders (reading : SocketHoldersReading) : List SocketHolder :=
  reading.holders.filterMap (fun holder =>
    match holder with
    | .claimed pid =>
        some ⟨pid, (reading.procs.find? (fun row => row.pid == pid)).map ProcessRow.name⟩
    | .unclaimed => Option.none)

def foldSocketOccupancy (reading : SocketHoldersReading) :
    Except OsfactsClientError SocketOccupancy :=
  match namedHolders reading with
  | first :: rest => .ok (.held first rest)
  | [] =>
      if reading.holders.length > 0 then
        .ok (.unattributed "the socket is bound, but its holder is not ours to inspect".toList)
      else
        match reading.errors.find? (fun row => row.facet == "socket_holders".toList) with
        | some blind =>
            .ok (.unattributed ("the holder search could not complete (".toList ++ blind.source
              ++ ": ".toList ++ blind.code ++ ")".toList))
        | Option.none =>
            if reading.procs.length > 0 ∨ reading.unreadable.length > 0 then
              parseError ("osfacts socket-holders named a holder's identity without naming the "
                ++ "holder — refusing to read a contradictory document as an unheld socket").toList
            else .ok .none

end Osfacts.Client
