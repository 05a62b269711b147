import Osfacts.Darwin.Os
import Osfacts.Pcblist

set_option autoImplicit false

/-! # Listeners on darwin

Two sources: the walk over the descriptors of the selected processes, which says who listens,
and the host-wide table, which says what listens. Both name a listener by port and address, and
each decides for itself which slot of the address union holds the address.
-/

namespace Osfacts.Darwin

open Pcblist

/-! ## The address slot -/

def AF_INET : Int32 := 2

/-- 30 on macOS, not the linux 10. -/
def AF_INET6 : Int32 := 30

def INI_IPV4 : UInt8 := 0x1
def INI_IPV6 : UInt8 := 0x2

inductive AddressSlot where
  | V4
  | V6
  deriving DecidableEq, Repr

def slotFromVflag (family : Int32) (vflag : UInt8) : AddressSlot :=
  if family = AF_INET then .V4
  -- dual-stack sockets set both flags
  else if vflag &&& INI_IPV6 ≠ 0 then .V6
  else if vflag &&& INI_IPV4 ≠ 0 then .V4
  else .V6

/-! ## The descriptor walk -/

def PROX_FDTYPE_SOCKET : UInt32 := 2
def SOCKINFO_TCP : Int32 := 2
def SOCKINFO_UN : Int32 := 3

def socketFds (os : Os) (pid : Pid) : Except Errno (List Int32) := do
  let fds ← os.listFds pid
  pure ((fds.filter (fun fd => fd.procFdtype = PROX_FDTYPE_SOCKET)).map ProcFdInfo.procFd)

/-- The address of a socket: the last four bytes of the union, or all sixteen. -/
def slotAddress (slot : AddressSlot) (laddr : Bytes) : Text :=
  match slot with
  | .V4 => hexBytes (laddr.drop 12)
  | .V6 => hexBytes laddr

/-- `u16::from_be(insi_lport as u16)`. -/
def lportOf (insiLport : Int32) : UInt16 := fromBeU16 ((neBytesI32 insiLport).take 2)

/-- The listener a descriptor is, if it is one. -/
def listenerOfSocket (psi : SocketInfo) : Option HostListener :=
  let tcp := psi.priTcp
  if psi.soiKind ≠ SOCKINFO_TCP then none
  else if tcp.tcpsiState ≠ TCP_STATE_LISTEN then none
  else if lportOf tcp.insiLport = 0 then none
  else some (lportOf tcp.insiLport,
    slotAddress (slotFromVflag psi.soiFamily tcp.insiVflag) tcp.insiLaddr)

def listenerClaims (os : Os) (pid : Pid) : Except Errno (List HostListener) := do
  let fds ← socketFds os pid
  -- a descriptor without a record closed since it was listed
  pure (fds.filterMap (fun fd => (os.socketInfo pid fd).bind listenerOfSocket))

/-! ## The host-wide table -/

def hostListeners (os : Os) : Except Errno (List HostListener) := do
  let bytes ← os.sysctl "net.inet.tcp.pcblist_n"
  withoutPanic (decodeHostListeners bytes) (decodeHostListeners_ne_panic bytes)

theorem hostListeners_of_decode {os : Os} {buffer : Buffer} {rows : List HostListener}
    (htable : os.sysctl "net.inet.tcp.pcblist_n" = .ok buffer)
    (hdecode : decodeHostListeners buffer = .ok rows) : hostListeners os = .ok rows := by
  rw [hostListeners, htable, ok_bind]
  exact withoutPanic_of_ok hdecode

/-! ## The ports of a snapshot -/

/-- One step of the walk: claims, or a `U` row. -/
def claimStep (acc : Snapshot × List (HostListener × Pid))
    (walked : Pid × Except Errno (List HostListener)) : Snapshot × List (HostListener × Pid) :=
  match walked.2 with
  | .ok rows => (acc.1, rows.foldl (fun claims row => insertNew claims row walked.1) acc.2)
  | .error err => (acc.1.pushUnreadable walked.1 .ports err, acc.2)

/-- The ports block of the snapshot, from what the walk of each pid and the table answer. -/
def snapshotPorts (walk : Pid → Except Errno (List HostListener))
    (table : Except Errno (List HostListener)) (wanted : List Pid) (snap : Snapshot) : Snapshot :=
  -- neither source carries the owner of a socket
  let snap := snap.pushError (sourceError "darwin_listeners" .portsUid Libc.ENOTSUP)
  let (snap, claims) := (wanted.map (fun pid => (pid, walk pid))).foldl claimStep (snap, [])
  match table with
  | .ok rows =>
      let snap := if rows.isEmpty then
        snap.pushError (blindOrEmpty "darwin_tcp_pcblist" .portsUnclaimed) else snap
      { snap with ports := attributeHostListeners rows claims }
  | .error err =>
      let snap := { snap with ports := attributeHostListeners [] claims }
      -- with no claim either, no listener survives
      let facet := if claims.isEmpty then Facet.ports else .portsUnclaimed
      snap.pushError (sourceError "darwin_tcp_pcblist" facet err)

/-! ## What the block leaves -/

/-- The listeners a walk returned: none where it failed. -/
def heard (walk : Pid → Except Errno (List HostListener)) (pid : Pid) : List HostListener :=
  match walk pid with
  | .ok rows => rows
  | .error _ => []

/-- The claims of the walk: a listener belongs to the first pid that was seen with it. -/
def claimsOf (walk : Pid → Except Errno (List HostListener)) (wanted : List Pid) :
    List (HostListener × Pid) := claimAll (heard walk) wanted []

/-- The `U` row of a walk that failed. -/
def walkBlame (walk : Pid → Except Errno (List HostListener)) (pid : Pid) : List Unreadable :=
  match walk pid with
  | .ok _ => []
  | .error err => [⟨pid, .ports, errnoName err⟩]

/-- The walk adds claims and, for each pid it cannot read, a `U` row. -/
theorem foldl_claimStep (walk : Pid → Except Errno (List HostListener)) (wanted : List Pid)
    (snap : Snapshot) (claims : List (HostListener × Pid)) :
    (wanted.map (fun pid => (pid, walk pid))).foldl claimStep (snap, claims)
      = ({ snap with
            unreadable := snap.unreadable ++ wanted.flatMap (walkBlame walk) },
          claimAll (heard walk) wanted claims) := by
  induction wanted generalizing snap claims with
  | nil => simp [claimAll]
  | cons pid wanted ih =>
      rw [List.map_cons, List.foldl_cons, List.flatMap_cons, claimStep, claimAll, List.foldl_cons,
        heard, walkBlame]
      cases hwalk : walk pid with
      | ok rows =>
          simp only []
          rw [ih, claimAll]
          simp
      | error err =>
          simp only []
          rw [ih, claimAll]
          simp [Snapshot.pushUnreadable, pushUnreadableRow]

/-- The listeners of the block, whatever the table answered. -/
theorem ports_snapshotPorts (walk : Pid → Except Errno (List HostListener))
    (table : Except Errno (List HostListener)) (wanted : List Pid) (snap : Snapshot) :
    (snapshotPorts walk table wanted snap).ports
      = attributeHostListeners ((table.toOption).getD []) (claimsOf walk wanted) := by
  unfold snapshotPorts
  simp only [foldl_claimStep, claimsOf]
  cases table with
  | ok rows => rfl
  | error err => rfl

end Osfacts.Darwin
