import Osfacts.Rust.Slice

set_option autoImplicit false

/-! # The operating system, as the darwin readers see it

A state of the system is what each call answers: the bytes the kernel wrote or an errno. Where a
call is made twice, to learn a size and then to fill a buffer, the two count as one. A Rust map
visits its keys in an order of its own, which is part of the state.
-/

namespace Osfacts.Darwin

/-- The numbers of the darwin `libc`. -/
scoped instance libc : Libc where
  EOVERFLOW := 84
  ENOTSUP := 45

/-- What the census says of one process. -/
structure BsdRow where
  ppid : UInt32
  name : Text
  startUnixUs : UInt64
  uid : UInt32
  status : UInt32
  nice : Int32
  deriving DecidableEq

/-- The census: a map from pids to rows, in the order in which its keys are visited. -/
abbrev ProcessTable := List (Pid × BsdRow)

/-- The fields of `proc_taskinfo` that are read. -/
structure ProcTaskInfo where
  ptiResidentSize : UInt64
  ptiTotalUser : UInt64
  ptiTotalSystem : UInt64
  ptiThreadnum : Int32

structure ProcFdInfo where
  procFd : Int32
  procFdtype : UInt32

/-- The fields of `tcp_sockinfo` that are read. The local address is a union of sixteen bytes. -/
structure TcpSockInfo where
  insiLport : Int32
  insiVflag : UInt8
  insiLaddr : Bytes
  tcpsiState : Int32
  insiLaddr_length : insiLaddr.length = 16

/-- One descriptor's socket record. `soiKind` says which arm of the union holds. -/
structure SocketInfo where
  soiFamily : Int32
  soiKind : Int32
  priTcp : TcpSockInfo
  /-- the bound address slot of the unix domain arm -/
  unsiAddr : Bytes

structure MachTimebase where
  numer : UInt32
  denom : UInt32
  deriving DecidableEq

structure Os where
  /-- `kern.proc.all` -/
  kernProcAll : Except Errno Bytes
  tableOrder : ProcessTable → ProcessTable
  tableOrder_perm : ∀ table, (tableOrder table).Perm table
  procPidpath : Pid → Option Bytes
  taskInfo : Pid → Except Errno ProcTaskInfo
  vnodePathInfo : Pid → Except Errno Bytes
  procargs2 : Pid → Except Errno Buffer
  listFds : Pid → Except Errno (List ProcFdInfo)
  socketInfo : Pid → Int32 → Option SocketInfo
  machTimebase : Option MachTimebase
  sysctl : String → Except Errno Buffer

/-- A system that answers every call with one errno. -/
def Os.blind (err : Errno) : Os where
  kernProcAll := .error err
  tableOrder table := table
  tableOrder_perm table := List.Perm.refl table
  procPidpath _ := none
  taskInfo _ := .error err
  vnodePathInfo _ := .error err
  procargs2 _ := .error err
  listFds _ := .error err
  socketInfo _ _ := none
  machTimebase := none
  sysctl _ := .error err

end Osfacts.Darwin
