import Osfacts.Client.Ask
import Osfacts.Client.Identity
import Osfacts.Client.Occupancy
import Osfacts.Client.Twins

set_option autoImplicit false

/-! # The verbs of the client

What a caller of the client gets from one call: the children the call spawned, and its answer.
The runtime is what a spawned child does, and the environment of the process. The interruption of
a call that nobody waits for any more has no answer, and is not here.
-/

namespace Osfacts.Client

/-- One child: how it ended, what it wrote, and whether the runtime sent it a signal. -/
structure Child where
  fate : Fate
  stdout : Text
  stderr : Text
  killed : Bool
  deriving DecidableEq, Repr

structure Runtime where
  /-- the child spawned with a path and arguments -/
  child : Text → List Text → Child
  /-- `process.env` -/
  env : Text → Option Text

/-! ## Calls -/

/-- The children that were spawned, each with its path and its arguments, and the answer. -/
structure Call (α : Type) where
  spawned : List (Text × List Text)
  answer : Except OsfactsClientError α

namespace Call

variable {α β : Type}

/-- Answered without a child. -/
def succeed (a : α) : Call α := ⟨[], .ok a⟩

def fail (e : OsfactsClientError) : Call α := ⟨[], .error e⟩

/-- The answer is read by one of the client's own functions, which spawn nothing. -/
def andThen (call : Call α) (read : α → Except OsfactsClientError β) : Call β :=
  ⟨call.spawned, call.answer >>= read⟩

@[simp] theorem andThen_ok (spawned : List (Text × List Text)) (a : α)
    (read : α → Except OsfactsClientError β) :
    (⟨spawned, .ok a⟩ : Call α).andThen read = ⟨spawned, read a⟩ := rfl

@[simp] theorem andThen_error (spawned : List (Text × List Text)) (e : OsfactsClientError)
    (read : α → Except OsfactsClientError β) :
    (⟨spawned, .error e⟩ : Call α).andThen read = ⟨spawned, .error e⟩ := rfl

end Call

/-- The facets of a host ask, under the names the client's interface gives them. -/
structure HostFacets where
  load : Bool
  mem : Bool
  cpu : Bool
  net : Bool
  disk : Bool
  deriving DecidableEq, Repr

/-- The command line of `host`. -/
def hostArgs (facets : HostFacets) : List Text :=
  ["host".toList] ++ (if facets.load then ["--load".toList] else [])
    ++ (if facets.mem then ["--mem".toList] else [])
    ++ (if facets.cpu then ["--cpu".toList] else [])
    ++ (if facets.net then ["--net".toList] else [])
    ++ if facets.disk then ["--disk".toList] else []

namespace Runtime

variable (rt : Runtime) (J : JsonLib)

/-! ## The child -/

/-- A path that is empty is refused before anything is spawned. -/
def spawns (bin : Text) (args : List Text) : List (Text × List Text) :=
  if bin = [] then [] else [(bin, args)]

def runOsfacts (bin : Text) (args : List Text) : Call Text where
  spawned := spawns bin args
  answer := runOsfactsAsync bin (execFileError (rt.child bin args).killed (rt.child bin args).fate)
    (rt.child bin args).stdout (rt.child bin args).stderr

def runOsfactsSync (bin : Text) (args : List Text) : Call Text where
  spawned := spawns bin args
  answer := Client.runOsfactsSync bin
    (execFileSync (rt.child bin args).stdout (rt.child bin args).stderr (rt.child bin args).fate)

/-! ## Snapshots -/

def snapshot (bin : Text) (args : List Text) : Call SnapshotReading :=
  (rt.runOsfacts bin args).andThen (parseSnapshotOutput J)

/-- No roots are not an ask. -/
def snapshotSubtree (bin : Text) (rootPids : List Nat) (facets : SnapshotFacets) :
    Call SnapshotReading :=
  if rootPids.length = 0 then .succeed emptySnapshotReading
  else rt.snapshot J bin (snapshotArgs "--roots".toList rootPids facets)

def snapshotHost (bin : Text) (facets : SnapshotFacets) : Call SnapshotReading :=
  rt.snapshot J bin (appendSnapshotFacets ["snapshot".toList] facets)

def snapshotPids (bin : Text) (pids : List Nat) (facets : SnapshotFacets) : Call SnapshotReading :=
  if pids.length = 0 then .succeed emptySnapshotReading
  else rt.snapshot J bin (snapshotArgs "--pids".toList pids facets)

def snapshotPidsSync (bin : Text) (pids : List Nat) (facets : SnapshotFacets) :
    Call SnapshotReading :=
  if pids.length = 0 then .succeed emptySnapshotReading
  else
    (rt.runOsfactsSync bin (snapshotArgs "--pids".toList pids facets)).andThen
      (parseSnapshotOutput J)

/-! ## Identities -/

/-- The path of the binary in the environment; there is no other place to look. -/
def bakedOsFactsBin (envVar : Text) : Except OsfactsClientError Text :=
  if envVar = [] then .error (.spawn "bakedOsFactsBin: env var name is empty".toList)
  else
    match rt.env envVar with
    | none | some [] =>
        .error (.spawn (envVar ++ (" is not set — the baked osfacts binary path is required "
          ++ "(nix wrappers set it; no PATH fallback)").toList))
    | some path => .ok path

def processIdentity (bin : Text) (pid : Nat) : Call (Option StartTimeRow) :=
  (rt.snapshotPidsSync J bin [pid] (.only .startTime)).andThen
    (fun reading => foldStartTimeReading reading pid)

def processIdentityAsync (bin : Text) (pid : Nat) : Call (Option StartTimeRow) :=
  (rt.snapshotPids J bin [pid] (.only .startTime)).andThen
    (fun reading => foldStartTimeReading reading pid)

def processIdentityFromEnv (envVar : Text) (pid : Nat) : Call (Option StartTimeRow) :=
  match rt.bakedOsFactsBin envVar with
  | .error e => .fail e
  | .ok bin => rt.processIdentity J bin pid

/-! ## Socket holders -/

def socketHolders (bin : Text) (socketPath : Text) (procs : Bool) : Call SocketHoldersReading :=
  if socketPath = [] then .fail (.spawn "osfacts socket-holders needs a socket path".toList)
  else
    (rt.runOsfacts bin (socketHoldersArgs socketPath procs)).andThen parseSocketHoldersOutput

/-- What a supervisor asks before it binds a path. -/
def osfactsSocketHolders (bin : Text) (socketPath : Text) : Call SocketOccupancy :=
  (rt.socketHolders bin socketPath true).andThen foldSocketOccupancy

/-! ## Hosts -/

def host (L : FloatLib) (bin : Text) (facets : HostFacets) : Call (HostReading L) :=
  (rt.runOsfacts bin (hostArgs facets)).andThen (parseHostOutput J L)

end Runtime

end Osfacts.Client
