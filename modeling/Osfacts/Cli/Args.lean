import Osfacts.Schema.Facet

set_option autoImplicit false

/-! # What can be asked

The three asks of the command line, as the sensors receive them. `Flag` is the vocabulary of
the snapshot flags; each flag is reported against one facet.
-/

namespace Osfacts

inductive Scope where
  | host
  | roots (pids : List Pid)
  | pids (pids : List Pid)
  deriving DecidableEq, Repr

structure SnapshotArgs where
  scope : Scope
  procs : Bool
  ports : Bool
  mem : Bool
  startTime : Bool
  cpuTime : Bool
  uid : Bool
  cwd : Bool
  status : Bool
  argv : Bool
  json : Bool
  deriving DecidableEq, Repr

def SnapshotArgs.default : SnapshotArgs :=
  ⟨.host, false, false, false, false, false, false, false, false, false, false⟩

/-- The facets an ask names: what a blind source costs. -/
def SnapshotArgs.askedFacets (args : SnapshotArgs) : List Facet :=
  [(args.procs, Facet.proc), (args.ports, .ports), (args.mem, .mem),
    (args.startTime, .startTime), (args.cpuTime, .cpuTime), (args.uid, .uid), (args.cwd, .cwd),
    (args.status, .status), (args.argv, .argv)].filterMap
    (fun (asked, facet) => if asked then some facet else none)

structure SocketHoldersArgs where
  path : Bytes
  procs : Bool
  json : Bool
  deriving DecidableEq, Repr

structure HostArgs where
  load : Bool
  mem : Bool
  cpu : Bool
  net : Bool
  disk : Bool
  json : Bool
  deriving DecidableEq, Repr

inductive Command where
  | snapshot (args : SnapshotArgs)
  | socketHolders (args : SocketHoldersArgs)
  | host (args : HostArgs)
  deriving DecidableEq, Repr

/-! ## Snapshot flags -/

inductive Flag where
  | procs
  | ports
  | mem
  | startTime
  | cpuTime
  | uid
  | cwd
  | status
  | argv
  deriving DecidableEq, Repr

namespace Flag

/-- Every flag, in the order in which asks list them. -/
def all : List Flag := [procs, ports, mem, startTime, cpuTime, uid, cwd, status, argv]

/-- The facet the sensors report a flag against. -/
def facet : Flag → Facet
  | procs => .proc
  | ports => .ports
  | mem => .mem
  | startTime => .startTime
  | cpuTime => .cpuTime
  | uid => .uid
  | cwd => .cwd
  | status => .status
  | argv => .argv

theorem facet_injective : Function.Injective facet := by
  intro a b
  cases a <;> cases b <;> simp [facet]

theorem eq_ports {f : Flag} (h : Facet.ports = f.facet) : f = .ports :=
  (facet_injective (show ports.facet = f.facet from h)).symm

theorem mem_all (f : Flag) : f ∈ all := by cases f <;> decide

end Flag

/-- Whether an ask has a flag. -/
def SnapshotArgs.asks (args : SnapshotArgs) : Flag → Bool
  | .procs => args.procs
  | .ports => args.ports
  | .mem => args.mem
  | .startTime => args.startTime
  | .cpuTime => args.cpuTime
  | .uid => args.uid
  | .cwd => args.cwd
  | .status => args.status
  | .argv => args.argv

theorem filterMap_asked {α β : Type} (asked : α → Bool) (name : α → β) (l : List α) :
    (l.map (fun a => (asked a, name a))).filterMap
      (fun (asked, name) => if asked then some name else none) = (l.filter asked).map name := by
  induction l with
  | nil => rfl
  | cons a l ih =>
      rw [List.map_cons, List.filterMap_cons, ih]
      cases h : asked a <;> simp [h]

theorem askedFacets_eq (args : SnapshotArgs) :
    args.askedFacets = (Flag.all.filter args.asks).map Flag.facet :=
  filterMap_asked args.asks Flag.facet Flag.all

theorem mem_askedFacets {args : SnapshotArgs} {facet : Facet} :
    facet ∈ args.askedFacets ↔ ∃ f, args.asks f = true ∧ f.facet = facet := by
  simp only [askedFacets_eq, List.mem_map, List.mem_filter, Flag.mem_all, true_and]

/-! ## Setting flags -/

/-- The flag, set. -/
def SnapshotArgs.set (args : SnapshotArgs) : Flag → SnapshotArgs
  | .procs => { args with procs := true }
  | .ports => { args with ports := true }
  | .mem => { args with mem := true }
  | .startTime => { args with startTime := true }
  | .cpuTime => { args with cpuTime := true }
  | .uid => { args with uid := true }
  | .cwd => { args with cwd := true }
  | .status => { args with status := true }
  | .argv => { args with argv := true }

namespace SnapshotArgs

theorem asks_set (args : SnapshotArgs) (f g : Flag) :
    (args.set f).asks g = (args.asks g || decide (g = f)) := by
  cases f <;> cases g <;> simp [set, asks]

theorem json_set (args : SnapshotArgs) (f : Flag) : (args.set f).json = args.json := by
  cases f <;> rfl

theorem asks_foldl_set (fs : List Flag) (args : SnapshotArgs) (g : Flag) :
    (fs.foldl set args).asks g = (args.asks g || decide (g ∈ fs)) := by
  induction fs generalizing args with
  | nil => simp
  | cons f fs ih =>
      rw [List.foldl_cons, ih, asks_set, Bool.or_assoc]
      congr 1
      simp

theorem json_foldl_set (fs : List Flag) (args : SnapshotArgs) :
    (fs.foldl set args).json = args.json := by
  induction fs generalizing args with
  | nil => rfl
  | cons f fs ih => rw [List.foldl_cons, ih, json_set]

end SnapshotArgs

end Osfacts
