import Osfacts.Basic.Walk
import Osfacts.Cli.Args
import Osfacts.Linux.Readers
import Mathlib.Data.FinEnum

set_option autoImplicit false

/-! # Which pids an ask selects

Host scope lists `/proc`, `--pids` takes the list as it is, and `--roots` walks the process
graph from each root in turn. All roots share the set of seen pids and the output, so the walk
of one root starts where the walks before it stopped.
-/

namespace Osfacts.Linux

/-- What the walk asks of the system: whether a pid has a directory in `/proc`, and its
children. -/
structure ProcGraph where
  pathExists : Pid → Bool
  childrenOf : Pid → Except Errno (List Pid)

def graphOf (os : Os) : ProcGraph where
  pathExists pid := os.pathExists ("/proc/".toList ++ Decimal.decimal pid.toNat)
  childrenOf := childrenOf os

/-- The state of the loop over the roots: the pids seen, the output, and the `U` rows. -/
structure Collected where
  seen : Finset Pid
  out : List Pid
  unreadable : List Unreadable

/-- The walk below a root, which is already seen and in the output. -/
def descend (g : ProcGraph) (root : Pid) (seen : Finset Pid) (out : List Pid) :
    Except Errno Unit × Walk Pid :=
  Walk.walk g.childrenOf ⟨[root], seen, out⟩

def collectRoot (g : ProcGraph) (c : Collected) (root : Pid) : Collected :=
  -- a root found below an earlier one was walked with it
  if root ∈ c.seen then c
  else if ¬ g.pathExists root then
    { c with
      seen := insert root c.seen
      unreadable := pushUnreadableRow c.unreadable root .proc Libc.ENOENT }
  else
    match descend g root (insert root c.seen) (c.out ++ [root]) with
    | (.ok (), w) => ⟨w.seen, w.found, c.unreadable⟩
    -- what the failing walk has seen stays seen
    | (.error err, w) =>
        ⟨w.seen, w.found, pushUnreadableRow c.unreadable root .proc err⟩

def collectRoots (g : ProcGraph) (roots : List Pid) (unreadable : List Unreadable) : Collected :=
  roots.foldl (collectRoot g) ⟨∅, [], unreadable⟩

def collectPids (os : Os) (scope : Scope) (snap : Snapshot) :
    Snapshot × Except Errno (List Pid) :=
  match scope with
  | .host => (snap, hostPids os)
  | .pids list => (snap, .ok list)
  | .roots roots =>
      let c := collectRoots (graphOf os) roots snap.unreadable
      ({ snap with unreadable := c.unreadable }, .ok c.out)

end Osfacts.Linux
