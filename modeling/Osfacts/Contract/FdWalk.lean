import Osfacts.Linux.Facets
import Osfacts.Linux.FdWalk
import Osfacts.Linux.SocketHolders

set_option autoImplicit false

/-! # The parallel walk is the sequential one

However the host schedules the threads of the descriptor walk, their results come to the list of
pids walked in its order, so the attribution of listeners and the holders of a socket are decided
by the order of the pids alone.
-/

namespace Osfacts.Linux

/-- What the walk of a list of pids decides: which of them claims a listener, and which of them
hold one of the inodes of a socket. -/
structure DecidedByOrder (os : Os) (pids : List Pid)
    (walked : List (Pid × Except Errno (List UInt64))) : Prop where
  /-- A listener is claimed by the first pid in the list that holds its socket. -/
  claims : ∀ (snap : Snapshot) (inode : UInt64),
    (walked.foldl claimStep (snap, [])).2.lookup inode
      = pids.find? (fun pid => decide (inode ∈ heldInodes os pid))
  /-- The holders are the pids that hold one of the inodes, in the order of the list. -/
  holders : ∀ inodes : List UInt64,
    (walked.filter (fun walked => holdsOne inodes walked.2)).map Prod.fst
      = pids.filter (fun pid => holdsOne inodes (socketInodes os pid))

theorem decidedByOrder (os : Os) (pids : List Pid) :
    DecidedByOrder os pids (pids.map (fun pid => (pid, socketInodes os pid))) where
  claims snap inode := by
    rw [foldl_claimStep]
    exact lookup_claimsOf os pids inode
  holders inodes := by
    rw [← claimed_eq, claimed, socketInodesForPids_eq]

/-- **The threads leave no trace.** For every list of pids and every walk of one pid the results
are the list walked in its order, whatever the schedule of the threads; a schedule that lets each
of them run to its end has a result. No chunk is empty, at most eight threads are spawned, and
none for a list of at most 64 pids. So who claims a listener and who holds a socket does not
depend on the schedule, nor on which of the two paths was taken. -/
theorem threadedSocketInodes_eq (pids : List Pid) :
    (∀ (walk : Pid → Except Errno (List UInt64)) (schedule : List Nat),
      (∀ out, threadedSocketInodes walk schedule pids = some out →
        out = pids.map (fun pid => (pid, walk pid))) ∧
      ((∀ i chunk, (workerChunks pids)[i]? = some chunk → chunk.length ≤ schedule.count i) →
        threadedSocketInodes walk schedule pids = some (pids.map (fun pid => (pid, walk pid))))) ∧
    (1 < workerCount pids → 0 < chunkLen pids ∧ (workerChunks pids).length ≤ MAX_WORKERS) ∧
    (pids.length ≤ PIDS_PER_WORKER → workerCount pids ≤ 1) ∧
    ∀ (os : Os) (schedule : List Nat) (out : List (Pid × Except Errno (List UInt64))),
      threadedSocketInodes (socketInodes os) schedule pids = some out →
      out = socketInodesForPids os pids ∧ DecidedByOrder os pids out := by
  refine ⟨fun walk schedule => ⟨fun out h => threadedSocketInodes_some walk h, fun h => ?_⟩,
    fun h => ⟨chunkLen_pos h, length_workerChunks_le h⟩, workerCount_le_one, ?_⟩
  · exact threadedSocketInodes_of_turns walk h
  · intro os schedule out h
    obtain rfl := threadedSocketInodes_some (socketInodes os) h
    exact ⟨(socketInodesForPids_eq os pids).symm, decidedByOrder os pids⟩

/-- Sixty-five pids, one more than the caller walks alone. -/
def manyPids : List Pid := (List.range 65).map (fun n => UInt32.ofNat (n + 1))

/-- Every process holds a socket of its own. -/
def ownSocket (pid : Pid) : Except Errno (List UInt64) := .ok [pid.toUInt64]

/-- The second thread finishes before the first has begun. -/
theorem threadedSocketInodes_sample :
    threadedSocketInodes ownSocket (List.replicate 32 1 ++ List.replicate 33 0) manyPids
      = some (manyPids.map (fun pid => (pid, ownSocket pid))) := by
  refine ((threadedSocketInodes_eq manyPids).1 _ _).2 fun i chunk hchunk => ?_
  have hchunks : (workerChunks manyPids).map List.length = [33, 32] := by decide +kernel
  have hlength := congrArg (fun lengths => lengths[i]?) hchunks
  simp only [List.getElem?_map, hchunk, Option.map_some] at hlength
  match i, hlength with
  | 0, hlength => exact (Option.some.inj hlength).le.trans (by decide)
  | 1, hlength => exact (Option.some.inj hlength).le.trans (by decide)

end Osfacts.Linux
