import Osfacts.Basic.Workers
import Osfacts.Linux.Readers

set_option autoImplicit false

/-! # The descriptor walk with its threads

`socket_inodes_for_pids` as it runs on a host: a list of more than 64 pids is cut into chunks, and
a scoped thread walks each of them. The threads take turns as the host lets them; the results are
joined in the order in which the threads were spawned.
-/

namespace Osfacts.Linux

def PIDS_PER_WORKER : Nat := 64

def MAX_WORKERS : Nat := 8

/-- `usize::div_ceil`. -/
def divCeil (n d : Nat) : Nat := (n + d - 1) / d

def workerCount (pids : List Pid) : Nat := min (divCeil pids.length PIDS_PER_WORKER) MAX_WORKERS

def chunkLen (pids : List Pid) : Nat := divCeil pids.length (workerCount pids)

/-- `pids.chunks(chunk_len)`: one chunk for each thread. -/
def workerChunks (pids : List Pid) : List (List Pid) := chunks (chunkLen pids) pids.length pids

/-- The walk in which the threads take turns as the schedule says. There is no result as long as
a thread that is joined has not finished. -/
def threadedSocketInodes {R : Type} (walk : Pid → R) (schedule : List Nat) (pids : List Pid) :
    Option (List (Pid × R)) :=
  let walkOne := fun pid => (pid, walk pid)
  if workerCount pids ≤ 1 then some (pids.map walkOne)
  else joinAll (runTurns walkOne schedule ((workerChunks pids).map Worker.spawn))

/-! ## The chunks -/

theorem length_chunks_le {α : Type} {size count : Nat} :
    ∀ (fuel : Nat) (l : List α), l.length ≤ count * size → (chunks size fuel l).length ≤ count := by
  intro fuel
  induction fuel generalizing count with
  | zero => exact fun l _ => Nat.zero_le _
  | succ fuel ih =>
      intro l hl
      cases l with
      | nil => exact Nat.zero_le _
      | cons a l =>
          cases count with
          | zero =>
              rw [Nat.zero_mul, List.length_cons] at hl
              omega
          | succ count =>
              have hdrop : ((a :: l).drop size).length ≤ count * size := by
                rw [List.length_drop]
                rw [Nat.succ_mul] at hl
                omega
              rw [chunks, List.length_cons]
              · exact Nat.succ_le_succ (ih _ hdrop)
              · exact List.cons_ne_nil a l

theorem le_mul_divCeil (n : Nat) {d : Nat} (hd : 0 < d) : n ≤ d * divCeil n d := by
  have hdiv := Nat.div_add_mod (n + d - 1) d
  have hmod := Nat.mod_lt (n + d - 1) hd
  unfold divCeil
  omega

/-- A list that is cut is long enough for chunks that are not empty. -/
theorem chunkLen_pos {pids : List Pid} (h : 1 < workerCount pids) : 0 < chunkLen pids := by
  have hle : workerCount pids ≤ divCeil pids.length PIDS_PER_WORKER := Nat.min_le_left _ _
  refine Nat.pos_of_ne_zero fun hzero => ?_
  have hlen := le_mul_divCeil pids.length (show 0 < workerCount pids by omega)
  have hchunk : divCeil pids.length (workerCount pids) = 0 := hzero
  rw [hchunk, Nat.mul_zero, Nat.le_zero] at hlen
  rw [hlen] at hle
  have hnone : divCeil 0 PIDS_PER_WORKER = 0 := rfl
  omega

theorem length_workerChunks_le {pids : List Pid} (h : 1 < workerCount pids) :
    (workerChunks pids).length ≤ MAX_WORKERS := by
  have hcut := length_chunks_le pids.length pids
    (le_mul_divCeil pids.length (show 0 < workerCount pids by omega))
  exact hcut.trans (Nat.min_le_right _ _)

/-- A short list is walked by the caller alone. -/
theorem workerCount_le_one {pids : List Pid} (h : pids.length ≤ PIDS_PER_WORKER) :
    workerCount pids ≤ 1 := by
  refine (Nat.min_le_left _ _).trans ?_
  unfold divCeil
  unfold PIDS_PER_WORKER at h ⊢
  omega

theorem workerChunks_flatten {pids : List Pid} (h : 1 < workerCount pids) :
    (workerChunks pids).flatten = pids :=
  chunks_flatten (chunkLen_pos h) _ _ (Nat.le_refl _)

/-! ## Every schedule -/

section Schedules

variable {R : Type} (walk : Pid → R) {schedule : List Nat} {pids : List Pid}

/-- Whatever the order in which the threads ran, the result is the list walked in its order. -/
theorem threadedSocketInodes_some {out : List (Pid × R)}
    (h : threadedSocketInodes walk schedule pids = some out) :
    out = pids.map (fun pid => (pid, walk pid)) := by
  unfold threadedSocketInodes at h
  simp only [] at h
  split_ifs at h with hcount
  · exact (Option.some.inj h).symm
  · rw [joinAll_runTurns h, workerChunks_flatten (Nat.lt_of_not_le hcount)]

/-- Threads that may all run to their ends are not waited for in vain. -/
theorem threadedSocketInodes_of_turns
    (h : ∀ i chunk, (workerChunks pids)[i]? = some chunk → chunk.length ≤ schedule.count i) :
    threadedSocketInodes walk schedule pids = some (pids.map (fun pid => (pid, walk pid))) := by
  unfold threadedSocketInodes
  simp only []
  split_ifs with hcount
  · rfl
  · rw [joinAll_of_turns _ h, workerChunks_flatten (Nat.lt_of_not_le hcount)]

end Schedules

end Osfacts.Linux
