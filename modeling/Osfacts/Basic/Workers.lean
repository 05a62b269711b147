import Mathlib.Tactic

set_option autoImplicit false

/-! # A list mapped in parallel

The list is cut into chunks, and each chunk has a worker that maps it from front to back. The
workers take turns in any order; a schedule lists which of them goes next. Their results are
joined in the order in which they were started, so the order of the turns leaves no trace.
-/

namespace Osfacts

variable {α β : Type}

/-- What a worker has still to do, and what it has done, both in order. -/
structure Worker (α β : Type) where
  todo : List α
  done : List β

namespace Worker

def spawn (chunk : List α) : Worker α β := ⟨chunk, []⟩

/-- The next item. A worker that has finished stays as it is. -/
def turn (f : α → β) (w : Worker α β) : Worker α β :=
  match w.todo with
  | [] => w
  | a :: todo => ⟨todo, w.done ++ [f a]⟩

def finished (w : Worker α β) : Bool := w.todo.isEmpty

/-- What the worker will have done in the end. -/
def result (f : α → β) (w : Worker α β) : List β := w.done ++ w.todo.map f

theorem result_turn (f : α → β) (w : Worker α β) : (w.turn f).result f = w.result f := by
  unfold turn
  split
  case h_1 => rfl
  case h_2 a todo htodo =>
      rw [result, result, htodo, List.map_cons, List.append_assoc]
      rfl

theorem todo_turn (f : α → β) (w : Worker α β) : (w.turn f).todo = w.todo.tail := by
  unfold turn
  split
  case h_1 htodo => rw [htodo]; rfl
  case h_2 a todo htodo => rw [htodo]; rfl

theorem done_eq_result {f : α → β} {w : Worker α β} (h : w.finished = true) :
    w.done = w.result f := by
  rw [result, List.isEmpty_iff.mp h, List.map_nil, List.append_nil]

end Worker

/-! ## Schedules -/

/-- The workers after the turns of a schedule. -/
def runTurns (f : α → β) (schedule : List Nat) (workers : List (Worker α β)) :
    List (Worker α β) :=
  schedule.foldl (fun workers i => workers.modify i (Worker.turn f)) workers

/-- The results of the workers, in the order of the workers. One that has not finished blocks. -/
def joinAll (workers : List (Worker α β)) : Option (List β) :=
  if workers.all Worker.finished then some (workers.flatMap Worker.done) else none

/-- A turn changes no result. -/
theorem results_modify (f : α → β) (i : Nat) (workers : List (Worker α β)) :
    (workers.modify i (Worker.turn f)).map (Worker.result f)
      = workers.map (Worker.result f) := by
  induction workers generalizing i with
  | nil => rw [List.modify_nil]
  | cons w workers ih =>
      cases i with
      | zero => rw [List.modify_zero_cons, List.map_cons, List.map_cons, Worker.result_turn]
      | succ i => rw [List.modify_succ_cons, List.map_cons, List.map_cons, ih i]

theorem results_runTurns (f : α → β) (schedule : List Nat) (workers : List (Worker α β)) :
    (runTurns f schedule workers).map (Worker.result f) = workers.map (Worker.result f) := by
  induction schedule generalizing workers with
  | nil => rfl
  | cons i schedule ih =>
      rw [runTurns, List.foldl_cons]
      exact (ih _).trans (results_modify f i workers)

/-- Whatever the order of the turns was, the workers that have all finished have mapped the
list. -/
theorem joinAll_runTurns {f : α → β} {schedule : List Nat} {chunks : List (List α)}
    {out : List β} (h : joinAll (runTurns f schedule (chunks.map Worker.spawn)) = some out) :
    out = chunks.flatten.map f := by
  unfold joinAll at h
  split_ifs at h with hall
  have hdone : (runTurns f schedule (chunks.map Worker.spawn)).map Worker.done
      = chunks.map (List.map f) := by
    calc (runTurns f schedule (chunks.map Worker.spawn)).map Worker.done
        = (runTurns f schedule (chunks.map Worker.spawn)).map (Worker.result f) :=
          List.map_congr_left fun w hw => Worker.done_eq_result (List.all_eq_true.mp hall w hw)
      _ = (chunks.map Worker.spawn).map (Worker.result f) := results_runTurns f schedule _
      _ = chunks.map (List.map f) := by
          rw [List.map_map]
          rfl
  rw [← Option.some.inj h, List.flatMap_def, hdone, List.map_flatten]

/-! ## Enough turns -/

/-- What a worker has still to do after a schedule. -/
theorem todo_runTurns (f : α → β) (schedule : List Nat) (workers : List (Worker α β)) (i : Nat) :
    (runTurns f schedule workers)[i]?.map Worker.todo
      = workers[i]?.map (fun w => w.todo.drop (schedule.count i)) := by
  induction schedule generalizing workers with
  | nil => rfl
  | cons j schedule ih =>
      rw [runTurns, List.foldl_cons]
      refine (ih _).trans ?_
      by_cases hij : j = i
      · subst hij
        rw [List.getElem?_modify_eq, Option.map_eq_map, Option.map_map, List.count_cons_self]
        congr 1
        funext w
        rw [Function.comp_apply, Worker.todo_turn, List.drop_tail]
      · rw [List.getElem?_modify_ne _ _ hij, List.count_cons_of_ne hij]

/-- Workers that had as many turns as they have items have all finished. -/
theorem joinAll_of_turns (f : α → β) {schedule : List Nat} {chunks : List (List α)}
    (h : ∀ i chunk, chunks[i]? = some chunk → chunk.length ≤ schedule.count i) :
    joinAll (runTurns f schedule (chunks.map Worker.spawn)) = some (chunks.flatten.map f) := by
  have hall : (runTurns f schedule (chunks.map Worker.spawn)).all Worker.finished = true := by
    rw [List.all_eq_true]
    intro w hw
    obtain ⟨i, hi⟩ := List.mem_iff_getElem?.mp hw
    have htodo := todo_runTurns f schedule (chunks.map Worker.spawn) i
    rw [hi, List.getElem?_map, Option.map_map] at htodo
    cases hchunk : chunks[i]? with
    | none =>
        rw [hchunk] at htodo
        cases htodo
    | some chunk =>
        rw [hchunk] at htodo
        have hdrop : w.todo = chunk.drop (schedule.count i) := Option.some.inj htodo
        rw [Worker.finished, hdrop, List.drop_eq_nil_of_le (h i chunk hchunk)]
        rfl
  have hjoin : joinAll (runTurns f schedule (chunks.map Worker.spawn))
      = some ((runTurns f schedule (chunks.map Worker.spawn)).flatMap Worker.done) :=
    if_pos hall
  rw [hjoin, joinAll_runTurns hjoin]

end Osfacts
