import Mathlib.Tactic
import Mathlib.Data.Fintype.Card
import Osfacts.Basic.FirstSeen

set_option autoImplicit false

/-! # A breadth-first walk

The walk of a graph with one list that is both the queue and the result: a cursor runs over it,
and the children of the node under the cursor that were not seen before are put at its end.
-/

namespace Osfacts

variable {α : Type}

/-- The state of a walk: the nodes found, how many of them have been expanded, and the nodes
seen. -/
structure Breadth (α : Type) where
  queue : List α
  cursor : Nat
  seen : Finset α

namespace Breadth

variable [DecidableEq α]

/-- Put a node at the end of the queue, unless it was seen before. -/
def enqueue (w : Breadth α) (a : α) : Breadth α :=
  if a ∈ w.seen then w else ⟨w.queue ++ [a], w.cursor, insert a w.seen⟩

/-- How many nodes were not seen yet. -/
def unseen [Fintype α] (w : Breadth α) : Nat := (w.seenᶜ).card

/-- Enqueuing a list of children sees a new node, or leaves the walk as it was. -/
theorem enqueues_unseen [Fintype α] (cs : List α) (w : Breadth α) :
    (cs.foldl enqueue w).unseen < w.unseen ∨ cs.foldl enqueue w = w := by
  induction cs generalizing w with
  | nil => exact Or.inr rfl
  | cons c cs ih =>
      rw [List.foldl_cons]
      by_cases hc : c ∈ w.seen
      · have henqueue : w.enqueue c = w := by simp [enqueue, hc]
        rw [henqueue]
        exact ih w
      · have hlt : (w.enqueue c).unseen < w.unseen := by
          simp only [enqueue, if_neg hc, unseen]
          apply Finset.card_lt_card
          rw [Finset.compl_ssubset_compl]
          exact Finset.ssubset_insert hc
        rcases ih (w.enqueue c) with h | h
        · exact Or.inl (h.trans hlt)
        · rw [h]
          exact Or.inl hlt

/-- The measure of a walk goes down when the cursor moves on: a new node was seen, or there is
less of the queue in front of it. -/
theorem enqueues_decrease [Fintype α] {w : Breadth α} (h : w.cursor < w.queue.length)
    (cs : List α) :
    Prod.Lex (· < ·) (· < ·)
      ((cs.foldl enqueue { w with cursor := w.cursor + 1 }).unseen,
        (cs.foldl enqueue { w with cursor := w.cursor + 1 }).queue.length
          - (cs.foldl enqueue { w with cursor := w.cursor + 1 }).cursor)
      (w.unseen, w.queue.length - w.cursor) := by
  rcases enqueues_unseen cs { w with cursor := w.cursor + 1 } with hlt | heq
  · exact Prod.Lex.left _ _ hlt
  · rw [heq]
    refine Prod.Lex.right _ ?_
    show w.queue.length - (w.cursor + 1) < w.queue.length - w.cursor
    omega

/-- Move the cursor to the end of the queue. -/
def walk [Fintype α] (children : α → List α) (w : Breadth α) : List α :=
  if h : w.cursor < w.queue.length then
    walk children
      ((children w.queue[w.cursor]).foldl enqueue { w with cursor := w.cursor + 1 })
  else w.queue
termination_by (w.unseen, w.queue.length - w.cursor)
decreasing_by exact enqueues_decrease h _

/-! ## What a walk finds -/

/-- The nodes seen are those of the queue, each there once. -/
structure Kept (w : Breadth α) : Prop where
  nodup : w.queue.Nodup
  seen_iff : ∀ a, a ∈ w.seen ↔ a ∈ w.queue

omit [DecidableEq α] in
theorem Kept.empty : Kept (⟨[], 0, ∅⟩ : Breadth α) :=
  ⟨List.nodup_nil, fun a => iff_of_false (Finset.notMem_empty a) List.not_mem_nil⟩

theorem Kept.queue_enqueue {w : Breadth α} (h : w.Kept) (a : α) :
    (w.enqueue a).queue = pushNew w.queue a := by
  by_cases ha : a ∈ w.queue
  · rw [enqueue, if_pos ((h.seen_iff a).mpr ha), pushNew, if_pos ha]
  · rw [enqueue, if_neg (fun hseen => ha ((h.seen_iff a).mp hseen)), pushNew, if_neg ha]

theorem Kept.enqueue {w : Breadth α} (h : w.Kept) (a : α) : (w.enqueue a).Kept := by
  by_cases ha : a ∈ w.seen
  · rw [Breadth.enqueue, if_pos ha]
    exact h
  · rw [Breadth.enqueue, if_neg ha]
    refine ⟨?_, fun x => ?_⟩
    · refine List.nodup_append.mpr ⟨h.nodup, List.nodup_singleton a, ?_⟩
      rintro x hx y hy rfl
      rw [List.mem_singleton.mp hy] at hx
      exact ha ((h.seen_iff a).mpr hx)
    · show x ∈ insert a w.seen ↔ x ∈ w.queue ++ [a]
      rw [Finset.mem_insert, h.seen_iff, List.mem_append, List.mem_singleton, or_comm]

theorem Kept.enqueues {w : Breadth α} (h : w.Kept) (cs : List α) :
    (cs.foldl Breadth.enqueue w).Kept ∧
      (cs.foldl Breadth.enqueue w).queue = cs.foldl pushNew w.queue ∧
      (cs.foldl Breadth.enqueue w).cursor = w.cursor := by
  induction cs generalizing w with
  | nil => exact ⟨h, rfl, rfl⟩
  | cons c cs ih =>
      have hcursor : (w.enqueue c).cursor = w.cursor := by
        unfold Breadth.enqueue
        split_ifs <;> rfl
      obtain ⟨hkept, hqueue, hrest⟩ := ih (h.enqueue c)
      rw [h.queue_enqueue] at hqueue
      exact ⟨hkept, hqueue, hrest.trans hcursor⟩

/-- The invariant of the walk: the children of every node the cursor has passed were seen. -/
structure Inv (children : α → List α) (w : Breadth α) : Prop extends Kept w where
  cursor_le : w.cursor ≤ w.queue.length
  closed : ∀ a ∈ w.queue.take w.cursor, ∀ c ∈ children a, c ∈ w.queue

omit [DecidableEq α] in
/-- A walk that has not begun. -/
theorem Kept.inv {children : α → List α} {w : Breadth α} (h : w.Kept) (hcursor : w.cursor = 0) :
    w.Inv children := by
  refine ⟨h, by omega, fun a ha => ?_⟩
  rw [hcursor, List.take_zero] at ha
  exact absurd ha List.not_mem_nil

/-- The state after the node under the cursor. -/
def turn (children : α → List α) (w : Breadth α) (h : w.cursor < w.queue.length) : Breadth α :=
  (children w.queue[w.cursor]).foldl enqueue { w with cursor := w.cursor + 1 }

section Turn

variable {children : α → List α} {w : Breadth α}

variable (children) in
theorem Kept.queue_turn (hw : w.Kept) (h : w.cursor < w.queue.length) :
    (turn children w h).queue = (children w.queue[w.cursor]).foldl pushNew w.queue ∧
      (turn children w h).cursor = w.cursor + 1 ∧ (turn children w h).Kept := by
  have hmoved : Kept { w with cursor := w.cursor + 1 } := ⟨hw.nodup, hw.seen_iff⟩
  obtain ⟨hkept, hqueue, hcursor⟩ := hmoved.enqueues (children w.queue[w.cursor])
  exact ⟨hqueue, hcursor, hkept⟩

theorem Inv.turn (hw : w.Inv children) (h : w.cursor < w.queue.length) :
    (turn children w h).Inv children := by
  obtain ⟨hqueue, hcursor, hkept⟩ := hw.queue_turn children h
  have happend := foldl_pushNew w.queue (children w.queue[w.cursor])
  refine ⟨hkept, ?_, ?_⟩
  · rw [hqueue, hcursor, happend, List.length_append]
    omega
  · intro a ha c hc
    rw [hqueue, hcursor, happend, List.take_append_of_le_length h, List.take_add_one,
      List.getElem?_eq_getElem h, Option.toList_some, List.mem_append, List.mem_singleton] at ha
    rw [hqueue, mem_foldl_pushNew]
    rcases ha with ha | rfl
    · exact Or.inl (hw.closed a ha c hc)
    · exact Or.inr hc

end Turn

/-- **What a walk finds**: what can be reached from the nodes it started with, each once. -/
theorem walk_spec [Fintype α] (children : α → List α) {w : Breadth α} (hw : w.Inv children) :
    (walk children w).Nodup ∧ ∀ x, x ∈ walk children w ↔
      ∃ a ∈ w.queue, Relation.ReflTransGen (fun a c => c ∈ children a) a x := by
  fun_induction walk children w with
  | case1 w h ih =>
      obtain ⟨hnodup, hmem⟩ := ih (hw.turn h)
      obtain ⟨hqueue, -, -⟩ := hw.queue_turn children h
      refine ⟨hnodup, fun x => (hmem x).trans ?_⟩
      -- what was put at the end of the queue is reached through the node under the cursor
      constructor
      · rintro ⟨a, ha, hreach⟩
        have ha' : a ∈ (turn children w h).queue := ha
        rw [hqueue, mem_foldl_pushNew] at ha'
        rcases ha' with ha' | hchild
        · exact ⟨a, ha', hreach⟩
        · exact ⟨_, List.getElem_mem h, Relation.ReflTransGen.head hchild hreach⟩
      · rintro ⟨a, ha, hreach⟩
        refine ⟨a, ?_, hreach⟩
        show a ∈ (turn children w h).queue
        rw [hqueue, mem_foldl_pushNew]
        exact Or.inl ha
  | case2 w h =>
      have hall : w.queue.take w.cursor = w.queue := List.take_of_length_le (by omega)
      refine ⟨hw.nodup, fun x => ⟨fun hx => ⟨x, hx, Relation.ReflTransGen.refl⟩, ?_⟩⟩
      rintro ⟨a, ha, hreach⟩
      induction hreach with
      | refl => exact ha
      | tail hstep hchild ih =>
          rename_i b c
          exact hw.closed b (hall.symm ▸ ih) c hchild

end Breadth

end Osfacts
