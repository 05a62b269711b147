import Mathlib.Tactic
import Mathlib.Data.Fintype.Card
import Mathlib.Logic.Relation

set_option autoImplicit false

/-! # A worklist walk whose expansions may fail

The walk of a graph with a stack of nodes to expand, a set of nodes seen and a list of nodes
found. Expanding a node may fail, and the walk then stops where it is, with a stack that is
in general not empty. What a walk sees is told by the nodes it expands (`mem_seen_walk`), and
`mem_found_cases` is what it leaves behind.
-/

namespace Osfacts

variable {α ε : Type}

/-- The state of a walk: the stack of nodes to expand (top first), the nodes seen, and the
nodes found, in the order in which they were found. -/
structure Walk (α : Type) where
  stack : List α
  seen : Finset α
  found : List α

namespace Walk

/-- Expanding `a` succeeds and gives `x`, among others. -/
def Lists (children : α → Except ε (List α)) (a x : α) : Prop :=
  ∃ cs, children a = .ok cs ∧ x ∈ cs

theorem lists_iff {children : α → Except ε (List α)} {a x : α} {cs : List α}
    (hc : children a = .ok cs) : Lists children a x ↔ x ∈ cs := by
  constructor
  · rintro ⟨ds, hds, hx⟩
    rw [hc] at hds
    cases hds
    exact hx
  · exact fun hx => ⟨cs, hc, hx⟩

variable [DecidableEq α]

/-- Find a node, unless it was seen before. -/
def visit (w : Walk α) (a : α) : Walk α :=
  if a ∈ w.seen then w else ⟨a :: w.stack, insert a w.seen, w.found ++ [a]⟩

/-! ## Visiting -/

theorem mem_seen_visit {w : Walk α} {a x : α} :
    x ∈ (w.visit a).seen ↔ x ∈ w.seen ∨ x = a := by
  unfold visit
  split
  case isTrue h =>
      constructor
      · exact Or.inl
      · rintro (hx | rfl)
        · exact hx
        · exact h
  case isFalse =>
      rw [Finset.mem_insert]
      exact Or.comm

theorem mem_found_visit {w : Walk α} {a x : α} :
    x ∈ (w.visit a).found ↔ x ∈ w.found ∨ (x = a ∧ a ∉ w.seen) := by
  unfold visit
  split <;> simp_all

theorem mem_stack_visit {w : Walk α} {a x : α} :
    x ∈ (w.visit a).stack ↔ x ∈ w.stack ∨ (x = a ∧ a ∉ w.seen) := by
  unfold visit
  split
  case isTrue h => simp [h]
  case isFalse h =>
      rw [List.mem_cons]
      constructor
      · rintro (rfl | hx)
        · exact Or.inr ⟨rfl, h⟩
        · exact Or.inl hx
      · rintro (hx | ⟨rfl, -⟩)
        · exact Or.inr hx
        · exact Or.inl rfl

theorem mem_seen_visits {cs : List α} {w : Walk α} {x : α} :
    x ∈ (cs.foldl visit w).seen ↔ x ∈ w.seen ∨ x ∈ cs := by
  induction cs generalizing w with
  | nil => simp
  | cons c cs ih =>
      rw [List.foldl_cons, ih, mem_seen_visit, List.mem_cons, or_assoc]

theorem mem_found_visits {cs : List α} {w : Walk α} {x : α} :
    x ∈ (cs.foldl visit w).found ↔ x ∈ w.found ∨ (x ∈ cs ∧ x ∉ w.seen) := by
  induction cs generalizing w with
  | nil => simp
  | cons c cs ih =>
      rw [List.foldl_cons, ih, mem_found_visit, mem_seen_visit, List.mem_cons]
      by_cases hx : x = c
      · subst hx
        tauto
      · simp [hx]

theorem mem_stack_visits {cs : List α} {w : Walk α} {x : α} :
    x ∈ (cs.foldl visit w).stack ↔ x ∈ w.stack ∨ (x ∈ cs ∧ x ∉ w.seen) := by
  induction cs generalizing w with
  | nil => simp
  | cons c cs ih =>
      rw [List.foldl_cons, ih, mem_stack_visit, mem_seen_visit, List.mem_cons]
      by_cases hx : x = c
      · subst hx
        tauto
      · simp [hx]

/-! ## Walking -/

/-- How many nodes were not seen yet. -/
def unseen [Fintype α] (w : Walk α) : Nat := (w.seenᶜ).card

/-- Visiting a list of children sees a new node, or leaves the walk as it was. -/
theorem visits_unseen [Fintype α] (cs : List α) (w : Walk α) :
    (cs.foldl visit w).unseen < w.unseen ∨ cs.foldl visit w = w := by
  induction cs generalizing w with
  | nil => exact Or.inr rfl
  | cons c cs ih =>
      rw [List.foldl_cons]
      by_cases hc : c ∈ w.seen
      · have hvisit : w.visit c = w := by simp [visit, hc]
        rw [hvisit]
        exact ih w
      · have hlt : (w.visit c).unseen < w.unseen := by
          simp only [visit, if_neg hc, unseen]
          apply Finset.card_lt_card
          rw [Finset.compl_ssubset_compl]
          exact Finset.ssubset_insert hc
        rcases ih (w.visit c) with h | h
        · exact Or.inl (h.trans hlt)
        · rw [h]
          exact Or.inl hlt

/-- The measure of a walk goes down when a node is popped and its children are visited: a new
node was seen, or the stack is shorter. -/
theorem visits_decrease [Fintype α] {w : Walk α} {a : α} {rest : List α} (hs : w.stack = a :: rest)
    (cs : List α) :
    Prod.Lex (· < ·) (· < ·)
      ((cs.foldl visit { w with stack := rest }).unseen,
        (cs.foldl visit { w with stack := rest }).stack.length)
      (w.unseen, w.stack.length) := by
  rcases visits_unseen cs { w with stack := rest } with h | h
  · exact Prod.Lex.left _ _ h
  · rw [h, hs]
    exact Prod.Lex.right _ (Nat.lt_succ_self _)

/-- Expand nodes from the top of the stack until the stack is empty or an expansion fails. -/
def walk [Fintype α] (children : α → Except ε (List α)) (w : Walk α) :
    Except ε Unit × Walk α :=
  match _hs : w.stack with
  | [] => (.ok (), w)
  | a :: rest =>
    match children a with
    -- the nodes under the one that failed stay on the stack, and stay seen
    | .error e => (.error e, { w with stack := rest })
    | .ok cs => walk children (cs.foldl visit { w with stack := rest })
termination_by (w.unseen, w.stack.length)
decreasing_by exact visits_decrease _hs cs

section Run

variable [Fintype α] {children : α → Except ε (List α)}

theorem walk_nil {w : Walk α} (hs : w.stack = []) : walk children w = (.ok (), w) := by
  rw [walk]
  split
  case h_1 => rfl
  case h_2 h => simp [hs] at h

theorem walk_error {w : Walk α} {a : α} {rest : List α} {e : ε} (hs : w.stack = a :: rest)
    (hc : children a = .error e) :
    walk children w = (.error e, { w with stack := rest }) := by
  rw [walk]
  split
  case h_1 h => simp [hs] at h
  case h_2 b rest' h =>
      obtain ⟨rfl, rfl⟩ := List.cons.inj (hs.symm.trans h)
      rw [hc]

theorem walk_ok {w : Walk α} {a : α} {rest cs : List α} (hs : w.stack = a :: rest)
    (hc : children a = .ok cs) :
    walk children w = walk children (cs.foldl visit { w with stack := rest }) := by
  rw [walk]
  split
  case h_1 h => simp [hs] at h
  case h_2 b rest' h =>
      obtain ⟨rfl, rfl⟩ := List.cons.inj (hs.symm.trans h)
      rw [hc]

/-- A walk that does not fail empties its stack. -/
theorem stack_of_walk_ok {w : Walk α} {u : Unit} (h : (walk children w).1 = .ok u) :
    (walk children w).2.stack = [] := by
  fun_induction walk children w with
  | case1 w hs => exact hs
  | case2 w a rest hs e hc => cases h
  | case3 w a rest hs cs hc ih => exact ih h

end Run

/-! ## What a walk expands -/

/-- The nodes a walk lists the children of, in order. -/
def expanded [Fintype α] (children : α → Except ε (List α)) (w : Walk α) : List α :=
  match _hs : w.stack with
  | [] => []
  | a :: rest =>
    match children a with
    | .error _ => []
    | .ok cs => a :: expanded children (cs.foldl visit { w with stack := rest })
termination_by (w.unseen, w.stack.length)
decreasing_by exact visits_decrease _hs cs

section Expanded

variable [Fintype α] {children : α → Except ε (List α)}

theorem expanded_nil {w : Walk α} (hs : w.stack = []) : expanded children w = [] := by
  rw [expanded]
  split
  case h_1 => rfl
  case h_2 h => simp [hs] at h

theorem expanded_error {w : Walk α} {a : α} {rest : List α} {e : ε} (hs : w.stack = a :: rest)
    (hc : children a = .error e) : expanded children w = [] := by
  rw [expanded]
  split
  case h_1 h => simp [hs] at h
  case h_2 b rest' h =>
      obtain ⟨rfl, rfl⟩ := List.cons.inj (hs.symm.trans h)
      rw [hc]

theorem expanded_ok {w : Walk α} {a : α} {rest cs : List α} (hs : w.stack = a :: rest)
    (hc : children a = .ok cs) :
    expanded children w = a :: expanded children (cs.foldl visit { w with stack := rest }) := by
  rw [expanded]
  split
  case h_1 h => simp [hs] at h
  case h_2 b rest' h =>
      obtain ⟨rfl, rfl⟩ := List.cons.inj (hs.symm.trans h)
      rw [hc]

/-- The walk sees the children of the nodes it expands, and nothing else. -/
theorem mem_seen_walk {w : Walk α} {x : α} :
    x ∈ (walk children w).2.seen ↔
      x ∈ w.seen ∨ ∃ y ∈ expanded children w, Lists children y x := by
  fun_induction walk children w with
  | case1 w hs => simp [expanded_nil hs]
  | case2 w a rest hs e hc => simp [expanded_error hs hc]
  | case3 w a rest hs cs hc ih =>
      rw [ih, mem_seen_visits, expanded_ok hs hc, ← lists_iff hc, or_assoc,
        List.exists_mem_cons_iff]

/-- What the walk finds is what it newly sees. -/
theorem mem_found_walk {w : Walk α} {x : α} :
    x ∈ (walk children w).2.found ↔
      x ∈ w.found ∨ (x ∉ w.seen ∧ x ∈ (walk children w).2.seen) := by
  fun_induction walk children w with
  | case1 w hs => simp
  | case2 w a rest hs e hc => simp
  | case3 w a rest hs cs hc ih =>
      -- a child was seen when it was found, so it is not found again
      have hmono : x ∈ cs → x ∈ (walk children (cs.foldl visit { w with stack := rest })).2.seen :=
        fun hx => mem_seen_walk.mpr (Or.inl (mem_seen_visits.mpr (Or.inr hx)))
      rw [ih, mem_found_visits, mem_seen_visits]
      show (x ∈ w.found ∨ (x ∈ cs ∧ x ∉ w.seen)) ∨ (¬(x ∈ w.seen ∨ x ∈ cs) ∧ _) ↔ _
      tauto

/-- A walk that fails came, from a node on its stack, to a node that cannot be expanded. -/
theorem exists_error_of_walk {w : Walk α} {e : ε} (h : (walk children w).1 = .error e) :
    ∃ a ∈ w.stack, ∃ x, Relation.ReflTransGen (Lists children) a x ∧ children x = .error e := by
  fun_induction walk children w with
  | case1 w hs => cases h
  | case2 w a rest hs e' hc =>
      cases h
      exact ⟨a, by simp [hs], a, .refl, hc⟩
  | case3 w a rest hs cs hc ih =>
      obtain ⟨b, hb, x, hreach, hx⟩ := ih h
      rw [hs]
      rcases mem_stack_visits.mp hb with hrest | ⟨hchild, -⟩
      · exact ⟨b, List.mem_cons_of_mem _ hrest, x, hreach, hx⟩
      · exact ⟨a, List.mem_cons_self, x, .head ⟨cs, hc, hchild⟩ hreach, hx⟩

/-- **What a walk leaves behind.** A node found was settled before the walk, or its children
were listed, or it was left on the stack, or it cannot be expanded. -/
theorem mem_found_cases {w : Walk α} {x : α} (h : x ∈ (walk children w).2.found) :
    (x ∈ w.found ∧ x ∉ w.stack) ∨ x ∈ expanded children w ∨ x ∈ (walk children w).2.stack ∨
      ∃ e, children x = .error e := by
  fun_induction walk children w with
  | case1 w hs => exact Or.inl ⟨h, by simp [hs]⟩
  | case2 w a rest hs e hc =>
      by_cases hx : x ∈ w.stack
      · rw [hs] at hx
        rcases List.mem_cons.mp hx with rfl | hrest
        · exact Or.inr (Or.inr (Or.inr ⟨e, hc⟩))
        · exact Or.inr (Or.inr (Or.inl hrest))
      · exact Or.inl ⟨h, hx⟩
  | case3 w a rest hs cs hc ih =>
      rw [expanded_ok hs hc, List.mem_cons]
      rcases ih h with ⟨hfound, hstack⟩ | hexp | hstack | herr
      · rw [mem_stack_visits, not_or] at hstack
        rcases mem_found_visits.mp hfound with hfound | hnew
        · -- the node popped is expanded; any other node off the stack was settled before
          by_cases hx : x = a
          · exact Or.inr (Or.inl (Or.inl hx))
          · refine Or.inl ⟨hfound, ?_⟩
            rw [hs, List.mem_cons, not_or]
            exact ⟨hx, hstack.1⟩
        · exact absurd hnew hstack.2
      · exact Or.inr (Or.inl (Or.inr hexp))
      · exact Or.inr (Or.inr (Or.inl hstack))
      · exact Or.inr (Or.inr (Or.inr herr))

end Expanded

/-! ## What a failing walk leaves on the stack -/

section Left

variable [Fintype α] {children : α → Except ε (List α)}

/-- What is left was on the stack before, or was not seen then. -/
theorem mem_stack_walk {w : Walk α} {y : α} (h : y ∈ (walk children w).2.stack) :
    y ∈ w.stack ∨ y ∉ w.seen := by
  fun_induction walk children w with
  | case1 w hs => exact Or.inl h
  | case2 w a rest hs e hc => exact Or.inl (hs ▸ List.mem_cons_of_mem a h)
  | case3 w a rest hs cs hc ih =>
      rcases ih h with hstack | hseen
      · rcases mem_stack_visits.mp hstack with hrest | ⟨-, hnew⟩
        · exact Or.inl (hs ▸ List.mem_cons_of_mem a hrest)
        · exact Or.inr hnew
      · exact Or.inr fun hold => hseen (mem_seen_visits.mpr (Or.inl hold))

theorem reached_of_mem_stack_walk {w : Walk α} {y : α} (h : y ∈ (walk children w).2.stack) :
    ∃ a ∈ w.stack, Relation.ReflTransGen (Lists children) a y := by
  fun_induction walk children w with
  | case1 w hs => exact ⟨y, h, .refl⟩
  | case2 w a rest hs e hc => exact ⟨y, hs ▸ List.mem_cons_of_mem a h, .refl⟩
  | case3 w a rest hs cs hc ih =>
      obtain ⟨b, hb, hreach⟩ := ih h
      rw [hs]
      rcases mem_stack_visits.mp hb with hrest | ⟨hchild, -⟩
      · exact ⟨b, List.mem_cons_of_mem a hrest, hreach⟩
      · exact ⟨a, List.mem_cons_self, .head ⟨cs, hc, hchild⟩ hreach⟩

/-- Every node on the stack is there once, and was seen. -/
structure Queued (w : Walk α) : Prop where
  nodup : w.stack.Nodup
  seen : ∀ a ∈ w.stack, a ∈ w.seen

omit [Fintype α] in
theorem Queued.visits {cs : List α} {w : Walk α} (h : w.Queued) : (cs.foldl visit w).Queued := by
  induction cs generalizing w with
  | nil => exact h
  | cons c cs ih =>
      rw [List.foldl_cons]
      apply ih
      by_cases hc : c ∈ w.seen
      · rw [visit, if_pos hc]
        exact h
      · rw [visit, if_neg hc]
        refine ⟨List.nodup_cons.mpr ⟨fun hmem => hc (h.seen c hmem), h.nodup⟩, fun b hb => ?_⟩
        rcases List.mem_cons.mp hb with rfl | hb
        · exact Finset.mem_insert_self _ _
        · exact Finset.mem_insert_of_mem (h.seen b hb)

/-- **How a node comes to be left.** The walk came to the node that cannot be expanded without
coming to the one it leaves. -/
theorem exists_error_past {w : Walk α} {e : ε} (hw : w.Queued)
    (h : (walk children w).1 = .error e) {y : α} (hy : y ∈ (walk children w).2.stack) :
    ∃ a ∈ w.stack, a ≠ y ∧ ∃ x,
      Relation.ReflTransGen (fun b c => Lists children b c ∧ c ≠ y) a x ∧
        children x = .error e := by
  fun_induction walk children w with
  | case1 w hs => cases h
  | case2 w a rest hs e' hc =>
      cases h
      obtain ⟨hnot, -⟩ := List.nodup_cons.mp (hs ▸ hw.nodup)
      refine ⟨a, hs ▸ List.mem_cons_self, ?_, a, .refl, hc⟩
      rintro rfl
      exact hnot hy
  | case3 w a rest hs cs hc ih =>
      obtain ⟨hnot, hrest⟩ := List.nodup_cons.mp (hs ▸ hw.nodup)
      have ha : a ∈ w.seen := hw.seen a (hs ▸ List.mem_cons_self)
      have hpopped : Queued { w with stack := rest } :=
        ⟨hrest, fun b hb => hw.seen b (hs ▸ List.mem_cons_of_mem a hb)⟩
      -- the node that was popped does not come back
      have hne : a ≠ y := by
        rintro rfl
        rcases mem_stack_walk hy with hstack | hunseen
        · rcases mem_stack_visits.mp hstack with hback | ⟨-, hnew⟩
          · exact hnot hback
          · exact hnew ha
        · exact hunseen (mem_seen_visits.mpr (Or.inl ha))
      obtain ⟨b, hb, hby, x, hreach, hx⟩ := ih hpopped.visits h hy
      rw [hs]
      rcases mem_stack_visits.mp hb with hold | ⟨hchild, -⟩
      · exact ⟨b, List.mem_cons_of_mem a hold, hby, x, hreach, hx⟩
      · exact ⟨a, List.mem_cons_self, hne, x, .head ⟨⟨cs, hc, hchild⟩, hby⟩ hreach, hx⟩

end Left

/-! ## What is found -/

/-- A walk that has found nodes with a property, each once and each seen. -/
structure Finds (p : α → Prop) (w : Walk α) : Prop where
  nodup : w.found.Nodup
  seen : ∀ a ∈ w.found, a ∈ w.seen
  found : ∀ a ∈ w.found, p a
  stack : ∀ a ∈ w.stack, p a

theorem Finds.visit {p : α → Prop} {w : Walk α} (h : w.Finds p) {a : α} (ha : p a) :
    (w.visit a).Finds p := by
  by_cases hseen : a ∈ w.seen
  · rw [Walk.visit, if_pos hseen]
    exact h
  · rw [Walk.visit, if_neg hseen]
    constructor
    · rw [List.nodup_append_comm, List.singleton_append, List.nodup_cons]
      exact ⟨fun hmem => hseen (h.seen a hmem), h.nodup⟩
    · intro b hb
      rw [Finset.mem_insert]
      rcases List.mem_append.mp hb with hb | hb
      · exact Or.inr (h.seen b hb)
      · exact Or.inl (List.mem_singleton.mp hb)
    · intro b hb
      rcases List.mem_append.mp hb with hb | hb
      · exact h.found b hb
      · rw [List.mem_singleton.mp hb]
        exact ha
    · intro b hb
      rcases List.mem_cons.mp hb with rfl | hb
      · exact ha
      · exact h.stack b hb

theorem Finds.visits {p : α → Prop} {cs : List α} {w : Walk α} (h : w.Finds p)
    (hcs : ∀ c ∈ cs, p c) : (cs.foldl Walk.visit w).Finds p := by
  induction cs generalizing w with
  | nil => exact h
  | cons c cs ih =>
      rw [List.foldl_cons]
      exact ih (h.visit (hcs c List.mem_cons_self))
        (fun d hd => hcs d (List.mem_cons_of_mem c hd))

/-- A walk finds no node that the property does not pass on to. -/
theorem Finds.walk [Fintype α] {children : α → Except ε (List α)} {p : α → Prop}
    (hp : ∀ a x, p a → Lists children a x → p x) {w : Walk α} (h : w.Finds p) :
    (Walk.walk children w).2.Finds p := by
  fun_induction Walk.walk children w with
  | case1 w hs => exact h
  | case2 w a rest hs e hc =>
      exact ⟨h.nodup, h.seen, h.found, fun b hb => h.stack b (hs ▸ List.mem_cons_of_mem a hb)⟩
  | case3 w a rest hs cs hc ih =>
      have ha : p a := h.stack a (hs ▸ List.mem_cons_self)
      apply ih
      refine Finds.visits ⟨h.nodup, h.seen, h.found, ?_⟩ fun c hcmem => hp a c ha ⟨cs, hc, hcmem⟩
      exact fun b hb => h.stack b (hs ▸ List.mem_cons_of_mem a hb)

/-! ## A walk that cannot fail -/

/-- A walk visits nothing that it has not reached past what was seen. -/
theorem reached_of_mem_seen_walk [Fintype α] {children : α → Except ε (List α)} {seen : Finset α}
    {a x : α} {w : Walk α} (hsub : ∀ b ∈ seen, b ∈ w.seen)
    (hstack : ∀ b ∈ w.stack,
      Relation.ReflTransGen (fun b c => Lists children b c ∧ c ∉ seen) a b)
    (hseen : ∀ b ∈ w.seen, b ∈ seen ∨
      Relation.ReflTransGen (fun b c => Lists children b c ∧ c ∉ seen) a b)
    (hx : x ∈ (walk children w).2.seen) :
    x ∈ seen ∨ Relation.ReflTransGen (fun b c => Lists children b c ∧ c ∉ seen) a x := by
  fun_induction walk children w with
  | case1 w hs => exact hseen x hx
  | case2 w b rest hs e hc => exact hseen x hx
  | case3 w b rest hs cs hc ih =>
      have hb := hstack b (hs ▸ List.mem_cons_self)
      have hnew : ∀ c ∈ cs, c ∉ w.seen →
          Relation.ReflTransGen (fun b c => Lists children b c ∧ c ∉ seen) a c :=
        fun c hcs hc' => hb.tail ⟨⟨cs, hc, hcs⟩, fun hold => hc' (hsub c hold)⟩
      refine ih (fun c hold => mem_seen_visits.mpr (Or.inl (hsub c hold))) ?_ ?_ hx
      · intro c hcmem
        rcases mem_stack_visits.mp hcmem with hrest | ⟨hcs, hunseen⟩
        · exact hstack c (hs ▸ List.mem_cons_of_mem b hrest)
        · exact hnew c hcs hunseen
      · intro c hcmem
        by_cases hold : c ∈ w.seen
        · exact hseen c hold
        · rcases mem_seen_visits.mp hcmem with hold' | hcs
          · exact absurd hold' hold
          · exact Or.inr (hnew c hcs hold)

section Total

variable [Fintype α] {children : α → Except ε (List α)} (hok : ∀ a, ∃ cs, children a = .ok cs)

include hok

theorem walk_ok_of_total (w : Walk α) : (walk children w).1 = .ok () := by
  fun_induction walk children w with
  | case1 w hs => rfl
  | case2 w a rest hs e hc =>
      obtain ⟨cs, hcs⟩ := hok a
      rw [hc] at hcs
      cases hcs
  | case3 w a rest hs cs hc ih => exact ih

/-- **What a walk from one node sees.** It sees what was seen before, and what the node reaches
past that: the order in which children are listed does not matter. -/
theorem mem_seen_walk_of_total {a x : α} {seen : Finset α} {found : List α} (ha : a ∉ seen)
    (hfound : ∀ b ∈ found, b ∈ seen) :
    x ∈ (walk children ⟨[a], insert a seen, found ++ [a]⟩).2.seen ↔
      x ∈ seen ∨ Relation.ReflTransGen (fun b c => Lists children b c ∧ c ∉ seen) a x := by
  constructor
  · refine reached_of_mem_seen_walk (fun b hb => Finset.mem_insert_of_mem hb) ?_ ?_
    · intro b hb
      rw [List.mem_singleton.mp hb]
    · intro b hb
      rcases Finset.mem_insert.mp hb with rfl | hb
      · exact Or.inr .refl
      · exact Or.inl hb
  · have hstack := stack_of_walk_ok (walk_ok_of_total hok ⟨[a], insert a seen, found ++ [a]⟩)
    have hkeep : ∀ b, b ∈ insert a seen →
        b ∈ (walk children ⟨[a], insert a seen, found ++ [a]⟩).2.seen :=
      fun b hb => mem_seen_walk.mpr (Or.inl hb)
    rintro (hx | hreach)
    · exact hkeep x (Finset.mem_insert_of_mem hx)
    · -- what is reached next is a child of a node found, and nothing is left on the stack
      have hall : x ∉ seen ∧ x ∈ (walk children ⟨[a], insert a seen, found ++ [a]⟩).2.seen := by
        induction hreach with
        | refl => exact ⟨ha, hkeep a (Finset.mem_insert_self a seen)⟩
        | @tail b c _ hstep ih =>
            obtain ⟨hlists, hc⟩ := hstep
            refine ⟨hc, ?_⟩
            have hbfound : b ∈ (walk children ⟨[a], insert a seen, found ++ [a]⟩).2.found := by
              rw [mem_found_walk]
              by_cases hba : b = a
              · rw [hba]
                exact Or.inl (List.mem_append_right _ List.mem_cons_self)
              · refine Or.inr ⟨?_, ih.2⟩
                rw [Finset.mem_insert, not_or]
                exact ⟨hba, ih.1⟩
            rcases mem_found_cases hbfound with ⟨hold, hnot⟩ | hexp | hleft | ⟨e, herr⟩
            · rcases List.mem_append.mp hold with hold | hold
              · exact absurd (hfound b hold) ih.1
              · exact absurd hold hnot
            · exact mem_seen_walk.mpr (Or.inr ⟨b, hexp, hlists⟩)
            · rw [hstack] at hleft
              cases hleft
            · obtain ⟨cs, hcs⟩ := hok b
              rw [herr] at hcs
              cases hcs
      exact hall.2

end Total

end Walk

/-! ## Paths inside a set -/

/-- Two relations that agree inside a set that neither leaves have the same paths there. -/
theorem path_inside {p : α → Prop} {r s : α → α → Prop}
    (hstep : ∀ a b, p a → r a b → s a b ∧ p b) {a b : α} (ha : p a)
    (hpath : Relation.ReflTransGen r a b) : Relation.ReflTransGen s a b ∧ p b := by
  induction hpath with
  | refl => exact ⟨.refl, ha⟩
  | @tail b c _ hlast ih =>
      obtain ⟨hlast', hc⟩ := hstep b c ih.2 hlast
      exact ⟨ih.1.tail hlast', hc⟩

end Osfacts
