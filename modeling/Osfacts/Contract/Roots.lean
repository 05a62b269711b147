import Osfacts.Linux.CollectPids

set_option autoImplicit false

/-! # What the walks from the roots return

The loop over the roots as a sequence of turns: a root that is seen already is skipped, a root
without a directory in `/proc` is missing, and from any other root a walk starts. What the loop
returns is told by what the walks expand, what they abandon and which roots are missing.
-/

namespace Osfacts.Linux

/-! ## Turns -/

/-- `y` lists `x` among its children. -/
abbrev ProcGraph.Lists (g : ProcGraph) (y x : Pid) : Prop := Walk.Lists g.childrenOf y x

/-- The walk from root `r` in the state `c`. -/
def walkFrom (g : ProcGraph) (c : Collected) (r : Pid) : Except Errno Unit × Walk Pid :=
  descend g r (insert r c.seen) (c.out ++ [r])

/-- The pids whose children that walk lists. -/
def expandedFrom (g : ProcGraph) (c : Collected) (r : Pid) : List Pid :=
  Walk.expanded g.childrenOf ⟨[r], insert r c.seen, c.out ++ [r]⟩

/-- The loop reaches root `r` in the state `c`, and `r` was not seen before. -/
def Turn (g : ProcGraph) (roots : List Pid) (c : Collected) (r : Pid) : Prop :=
  (∃ pre post, roots = pre ++ r :: post ∧ c = collectRoots g pre []) ∧ r ∉ c.seen

/-- A root that does not exist and that no walk has seen when its turn comes. -/
def MissingRoot (g : ProcGraph) (roots : List Pid) (r : Pid) : Prop :=
  ∃ c, Turn g roots c r ∧ g.pathExists r = false

/-- A root whose own walk fails. -/
def FailedRoot (g : ProcGraph) (roots : List Pid) (r : Pid) (err : Errno) : Prop :=
  ∃ c, Turn g roots c r ∧ g.pathExists r = true ∧ (walkFrom g c r).1 = .error err

/-- A pid that a failing walk leaves in its queue. -/
def Abandoned (g : ProcGraph) (roots : List Pid) (y : Pid) : Prop :=
  ∃ c r err, Turn g roots c r ∧ g.pathExists r = true ∧ (walkFrom g c r).1 = .error err ∧
    y ∈ (walkFrom g c r).2.stack

/-- A pid whose children some walk lists. -/
def Expanded (g : ProcGraph) (roots : List Pid) (y : Pid) : Prop :=
  ∃ c r, Turn g roots c r ∧ g.pathExists r = true ∧ y ∈ expandedFrom g c r

section Loop

variable {g : ProcGraph}

theorem collectRoots_concat (roots : List Pid) (r : Pid) (us : List Unreadable) :
    collectRoots g (roots ++ [r]) us = collectRoot g (collectRoots g roots us) r :=
  List.foldl_concat _ _ _ _

/-- The turns of a longer list: the turns of its front, and the turn of its last root. -/
theorem turn_concat {roots : List Pid} {r s : Pid} {c : Collected} :
    Turn g (roots ++ [r]) c s ↔
      Turn g roots c s ∨ (s = r ∧ c = collectRoots g roots [] ∧ r ∉ c.seen) := by
  constructor
  · rintro ⟨⟨pre, post, hroots, hc⟩, hs⟩
    rcases List.eq_nil_or_concat post with rfl | ⟨post, b, rfl⟩
    · obtain ⟨rfl, hrs⟩ := List.append_inj' hroots rfl
      obtain rfl : r = s := by simpa using hrs
      exact Or.inr ⟨rfl, hc, hs⟩
    · rw [List.concat_eq_append, ← List.cons_append, ← List.append_assoc] at hroots
      obtain ⟨rfl, -⟩ := List.append_inj' hroots rfl
      exact Or.inl ⟨⟨pre, post, rfl, hc⟩, hs⟩
  · rintro (⟨⟨pre, post, rfl, hc⟩, hs⟩ | ⟨rfl, hc, hs⟩)
    · exact ⟨⟨pre, post ++ [r], by simp, hc⟩, hs⟩
    · exact ⟨⟨roots, [], rfl, hc⟩, hs⟩

theorem not_turn_nil {c : Collected} {s : Pid} : ¬ Turn g [] c s := by
  rintro ⟨⟨pre, post, h, -⟩, -⟩
  simp at h

/-- What holds at some turn of `s` holds at an earlier one, or at the last one. -/
theorem exists_turn_concat {roots : List Pid} {r s : Pid} {P : Collected → Prop} :
    (∃ c, Turn g (roots ++ [r]) c s ∧ P c) ↔ (∃ c, Turn g roots c s ∧ P c) ∨
      (s = r ∧ r ∉ (collectRoots g roots []).seen ∧ P (collectRoots g roots [])) := by
  simp only [turn_concat]
  constructor
  · rintro ⟨c, hturn | ⟨rfl, rfl, hseen⟩, hc⟩
    · exact Or.inl ⟨c, hturn, hc⟩
    · exact Or.inr ⟨rfl, hseen, hc⟩
  · rintro (⟨c, hturn, hc⟩ | ⟨rfl, hseen, hc⟩)
    · exact ⟨c, Or.inl hturn, hc⟩
    · exact ⟨_, Or.inr ⟨rfl, rfl, hseen⟩, hc⟩

/-! ## One turn -/

theorem collectRoot_seen {c : Collected} {r : Pid} (h : r ∈ c.seen) : collectRoot g c r = c :=
  if_pos h

theorem collectRoot_missing {c : Collected} {r : Pid} (h : r ∉ c.seen)
    (hr : g.pathExists r = false) :
    collectRoot g c r = ⟨insert r c.seen, c.out,
      pushUnreadableRow c.unreadable r .proc Libc.ENOENT⟩ := by
  rw [collectRoot, if_neg h, if_pos (by simp [hr])]

/-- The `U` rows a walk from `r` leaves. -/
def walkBlame (r : Pid) : Except Errno Unit → List Unreadable
  | .ok _ => []
  | .error err => [⟨r, .proc, errnoName err⟩]

theorem collectRoot_walk {c : Collected} {r : Pid} (h : r ∉ c.seen)
    (hr : g.pathExists r = true) :
    collectRoot g c r = ⟨(walkFrom g c r).2.seen, (walkFrom g c r).2.found,
      c.unreadable ++ walkBlame r (walkFrom g c r).1⟩ := by
  rw [collectRoot, if_neg h, if_neg (by simp [hr]), walkFrom]
  rcases descend g r (insert r c.seen) (c.out ++ [r]) with ⟨_ | _, w⟩
  · rfl
  · simp [walkBlame]

theorem mem_seen_walkFrom {c : Collected} {r x : Pid} :
    x ∈ (walkFrom g c r).2.seen ↔
      x ∈ c.seen ∨ x = r ∨ ∃ y ∈ expandedFrom g c r, g.Lists y x := by
  rw [walkFrom, descend, Walk.mem_seen_walk, ← or_assoc]
  refine or_congr ?_ Iff.rfl
  rw [Finset.mem_insert]
  exact or_comm

theorem mem_out_walkFrom {c : Collected} {r x : Pid} :
    x ∈ (walkFrom g c r).2.found ↔
      x ∈ c.out ∨ x = r ∨ (x ∉ c.seen ∧ x ∈ (walkFrom g c r).2.seen) := by
  rw [walkFrom, descend, Walk.mem_found_walk, Finset.mem_insert, List.mem_append,
    List.mem_singleton, or_assoc]
  tauto

/-! ## The whole loop -/

theorem missingRoot_concat {roots : List Pid} {r x : Pid} :
    MissingRoot g (roots ++ [r]) x ↔ MissingRoot g roots x ∨
      (x = r ∧ r ∉ (collectRoots g roots []).seen ∧ g.pathExists r = false) := by
  rw [MissingRoot, exists_turn_concat]
  refine or_congr Iff.rfl (and_congr_right ?_)
  rintro rfl
  exact Iff.rfl

theorem failedRoot_concat {roots : List Pid} {r x : Pid} {err : Errno} :
    FailedRoot g (roots ++ [r]) x err ↔ FailedRoot g roots x err ∨
      (x = r ∧ r ∉ (collectRoots g roots []).seen ∧ g.pathExists r = true ∧
        (walkFrom g (collectRoots g roots []) r).1 = .error err) := by
  rw [FailedRoot, exists_turn_concat]
  refine or_congr Iff.rfl (and_congr_right ?_)
  rintro rfl
  exact Iff.rfl

theorem expanded_concat {roots : List Pid} {r y : Pid} :
    Expanded g (roots ++ [r]) y ↔ Expanded g roots y ∨
      (r ∉ (collectRoots g roots []).seen ∧ g.pathExists r = true ∧
        y ∈ expandedFrom g (collectRoots g roots []) r) := by
  have hswap : ∀ roots, Expanded g roots y ↔
      ∃ r c, Turn g roots c r ∧ g.pathExists r = true ∧ y ∈ expandedFrom g c r :=
    fun _ => exists_comm
  rw [hswap, hswap]
  simp only [exists_turn_concat, exists_or, exists_eq_left]

/-- The pids seen are the roots and the children of what was expanded. -/
theorem mem_seen_collectRoots {roots : List Pid} {x : Pid} :
    x ∈ (collectRoots g roots []).seen ↔
      x ∈ roots ∨ ∃ y, Expanded g roots y ∧ g.Lists y x := by
  -- on the last root: what its turn adds to the turns before
  induction roots using List.reverseRecOn with
  | nil =>
      have hnone : ∀ y, ¬ Expanded g [] y := fun y ⟨_, _, hturn, _⟩ => not_turn_nil hturn
      simp [collectRoots, hnone]
  | append_singleton roots r ih =>
      rw [collectRoots_concat, List.mem_append, List.mem_singleton]
      simp only [expanded_concat]
      by_cases hr : r ∈ (collectRoots g roots []).seen
      · rw [collectRoot_seen hr, ih]
        -- a root that is skipped was a root or a child before
        have hroot : x = r → x ∈ roots ∨ ∃ y, Expanded g roots y ∧ g.Lists y x := by
          rintro rfl
          exact ih.mp hr
        simp only [hr, not_true_eq_false, false_and, or_false]
        tauto
      · cases hex : g.pathExists r with
        | false =>
            rw [collectRoot_missing hr hex, Finset.mem_insert, ih]
            simp only [Bool.false_eq_true, false_and, and_false, or_false]
            tauto
        | true =>
            rw [collectRoot_walk hr hex]
            show x ∈ (walkFrom g (collectRoots g roots []) r).2.seen ↔ _
            rw [mem_seen_walkFrom, ih]
            simp only [hr, not_false_eq_true, true_and, or_and_right, exists_or]
            exact or_or_or_comm

/-- Of the pids seen, the missing roots alone are not returned. -/
theorem mem_seen_iff_out {roots : List Pid} {x : Pid} :
    (x ∈ (collectRoots g roots []).seen ↔
      x ∈ (collectRoots g roots []).out ∨ MissingRoot g roots x) ∧
    (MissingRoot g roots x → x ∉ (collectRoots g roots []).out) := by
  induction roots using List.reverseRecOn with
  | nil =>
      have hnone : ¬ MissingRoot g [] x := fun ⟨_, hturn, _⟩ => not_turn_nil hturn
      simp [collectRoots, hnone]
  | append_singleton roots r ih =>
      obtain ⟨hseen, hout⟩ := ih
      rw [collectRoots_concat, missingRoot_concat]
      by_cases hr : r ∈ (collectRoots g roots []).seen
      · rw [collectRoot_seen hr]
        simp only [hr, not_true_eq_false, false_and, and_false, or_false]
        exact ⟨hseen, hout⟩
      · cases hex : g.pathExists r with
        | false =>
            rw [collectRoot_missing hr hex]
            simp only [Finset.mem_insert, hr, not_false_eq_true, and_true]
            -- a missing root was not returned before its turn, and is not by it
            have hnew : x = r → x ∉ (collectRoots g roots []).out := by
              rintro rfl hx
              exact hr (hseen.mpr (Or.inl hx))
            tauto
        | true =>
            have hmono : x ∈ (collectRoots g roots []).seen →
                x ∈ (walkFrom g (collectRoots g roots []) r).2.seen :=
              fun hx => mem_seen_walkFrom.mpr (Or.inl hx)
            have hself : x = r → x ∈ (walkFrom g (collectRoots g roots []) r).2.seen :=
              fun hx => mem_seen_walkFrom.mpr (Or.inr (Or.inl hx))
            have hnot : MissingRoot g roots x → x ≠ r := by
              rintro hx rfl
              exact hr (hseen.mpr (Or.inr hx))
            rw [collectRoot_walk hr hex]
            simp only [mem_out_walkFrom, Bool.true_eq_false, and_false, or_false]
            tauto

/-- **What the loop leaves behind.** A pid returned was expanded, was abandoned by a failing
walk, or cannot list its children. -/
theorem mem_out_cases {roots : List Pid} {x : Pid} (h : x ∈ (collectRoots g roots []).out) :
    Expanded g roots x ∨ Abandoned g roots x ∨ ∃ err, g.childrenOf x = .error err := by
  induction roots using List.reverseRecOn with
  | nil => simp [collectRoots] at h
  | append_singleton roots r ih =>
      -- what earlier turns leave behind, this turn does not undo
      have hlift : x ∈ (collectRoots g roots []).out →
          Expanded g (roots ++ [r]) x ∨ Abandoned g (roots ++ [r]) x ∨
            ∃ err, g.childrenOf x = .error err := by
        intro hx
        rcases ih hx with hexp | ⟨c, s, err, hturn, hab⟩ | herr
        · exact Or.inl (expanded_concat.mpr (Or.inl hexp))
        · exact Or.inr (Or.inl ⟨c, s, err, turn_concat.mpr (Or.inl hturn), hab⟩)
        · exact Or.inr (Or.inr herr)
      rw [collectRoots_concat] at h
      by_cases hr : r ∈ (collectRoots g roots []).seen
      · rw [collectRoot_seen hr] at h
        exact hlift h
      · cases hex : g.pathExists r with
        | false =>
            rw [collectRoot_missing hr hex] at h
            exact hlift h
        | true =>
            rw [collectRoot_walk hr hex] at h
            change x ∈ (Walk.walk g.childrenOf _).2.found at h
            rcases Walk.mem_found_cases h with ⟨hfound, hstack⟩ | hexp | hstack | herr
            · rcases List.mem_append.mp hfound with hx | hx
              · exact hlift hx
              · exact absurd hx hstack
            · exact Or.inl (expanded_concat.mpr (Or.inr ⟨hr, hex, hexp⟩))
            · -- a walk that does not fail leaves no queue
              cases hfail : (walkFrom g (collectRoots g roots []) r).1 with
              | ok u =>
                  rw [Walk.stack_of_walk_ok hfail] at hstack
                  cases hstack
              | error err =>
                  exact Or.inr (Or.inl ⟨_, r, err, turn_concat.mpr (Or.inr ⟨rfl, rfl, hr⟩),
                    hex, hfail, hstack⟩)
            · exact Or.inr (Or.inr herr)

/-- The `U` rows of the loop: one for each missing root, one for each root whose walk fails. -/
theorem mem_unreadable_collectRoots {roots : List Pid} {u : Unreadable} :
    u ∈ (collectRoots g roots []).unreadable ↔
      (∃ r, MissingRoot g roots r ∧ u = ⟨r, .proc, errnoName Libc.ENOENT⟩) ∨
      ∃ r err, FailedRoot g roots r err ∧ u = ⟨r, .proc, errnoName err⟩ := by
  induction roots using List.reverseRecOn with
  | nil =>
      have hmissing : ∀ r, ¬ MissingRoot g [] r := fun _ ⟨_, hturn, _⟩ => not_turn_nil hturn
      have hfailed : ∀ r err, ¬ FailedRoot g [] r err :=
        fun _ _ ⟨_, hturn, _⟩ => not_turn_nil hturn
      simp [collectRoots, hmissing, hfailed]
  | append_singleton roots r ih =>
      rw [collectRoots_concat]
      simp only [missingRoot_concat, failedRoot_concat]
      by_cases hr : r ∈ (collectRoots g roots []).seen
      · rw [collectRoot_seen hr, ih]
        simp only [hr, not_true_eq_false, false_and, and_false, or_false]
      · cases hex : g.pathExists r with
        | false =>
            rw [collectRoot_missing hr hex]
            show u ∈ _ ++ [_] ↔ _
            rw [List.mem_append, List.mem_singleton, ih]
            simp only [hr, not_false_eq_true, and_true, Bool.false_eq_true, false_and, and_false,
              or_false, or_and_right, exists_or, exists_eq_left]
            exact or_right_comm
        | true =>
            rw [collectRoot_walk hr hex]
            show u ∈ _ ++ _ ↔ _
            rw [List.mem_append, ih]
            simp only [hr, not_false_eq_true, true_and, Bool.true_eq_false, and_false,
              or_false, or_and_right, exists_or, or_assoc]
            refine or_congr Iff.rfl (or_congr Iff.rfl ?_)
            -- a turn blames its own root, and only where its walk fails
            cases hwalk : (walkFrom g (collectRoots g roots []) r).1 with
            | ok v => simp [walkBlame]
            | error err => simp [walkBlame]

/-! ## Completeness -/

/-- An existing root that was not blamed: its own walk, if it had one, did not fail. -/
theorem exists_blame_root {roots : List Pid} {r : Pid} (hr : g.pathExists r = true) :
    (∃ u ∈ (collectRoots g roots []).unreadable, u.pid = r ∧ u.facet = .proc) ↔
      ∃ err, FailedRoot g roots r err := by
  constructor
  · rintro ⟨u, hu, hpid, -⟩
    rcases mem_unreadable_collectRoots.mp hu with ⟨s, ⟨c, -, hs⟩, rfl⟩ | ⟨s, err, hfailed, rfl⟩
    · obtain rfl : s = r := hpid
      rw [hr] at hs
      cases hs
    · obtain rfl : s = r := hpid
      exact ⟨err, hfailed⟩
  · rintro ⟨err, hfailed⟩
    exact ⟨_, mem_unreadable_collectRoots.mpr (Or.inr ⟨r, err, hfailed, rfl⟩), rfl, rfl⟩

end Loop

/-- Every existing root without a `U proc` row has all it reaches in the output. -/
def Complete (g : ProcGraph) (roots : List Pid) : Prop :=
  ∀ r ∈ roots, g.pathExists r = true →
    (¬ ∃ u ∈ (collectRoots g roots []).unreadable, u.pid = r ∧ u.facet = .proc) →
    ∀ x, Relation.ReflTransGen g.Lists r x → x ∈ (collectRoots g roots []).out

/-- A root whose walk fails has a pid below it whose children cannot be listed. -/
theorem FailedRoot.exists_error {g : ProcGraph} {roots : List Pid} {r : Pid} {err : Errno}
    (h : FailedRoot g roots r err) :
    ∃ y, Relation.ReflTransGen g.Lists r y ∧ g.childrenOf y = .error err := by
  obtain ⟨c, -, -, hwalk⟩ := h
  obtain ⟨a, ha, y, hreach, hy⟩ := Walk.exists_error_of_walk hwalk
  rw [List.mem_singleton.mp ha] at hreach
  exact ⟨y, hreach, hy⟩

/-- What a root reaches is returned, where it does not come to a missing root, and lists nothing
that it has in common with a pid a failing walk abandoned. -/
theorem mem_out_of_reached {g : ProcGraph} {roots : List Pid} {r x : Pid} (hr : r ∈ roots)
    (hkept : ∀ y, Relation.ReflTransGen g.Lists r y → ¬ MissingRoot g roots y ∧
      (Abandoned g roots y → ∀ z, ¬ g.Lists y z))
    (hx : Relation.ReflTransGen g.Lists r x) : x ∈ (collectRoots g roots []).out := by
  have hout : ∀ z, Relation.ReflTransGen g.Lists r z → z ∈ (collectRoots g roots []).seen →
      z ∈ (collectRoots g roots []).out :=
    fun z hz hs => (mem_seen_iff_out.1.mp hs).resolve_right (hkept z hz).1
  -- along the path: what is in the output was expanded, for it lists the next pid
  induction hx with
  | refl => exact hout r .refl (mem_seen_collectRoots.mpr (Or.inl hr))
  | @tail y z hy hz ih =>
      apply hout z (hy.tail hz)
      rw [mem_seen_collectRoots]
      rcases mem_out_cases ih with hexp | habandoned | ⟨err, herr⟩
      · exact Or.inr ⟨y, hexp, hz⟩
      · exact absurd hz ((hkept y hy).2 habandoned z)
      · obtain ⟨cs, hcs, -⟩ := hz
        rw [herr] at hcs
        cases hcs

/-! ## Roots that share nothing -/

/-- `r` comes after `a` in the list, and not before it. -/
def Later (roots : List Pid) (a r : Pid) : Prop :=
  ∃ pre post, roots = pre ++ a :: post ∧ r ∈ post ∧ r ∉ pre ∧ r ≠ a

/-- `a` reaches a pid that cannot list its children without coming to `y`. -/
def ProcGraph.FailsPast (g : ProcGraph) (a y : Pid) : Prop :=
  a ≠ y ∧ ∃ f, Relation.ReflTransGen (fun b c => g.Lists b c ∧ c ≠ y) a f ∧
    ∃ err, g.childrenOf f = .error err

/-- A root has nothing to lose to a root before it: it does not reach one that does not exist,
and whatever it reaches together with one that can fail past that pid lists no children. -/
structure Unshared (g : ProcGraph) (roots : List Pid) : Prop where
  missing : ∀ a r, Later roots a r → g.pathExists a = false → g.pathExists r = true →
    ¬ Relation.ReflTransGen g.Lists r a
  failing : ∀ a r, Later roots a r → g.pathExists a = true → g.pathExists r = true →
    ∀ y, Relation.ReflTransGen g.Lists a y → Relation.ReflTransGen g.Lists r y →
      g.FailsPast a y → ∀ x, ¬ g.Lists y x

section Unshared

variable {g : ProcGraph} {roots : List Pid} {r : Pid}

theorem Turn.mem {c : Collected} (h : Turn g roots c r) : r ∈ roots := by
  obtain ⟨⟨pre, post, rfl, -⟩, -⟩ := h
  exact List.mem_append_right pre List.mem_cons_self

theorem Abandoned.cases {y : Pid} (h : Abandoned g roots y) :
    ∃ a ∈ roots, g.pathExists a = true ∧ (∃ err, FailedRoot g roots a err) ∧
      Relation.ReflTransGen g.Lists a y ∧ g.FailsPast a y := by
  obtain ⟨c, a, err, hturn, hex, hfail, hy⟩ := h
  have hqueued : Walk.Queued ⟨[a], insert a c.seen, c.out ++ [a]⟩ :=
    ⟨List.nodup_singleton a, List.forall_mem_singleton.mpr (Finset.mem_insert_self a c.seen)⟩
  obtain ⟨b, hb, hreach⟩ := Walk.reached_of_mem_stack_walk hy
  obtain ⟨b', hb', hne, f, hpast, herr⟩ := Walk.exists_error_past hqueued hfail hy
  rw [List.mem_singleton.mp hb] at hreach
  rw [List.mem_singleton.mp hb'] at hne hpast
  exact ⟨a, hturn.mem, hex, ⟨err, c, hturn, hex, hfail⟩, hreach, hne, f, hpast, err, herr⟩

/-- A root comes after every root of the list before it, unless it is one of them. -/
theorem later_concat {a : Pid} (ha : a ∈ roots) (hr : r ∉ roots) : Later (roots ++ [r]) a r := by
  obtain ⟨pre, post, rfl⟩ := List.append_of_mem ha
  simp only [List.mem_append, List.mem_cons, not_or] at hr
  exact ⟨pre, post ++ [r], by simp, by simp, hr.1, hr.2.1⟩

theorem Unshared.of_concat (h : Unshared g (roots ++ [r])) : Unshared g roots := by
  have hlater : ∀ {a s}, Later roots a s → Later (roots ++ [r]) a s := by
    rintro a s ⟨pre, post, rfl, hs, hnot, hne⟩
    exact ⟨pre, post ++ [r], by simp, List.mem_append_left _ hs, hnot, hne⟩
  exact ⟨fun a s hl => h.missing a s (hlater hl), fun a s hl => h.failing a s (hlater hl)⟩

theorem mem_out_collectRoot {c : Collected} {x : Pid} (h : x ∈ c.out) :
    x ∈ (collectRoot g c r).out := by
  by_cases hr : r ∈ c.seen
  · rw [collectRoot_seen hr]
    exact h
  · cases hex : g.pathExists r with
    | false =>
        rw [collectRoot_missing hr hex]
        exact h
    | true =>
        rw [collectRoot_walk hr hex]
        exact mem_out_walkFrom.mpr (Or.inl h)

/-- The last root is complete, where none before it takes anything from it. -/
theorem Unshared.mem_out_last (h : Unshared g (roots ++ [r])) (hnew : r ∉ roots)
    (hex : g.pathExists r = true) (hnofail : ∀ err, ¬ FailedRoot g (roots ++ [r]) r err) {x : Pid}
    (hx : Relation.ReflTransGen g.Lists r x) : x ∈ (collectRoots g (roots ++ [r]) []).out := by
  have hearlier : ∀ a ∈ roots ++ [r], a ≠ r → a ∈ roots := by
    intro a ha hne
    rcases List.mem_append.mp ha with ha | ha
    · exact ha
    · exact absurd (List.mem_singleton.mp ha) hne
  refine mem_out_of_reached (List.mem_append_right _ List.mem_cons_self) (fun y hy => ?_) hx
  constructor
  · rintro ⟨c, hturn, hgone⟩
    have hne : y ≠ r := by
      rintro rfl
      rw [hex] at hgone
      cases hgone
    exact h.missing y r (later_concat (hearlier y hturn.mem hne) hnew) hgone hex hy
  · intro habandoned
    obtain ⟨a, ha, haex, ⟨err, hfailed⟩, hreach, hpast⟩ := habandoned.cases
    have hne : a ≠ r := by
      rintro rfl
      exact hnofail err hfailed
    exact h.failing a r (later_concat (hearlier a ha hne) hnew) haex hex y hreach hy hpast

end Unshared

/-- So it is where every root exists and every pid below one can list its children. -/
theorem unshared_of_listed {g : ProcGraph} {roots : List Pid}
    (hex : ∀ r ∈ roots, g.pathExists r = true)
    (hlisted : ∀ r ∈ roots, ∀ y, Relation.ReflTransGen g.Lists r y →
      ∀ err, g.childrenOf y ≠ .error err) : Unshared g roots := by
  have hmem : ∀ {a r}, Later roots a r → a ∈ roots := by
    rintro a r ⟨pre, post, rfl, -⟩
    simp
  constructor
  · intro a r hlater hgone
    rw [hex a (hmem hlater)] at hgone
    cases hgone
  · rintro a r hlater - - y - - ⟨-, f, hpast, err, herr⟩
    have hreach : Relation.ReflTransGen g.Lists a f :=
      Relation.ReflTransGen.mono (fun _ _ hstep => hstep.1) a f hpast
    exact absurd herr (hlisted a (hmem hlater) f hreach err)

/-- Two roots, 1 and 5, both above 2. The listing of 3 fails below 1 while 2 waits. -/
def lossyGraph : ProcGraph where
  pathExists _ := true
  childrenOf pid :=
    if pid = 1 then .ok [2, 3]
    else if pid = 2 then .ok [4]
    else if pid = 3 then .error Libc.EIO
    else if pid = 5 then .ok [2]
    else .ok []

theorem collectRoots_lossy :
    collectRoots lossyGraph [1, 5] []
      = ⟨{5, 3, 2, 1}, [1, 2, 3, 5], [⟨1, .proc, errnoName Libc.EIO⟩]⟩ := by
  have hfirst : collectRoot lossyGraph ⟨∅, [], []⟩ 1
      = ⟨{3, 2, 1}, [1, 2, 3], [⟨1, .proc, errnoName Libc.EIO⟩]⟩ := by
    have hwalk : walkFrom lossyGraph ⟨∅, [], []⟩ 1
        = (.error Libc.EIO, ⟨[2], {3, 2, 1}, [1, 2, 3]⟩) := by
      show Walk.walk lossyGraph.childrenOf ⟨[1], {1}, [1]⟩ = _
      rw [Walk.walk_ok rfl rfl]
      exact Walk.walk_error rfl rfl
    rw [collectRoot_walk (by decide) rfl, hwalk]
    rfl
  have hsecond : walkFrom lossyGraph
      ⟨{3, 2, 1}, [1, 2, 3], [⟨1, .proc, errnoName Libc.EIO⟩]⟩ 5
      = (.ok (), ⟨[], {5, 3, 2, 1}, [1, 2, 3, 5]⟩) := by
    show Walk.walk lossyGraph.childrenOf ⟨[5], {5, 3, 2, 1}, [1, 2, 3, 5]⟩ = _
    rw [Walk.walk_ok rfl rfl]
    exact Walk.walk_nil rfl
  show collectRoot lossyGraph (collectRoot lossyGraph ⟨∅, [], []⟩ 1) 5 = _
  rw [hfirst, collectRoot_walk (by decide) rfl, hsecond]
  rfl

end Osfacts.Linux
