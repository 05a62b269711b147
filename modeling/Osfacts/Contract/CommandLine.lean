import Osfacts.Contract.Verbs

set_option autoImplicit false

/-! # The snapshot command line

The flags of a snapshot may stand in any order and may be repeated. What they denote is the set of
facets they name, the last scope they name, and whether JSON was asked; a line that names both
kinds of scope, or no facet, is refused.
-/

namespace Osfacts

open Client

/-! ## The items of a command line -/

inductive Item where
  | flag (f : Flag)
  | scope (kind : ScopeFlag) (list : List Nat)
  | json
  deriving DecidableEq, Repr

namespace Item

/-- How an item is written. -/
def args : Item → List Text
  | flag f => [(SNAPSHOT_FACET_NAMES f).arg]
  | scope kind list => [kind.arg, joinPids list]
  | json => ["--json".toList]

/-- A scope names some pids, and each is one. -/
def Valid : Item → Prop
  | scope _ list => list ≠ [] ∧ ∀ n ∈ list, 1 ≤ n ∧ n < 2 ^ 32
  | _ => True

instance : (item : Item) → Decidable item.Valid
  | flag _ => inferInstanceAs (Decidable True)
  | scope _ list => inferInstanceAs (Decidable (list ≠ [] ∧ ∀ n ∈ list, 1 ≤ n ∧ n < 2 ^ 32))
  | json => inferInstanceAs (Decidable True)

/-- The pids of an item that is a scope of a kind. -/
def pidsOf (kind : ScopeFlag) : Item → Option (List Pid)
  | scope kind' list => if kind' = kind then some (list.map UInt32.ofNat) else none
  | _ => none

/-- One item, on what was gathered before it. -/
def add (acc : SnapshotAcc) : Item → Except CliError SnapshotAcc
  | flag f => .ok { acc with out := acc.out.set f }
  | scope .roots list =>
      if acc.pids.isSome then .error exclusiveScopes
      else .ok { acc with roots := some (list.map UInt32.ofNat) }
  | scope .pids list =>
      if acc.roots.isSome then .error exclusiveScopes
      else .ok { acc with pids := some (list.map UInt32.ofNat) }
  | json => .ok { acc with out := { acc.out with json := true } }

end Item

/-- The arguments after the verb. -/
def itemArgs (items : List Item) : List Text := items.flatMap Item.args

/-- The last scope of a kind. -/
def lastOf (kind : ScopeFlag) (items : List Item) : Option (List Pid) :=
  items.reverse.findSome? (Item.pidsOf kind)

/-- Both kinds of scope are named. -/
def Mixed (items : List Item) : Prop :=
  (lastOf .roots items).isSome = true ∧ (lastOf .pids items).isSome = true

instance (items : List Item) : Decidable (Mixed items) := inferInstanceAs (Decidable (_ ∧ _))

/-- What the flags of a command line denote. -/
def denoted (scope : Scope) (items : List Item) : SnapshotArgs :=
  { SnapshotArgs.ofAsk scope (fun f => decide (Item.flag f ∈ items)) with
    json := decide (Item.json ∈ items) }

/-! ## The loop -/

section Loop

variable {L : Lexopt} {ready finished : L.Parser → List Bytes → Prop} {pending : L.Parser → Prop}

/-- The value of a scope. -/
theorem pidListValue_of_ready (hL : L.Lawful ready finished pending) {list : List Nat}
    (hne : list ≠ []) (hlist : ∀ n ∈ list, 1 ≤ n ∧ n < 2 ^ 32) {rest : List Bytes} {p : L.Parser}
    (hp : ready p (Utf8.encode (joinPids list) :: rest)) :
    pidListValue L p = (.ok (list.map UInt32.ofNat), (L.value p).2) ∧ ready (L.value p).2 rest := by
  obtain ⟨hvalue, hrest⟩ := hL.value_next _ _ _ hp
  refine ⟨?_, hrest⟩
  rw [pidListValue]
  rcases hv : L.value p with ⟨r, q⟩
  rw [hv] at hvalue
  obtain rfl : r = .ok (Utf8.encode (joinPids list)) := hvalue
  show (parsePidList (Utf8.encode (joinPids list)), q) = _
  rw [parsePidList_joinPids hne hlist]

/-- The step on the name of a scope. -/
theorem snapshotStep_scope (kind : ScopeFlag) {acc : SnapshotAcc} {list : List Nat}
    {p p' : L.Parser} (hvalue : pidListValue L p = (.ok (list.map UInt32.ofNat), p')) :
    (∃ acc', Item.add acc (.scope kind list) = .ok acc' ∧
      snapshotStep L acc (.long (kind.arg.drop 2)) p = (.ok acc', p')) ∨
    ∃ e, Item.add acc (.scope kind list) = .error e ∧
      snapshotStep L acc (.long (kind.arg.drop 2)) p = (.error e, p) := by
  cases kind with
  | roots =>
      show (∃ acc', (if acc.pids.isSome then _ else _) = _ ∧ (if acc.pids.isSome then _ else _) = _) ∨
        ∃ e, (if acc.pids.isSome then _ else _) = _ ∧ (if acc.pids.isSome then _ else _) = _
      cases acc.pids.isSome
      · refine Or.inl ⟨_, rfl, ?_⟩
        show ((pidListValue L p).1.map _, (pidListValue L p).2) = _
        rw [hvalue]
        rfl
      · exact Or.inr ⟨_, rfl, rfl⟩
  | pids =>
      show (∃ acc', (if acc.roots.isSome then _ else _) = _ ∧
          (if acc.roots.isSome then _ else _) = _) ∨
        ∃ e, (if acc.roots.isSome then _ else _) = _ ∧ (if acc.roots.isSome then _ else _) = _
      cases acc.roots.isSome
      · refine Or.inl ⟨_, rfl, ?_⟩
        show ((pidListValue L p).1.map _, (pidListValue L p).2) = _
        rw [hvalue]
        rfl
      · exact Or.inr ⟨_, rfl, rfl⟩

/-- One item is one turn of the loop. -/
theorem loop_item (hL : L.Lawful ready finished pending) {item : Item} (hvalid : item.Valid)
    {rest : List Bytes} {p : L.Parser} (hp : ready p (item.args.map Utf8.encode ++ rest))
    (fuel : Nat) (acc : SnapshotAcc) :
    (∃ acc' p', item.add acc = .ok acc' ∧ ready p' rest ∧
      parseLoop L (snapshotStep L) (fuel + 1) p acc
        = parseLoop L (snapshotStep L) fuel p' acc') ∨
    ∃ e, item.add acc = .error e ∧
      parseLoop L (snapshotStep L) (fuel + 1) p acc = some (.error e) := by
  cases item with
  | flag f =>
      change ready p (Utf8.encode (SNAPSHOT_FACET_NAMES f).arg :: rest) at hp
      rw [arg_eq] at hp
      obtain ⟨hnext, hready⟩ :=
        hL.next_long p (flagName f) _ (by cases f <;> decide) (by cases f <;> decide) hp
      exact Or.inl ⟨_, _, rfl, hready, parseLoop_step fuel hnext (snapshotStep_flag acc f _)⟩
  | json =>
      obtain ⟨hnext, hready⟩ := hL.next_long p "json".toList rest (by decide) (by decide) hp
      exact Or.inl ⟨_, _, rfl, hready, parseLoop_step fuel hnext rfl⟩
  | scope kind list =>
      obtain ⟨hne, hlist⟩ := hvalid
      change ready p (Utf8.encode kind.arg :: Utf8.encode (joinPids list) :: rest) at hp
      have harg : kind.arg = "--".toList ++ kind.arg.drop 2 := by cases kind <;> rfl
      rw [harg] at hp
      obtain ⟨hnext, hready⟩ := hL.next_long p (kind.arg.drop 2) _ (by cases kind <;> decide)
        (by cases kind <;> decide) hp
      obtain ⟨hvalue, hrest⟩ := pidListValue_of_ready hL hne hlist hready
      rcases snapshotStep_scope kind hvalue with ⟨acc', hadd, hstep⟩ | ⟨e, hadd, hstep⟩
      · exact Or.inl ⟨acc', _, hadd, hrest, parseLoop_step fuel hnext hstep⟩
      · exact Or.inr ⟨e, hadd, parseLoop_refuse fuel hnext hstep⟩

/-- The loop adds one item after the other, up to the first that is refused. -/
theorem loop_items (hL : L.Lawful ready finished pending) {items : List Item}
    (hvalid : ∀ item ∈ items, item.Valid) {p : L.Parser}
    (hp : ready p ((itemArgs items).map Utf8.encode)) (fuel : Nat) (acc : SnapshotAcc) :
    parseLoop L (snapshotStep L) (fuel + items.length + 1) p acc
      = some (items.foldlM Item.add acc) := by
  induction items generalizing p acc with
  | nil => exact parseLoop_end fuel acc (hL.next_end p hp)
  | cons item items ih =>
      obtain ⟨hitem, hitems⟩ := List.forall_mem_cons.mp hvalid
      rw [itemArgs, List.flatMap_cons, List.map_append] at hp
      rw [List.length_cons, ← Nat.add_assoc, List.foldlM_cons]
      rcases loop_item hL hitem hp (fuel + items.length + 1) acc with
        ⟨acc', p', hadd, hready, hloop⟩ | ⟨e, hadd, hloop⟩
      · rw [hloop, hadd, ih hitems hready acc']
        rfl
      · rw [hloop, hadd]
        rfl

end Loop

/-! ## What the items gather -/

theorem lastOf_append (kind : ScopeFlag) (items : List Item) (item : Item) :
    lastOf kind (items ++ [item]) = (item.pidsOf kind).or (lastOf kind items) := by
  rw [lastOf, List.reverse_append]
  show (item :: items.reverse).findSome? _ = _
  rw [List.findSome?_cons]
  cases item.pidsOf kind <;> rfl

/-- What the items have gathered, if the scopes are of one kind. -/
def gatheredOf (items : List Item) : SnapshotAcc :=
  ⟨lastOf .roots items, lastOf .pids items, denoted .host items⟩

theorem set_denoted (scope : Scope) (items : List Item) (f : Flag) :
    (denoted scope items).set f = denoted scope (items ++ [.flag f]) := by
  cases f <;> simp [denoted, SnapshotArgs.ofAsk, SnapshotArgs.set]

theorem denoted_scope (scope : Scope) (items : List Item) (kind : ScopeFlag) (list : List Nat) :
    denoted scope (items ++ [.scope kind list]) = denoted scope items := by
  simp [denoted]

theorem denoted_json (scope : Scope) (items : List Item) :
    { denoted scope items with json := true } = denoted scope (items ++ [.json]) := by
  simp [denoted, SnapshotArgs.ofAsk]

/-- An item that is no scope keeps the scopes. -/
theorem add_unscoped {items : List Item} (h : ¬ Mixed items) {item : Item}
    (hnone : ∀ kind, item.pidsOf kind = none)
    (hadd : item.add (gatheredOf items)
      = .ok { gatheredOf items with out := denoted .host (items ++ [item]) }) :
    item.add (gatheredOf items) = if Mixed (items ++ [item]) then .error exclusiveScopes
      else .ok (gatheredOf (items ++ [item])) := by
  have hlast : ∀ kind, lastOf kind (items ++ [item]) = lastOf kind items := by
    intro kind
    rw [lastOf_append, hnone, Option.none_or]
  have hmixed : ¬ Mixed (items ++ [item]) := by
    rw [Mixed, hlast, hlast]
    exact h
  rw [if_neg hmixed, hadd]
  show _ = Except.ok (SnapshotAcc.mk (lastOf .roots (items ++ [item]))
    (lastOf .pids (items ++ [item])) (denoted .host (items ++ [item])))
  rw [hlast, hlast]
  rfl

/-- One more item: it is refused where it makes the line mixed, and gathered where it does not. -/
theorem add_gathered {items : List Item} (h : ¬ Mixed items) (item : Item) :
    item.add (gatheredOf items) = if Mixed (items ++ [item]) then .error exclusiveScopes
      else .ok (gatheredOf (items ++ [item])) := by
  cases item with
  | flag f =>
      refine add_unscoped h (fun _ => rfl) ?_
      rw [← set_denoted]
      rfl
  | json =>
      refine add_unscoped h (fun _ => rfl) ?_
      rw [← denoted_json]
      rfl
  | scope kind list =>
      cases kind with
      | roots =>
          have hroots : lastOf .roots (items ++ [.scope .roots list])
              = some (list.map UInt32.ofNat) := lastOf_append ..
          have hpids : lastOf .pids (items ++ [.scope .roots list]) = lastOf .pids items :=
            lastOf_append ..
          have hmixed : Mixed (items ++ [.scope .roots list])
              ↔ (lastOf .pids items).isSome = true := by simp [Mixed, hroots, hpids]
          have hgathered : gatheredOf (items ++ [.scope .roots list])
              = { gatheredOf items with roots := some (list.map UInt32.ofNat) } := by
            show SnapshotAcc.mk (lastOf .roots _) (lastOf .pids _) (denoted .host _) = _
            rw [hroots, hpids, denoted_scope]
            rfl
          rw [hgathered]
          exact if_congr hmixed.symm rfl rfl
      | pids =>
          have hroots : lastOf .roots (items ++ [.scope .pids list]) = lastOf .roots items :=
            lastOf_append ..
          have hpids : lastOf .pids (items ++ [.scope .pids list])
              = some (list.map UInt32.ofNat) := lastOf_append ..
          have hmixed : Mixed (items ++ [.scope .pids list])
              ↔ (lastOf .roots items).isSome = true := by simp [Mixed, hroots, hpids]
          have hgathered : gatheredOf (items ++ [.scope .pids list])
              = { gatheredOf items with pids := some (list.map UInt32.ofNat) } := by
            show SnapshotAcc.mk (lastOf .roots _) (lastOf .pids _) (denoted .host _) = _
            rw [hroots, hpids, denoted_scope]
            rfl
          rw [hgathered]
          exact if_congr hmixed.symm rfl rfl

theorem mixed_append {items : List Item} (h : Mixed items) (item : Item) :
    Mixed (items ++ [item]) := by
  have hsome : ∀ kind, (lastOf kind items).isSome = true →
      (lastOf kind (items ++ [item])).isSome = true := by
    intro kind hkind
    rw [lastOf_append, Option.isSome_or, hkind, Bool.or_true]
  exact ⟨hsome .roots h.1, hsome .pids h.2⟩

/-- The items, gathered: refused where both kinds of scope are named. -/
theorem foldlM_add (items : List Item) :
    items.foldlM Item.add ⟨none, none, SnapshotArgs.default⟩
      = if Mixed items then .error exclusiveScopes else .ok (gatheredOf items) := by
  induction items using List.reverseRecOn with
  | nil => rfl
  | append_singleton items item ih =>
      rw [List.foldlM_append, ih]
      by_cases hmixed : Mixed items
      · rw [if_pos hmixed, if_pos (mixed_append hmixed item)]
        rfl
      · rw [if_neg hmixed, ok_bind, List.foldlM_cons, add_gathered hmixed]
        split_ifs
        · rfl
        · rfl

/-! ## The command -/

theorem finishSnapshot_nothing {acc : SnapshotAcc} (h : ∀ f, acc.out.asks f = false) :
    finishSnapshot acc
      = .error (.usage (withHelp "at least one snapshot facet required".toList)) := by
  refine if_pos ?_
  simp only [Bool.and_eq_true, Bool.not_eq_true']
  exact ⟨⟨⟨⟨⟨⟨⟨⟨h .procs, h .ports⟩, h .mem⟩, h .startTime⟩, h .cpuTime⟩, h .uid⟩, h .cwd⟩,
    h .status⟩, h .argv⟩

/-- The scope of a line whose scopes are of one kind. -/
def lastScope (items : List Item) : Scope := scopeOf (lastOf .roots items) (lastOf .pids items)

theorem asks_denoted (scope : Scope) (items : List Item) (f : Flag) :
    (denoted scope items).asks f = decide (Item.flag f ∈ items) := by
  cases f <;> rfl

section Line

variable {L : Lexopt} {ready finished : L.Parser → List Bytes → Prop} {pending : L.Parser → Prop}

/-- The items are what the loop gathers, and `parse` finishes it. -/
theorem parse_items (hL : L.Lawful ready finished pending) {items : List Item}
    (hvalid : ∀ item ∈ items, item.Valid) :
    parse L (("snapshot".toList :: itemArgs items).map Utf8.encode)
      = some (((items.foldlM Item.add ⟨none, none, SnapshotArgs.default⟩).bind finishSnapshot).map
          .snapshot) := by
  rw [List.map_cons]
  obtain ⟨p, hready, hparse⟩ := parse_snapshot hL ((itemArgs items).map Utf8.encode)
  have hlength : items.length ≤ (itemArgs items).length := by
    rw [itemArgs, List.length_flatMap]
    have hsum := List.card_nsmul_le_sum (items.map (fun item => item.args.length)) 1 (by
      intro n hn
      obtain ⟨item, -, rfl⟩ := List.mem_map.mp hn
      cases item <;> simp [Item.args])
    simpa using hsum
  obtain ⟨fuel, hfuel⟩ := exists_parseFuel
    (Utf8.encode "snapshot".toList :: (itemArgs items).map Utf8.encode) (n := items.length + 1)
    (by simp only [List.length_cons, List.length_map]; omega)
  rw [hparse, hfuel, ← Nat.add_assoc, parseSnapshot, loop_items hL hvalid hready]
  rfl

/-- **What a snapshot command line denotes.** Whatever the items, in whatever order and however
often: a line that names both kinds of scope is refused for that; of the others, one that names
no facet is refused for that; and every other line is the ask for the facets it names, in the last
scope it names. -/
theorem command_line (hL : L.Lawful ready finished pending) {items : List Item}
    (hvalid : ∀ item ∈ items, item.Valid) :
    (Mixed items → parse L (("snapshot".toList :: itemArgs items).map Utf8.encode)
      = some (.error exclusiveScopes)) ∧
    (¬ Mixed items → (∀ f, Item.flag f ∉ items) →
      parse L (("snapshot".toList :: itemArgs items).map Utf8.encode)
        = some (.error (.usage (withHelp "at least one snapshot facet required".toList)))) ∧
    (¬ Mixed items → (∃ f, Item.flag f ∈ items) →
      parse L (("snapshot".toList :: itemArgs items).map Utf8.encode)
        = some (.ok (.snapshot (denoted (lastScope items) items)))) := by
  rw [parse_items hL hvalid, foldlM_add]
  refine ⟨fun hmixed => ?_, fun hmixed hnone => ?_, fun hmixed ⟨f, hf⟩ => ?_⟩
  · rw [if_pos hmixed]
    rfl
  · rw [if_neg hmixed]
    have hasks : ∀ f, (gatheredOf items).out.asks f = false := by
      intro f
      show (denoted .host items).asks f = false
      rw [asks_denoted, decide_eq_false_iff_not]
      exact hnone f
    show some ((finishSnapshot (gatheredOf items)).map _) = _
    rw [finishSnapshot_nothing hasks]
    rfl
  · rw [if_neg hmixed]
    have hask : (gatheredOf items).out.asks f = true := by
      show (denoted .host items).asks f = true
      rw [asks_denoted, decide_eq_true_iff]
      exact hf
    show some ((finishSnapshot (gatheredOf items)).map _) = _
    rw [finishSnapshot_asked hask]
    rfl

end Line

/-- `--json --mem --pids 7 --procs --mem --pids 9,7`. -/
def sampleItems : List Item :=
  [.json, .flag .mem, .scope .pids [7], .flag .procs, .flag .mem, .scope .pids [9, 7]]

theorem command_line_sample :
    parse .standard (("snapshot".toList :: itemArgs sampleItems).map Utf8.encode)
      = some (.ok (.snapshot (denoted (.pids [9, 7]) sampleItems))) := by
  have hvalid : ∀ item ∈ sampleItems, item.Valid := by decide
  exact (command_line Lexopt.standard_lawful hvalid).2.2 (by decide) ⟨.mem, by decide⟩

end Osfacts
