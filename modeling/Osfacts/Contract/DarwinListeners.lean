import Osfacts.Darwin.Listeners

set_option autoImplicit false

/-! # Attributed listeners on darwin

The ports of a snapshot are the listeners of the table and of the walk, each with the first
process that was seen with it. A claim is lost exactly where two processes were seen with one
key.
-/

namespace Osfacts.Pcblist

/-- The rows of the merge. -/
theorem mem_attributeHostListeners {rows : List HostListener}
    {claims : List (HostListener × Pid)} {row : Port} :
    row ∈ attributeHostListeners rows claims ↔
      ∃ key, (key ∈ rows ∨ key ∈ claims.map Prod.fst) ∧
        row = ⟨(claims.lookup key).elim .unclaimed .claimed, none, key.1, key.2⟩ := by
  rw [attributeHostListeners, List.mem_map]
  simp only [mem_sortByKey, mem_foldl_pushNew, eq_comm (b := row)]

end Osfacts.Pcblist

namespace Osfacts.Darwin

open Pcblist

/-! ## Claims -/

section Claims

variable (walk : Pid → Except Errno (List HostListener)) (table : Except Errno (List HostListener))
  (wanted : List Pid) (snap : Snapshot)

theorem mem_heard {pid : Pid} {l : HostListener} :
    l ∈ heard walk pid ↔ ∃ rows, walk pid = .ok rows ∧ l ∈ rows := by
  unfold heard
  cases walk pid with
  | ok rows => simp
  | error err => simp

theorem lookup_claimsOf (l : HostListener) :
    (claimsOf walk wanted).lookup l = wanted.find? (fun pid => decide (l ∈ heard walk pid)) := by
  rw [claimsOf, lookup_claimAll, List.lookup_nil, Option.none_or]

/-- The row that names a process as the holder of a listener. -/
def claimedRow (pid : Pid) (l : HostListener) : Port := ⟨.claimed pid, none, l.1, l.2⟩

/-- A process is named for a listener exactly when it is the first that was seen with it. -/
theorem claimedRow_mem_iff {pid : Pid} {l : HostListener} :
    claimedRow pid l ∈ (snapshotPorts walk table wanted snap).ports ↔
      wanted.find? (fun pid => decide (l ∈ heard walk pid)) = some pid := by
  rw [ports_snapshotPorts, mem_attributeHostListeners]
  constructor
  · rintro ⟨key, -, hrow⟩
    rw [claimedRow, Port.mk.injEq] at hrow
    obtain ⟨hclaim, -, hport, haddress⟩ := hrow
    have hkey : l = key := Prod.ext hport haddress
    rw [← hkey, lookup_claimsOf] at hclaim
    cases hfind : wanted.find? (fun pid => decide (l ∈ heard walk pid)) with
    | none =>
        rw [hfind] at hclaim
        cases hclaim
    | some p =>
        rw [hfind, Option.elim_some, Attribution.claimed.injEq] at hclaim
        rw [hclaim]
  · intro hfind
    have hlookup : (claimsOf walk wanted).lookup l = some pid := by
      rw [lookup_claimsOf, hfind]
    have hmem : (l, pid) ∈ claimsOf walk wanted :=
      (mem_iff_lookup (nodup_keys_claimAll (heard walk) wanted (by simp))).mpr hlookup
    refine ⟨l, Or.inr (List.mem_map.mpr ⟨_, hmem, rfl⟩), ?_⟩
    rw [hlookup]
    rfl

/-- No listener was seen with two of the selected processes. -/
def OneHolder : Prop :=
  ∀ p ∈ wanted, ∀ q ∈ wanted, ∀ l, l ∈ heard walk p → l ∈ heard walk q → p = q

/-- **Observed claims.** Every selected process is named for every listener its walk returned
exactly when no listener was seen with two of them, whatever the host-wide table says. -/
theorem claims_kept_iff :
    (∀ pid ∈ wanted, ∀ rows, walk pid = .ok rows → ∀ l ∈ rows,
      claimedRow pid l ∈ (snapshotPorts walk table wanted snap).ports) ↔
      OneHolder walk wanted := by
  simp only [claimedRow_mem_iff]
  constructor
  · intro h p hp q hq l hlp hlq
    obtain ⟨rows, hrows, hl⟩ := (mem_heard walk).mp hlp
    obtain ⟨rows', hrows', hl'⟩ := (mem_heard walk).mp hlq
    have hpfirst := h p hp rows hrows l hl
    rw [h q hq rows' hrows' l hl', Option.some.injEq] at hpfirst
    exact hpfirst.symm
  · intro h pid hpid rows hrows l hl
    have hheard : l ∈ heard walk pid := (mem_heard walk).mpr ⟨rows, hrows, hl⟩
    cases hfind : wanted.find? (fun pid => decide (l ∈ heard walk pid)) with
    | none =>
        have hnone := List.find?_eq_none.mp hfind pid hpid
        simp [hheard] at hnone
    | some p =>
        have hp : l ∈ heard walk p := by simpa using List.find?_some hfind
        rw [h p (List.mem_of_find?_eq_some hfind) pid hpid l hp hheard]

end Claims

/-- Two processes listening on one port and address through sockets of their own. -/
def sharedWalk (_ : Pid) : Except Errno (List HostListener) := .ok [(80, "00000000".toList)]

/-- The second of them is not named. -/
theorem second_holder_lost :
    8 ∈ ([7, 8] : List Pid) ∧ sharedWalk 8 = .ok [(80, "00000000".toList)] ∧
      claimedRow 8 (80, "00000000".toList)
        ∉ (snapshotPorts sharedWalk (.ok []) [7, 8] Snapshot.new).ports := by
  refine ⟨by simp, rfl, ?_⟩
  rw [claimedRow_mem_iff]
  decide

end Osfacts.Darwin
