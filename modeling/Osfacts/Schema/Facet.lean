import Osfacts.Rust.Text

set_option autoImplicit false

/-! # The facet vocabulary

The one noun `U` and `E` rows are spelled in. The wire spelling is injective, so a facet can
be read back from it; the declaration order is the order in which rows are sorted.
-/

namespace Osfacts

inductive Facet where
  | proc
  | ports
  | portsUnclaimed
  | portsUid
  | mem
  | startTime
  | cpuTime
  | uid
  | cwd
  | status
  | statusThreads
  | argv
  | socketHolders
  | uptime
  | load
  | cpu
  | net
  | disk
  deriving DecidableEq, Repr

namespace Facet

/-- The wire spelling. -/
def asStr : Facet → Text
  | .proc => "proc".toList
  | .ports => "ports".toList
  | .portsUnclaimed => "ports_unclaimed".toList
  | .portsUid => "ports_uid".toList
  | .mem => "mem".toList
  | .startTime => "start_time".toList
  | .cpuTime => "cpu_time".toList
  | .uid => "uid".toList
  | .cwd => "cwd".toList
  | .status => "status".toList
  | .statusThreads => "status_threads".toList
  | .argv => "argv".toList
  | .socketHolders => "socket_holders".toList
  | .uptime => "uptime".toList
  | .load => "load".toList
  | .cpu => "cpu".toList
  | .net => "net".toList
  | .disk => "disk".toList

/-- Facets a `U` row can name. -/
def UNREADABLE : List Facet :=
  [.proc, .ports, .mem, .startTime, .cpuTime, .uid, .cwd, .status, .statusThreads, .argv]

/-- Facets an `E` row of the `snapshot` verb can name. -/
def SNAPSHOT_SOURCE : List Facet :=
  [.proc, .ports, .portsUnclaimed, .portsUid, .mem, .startTime, .cpuTime, .uid, .cwd, .status,
    .argv]

/-- Facets an `E` row of the `socket-holders` verb can name. -/
def SOCKET_HOLDERS_SOURCE : List Facet := [.socketHolders]

/-- Facets an `E` row of the `host` verb can name. -/
def HOST_SOURCE : List Facet := [.uptime, .load, .mem, .cpu, .net, .disk]

/-- The place of a facet in the declaration, which is what the derived order compares. -/
def rank : Facet → Nat
  | .proc => 0
  | .ports => 1
  | .portsUnclaimed => 2
  | .portsUid => 3
  | .mem => 4
  | .startTime => 5
  | .cpuTime => 6
  | .uid => 7
  | .cwd => 8
  | .status => 9
  | .statusThreads => 10
  | .argv => 11
  | .socketHolders => 12
  | .uptime => 13
  | .load => 14
  | .cpu => 15
  | .net => 16
  | .disk => 17

theorem rank_injective : Function.Injective rank := by
  intro a b
  cases a <;> cases b <;> simp [rank]

/-- A facet's spelling has only lower-case letters and underscores. -/
theorem asStr_chars (f : Facet) : ∀ c ∈ f.asStr, c.isLower ∨ c = '_' := by
  have hall : f.asStr.all (fun c => c.isLower || c == '_') = true := by cases f <;> rfl
  simpa only [List.all_eq_true, Bool.or_eq_true, beq_iff_eq] using hall

theorem not_mem_asStr {f : Facet} {c : Char} (hl : c.isLower = false) (hu : c ≠ '_') :
    c ∉ f.asStr := by
  intro h
  rcases asStr_chars f c h with h | h
  · rw [hl] at h
    exact absurd h (by decide)
  · exact hu h

end Facet

end Osfacts
