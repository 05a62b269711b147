import Osfacts.Contract.HostSurvey
import Osfacts.Platforms

set_option autoImplicit false

/-! # The account of a host

What stands in a host document, counted: every facet that was asked has its rows or the row of the
source that was blind, and never both. What is told of a facet does not depend on what else was
asked.
-/

namespace Osfacts

/-! ## The rows of a blind source -/

section Blindness

variable {α : Type} {facet : Facet} {r : Except SourceError α}

/-- A blind source is counted under its own facet. -/
theorem countP_blindness (h : ∀ e, r = .error e → e.Wire [facet]) (other : Facet) :
    (blindness r).countP (fun e => e.facet = other)
      = if facet = other then (if r.toOption.isSome then 0 else 1) else 0 := by
  cases r with
  | ok a => simp [blindness, Except.toOption]
  | error e =>
      have hfacet : e.facet = facet := List.mem_singleton.mp (h e rfl).facet_mem
      by_cases hother : facet = other <;> simp [blindness, Except.toOption, hfacet, hother]

theorem filter_blindness (h : ∀ e, r = .error e → e.Wire [facet]) (keep : Facet → Bool) :
    (blindness r).filter (fun e => keep e.facet) = if keep facet then blindness r else [] := by
  cases r with
  | ok a => simp [blindness]
  | error e =>
      have hfacet : e.facet = facet := List.mem_singleton.mp (h e rfl).facet_mem
      cases hkeep : keep facet <;> simp [blindness, hfacet, hkeep]

end Blindness

/-! ## Asks and what they are told -/

namespace HostArgs

/-- Whether a facet is told to an ask. -/
def tells (args : HostArgs) : Facet → Bool
  | .uptime => true
  | .load => args.load
  | .mem => args.mem
  | .cpu => args.cpu
  | .net => args.net
  | .disk => args.disk
  | _ => false

/-- The other ask has every facet of this one. -/
def Within (args args' : HostArgs) : Prop := ∀ f, args.asks f = true → args'.asks f = true

end HostArgs

namespace HostSnapshot

variable {L : FloatLib} (s : HostSnapshot L)

/-- Whether a facet is told. -/
def answers : HostFlag → Bool
  | .load => s.load.isSome
  | .mem => s.memory.isSome && s.swap.isSome
  | .cpu => !s.cpus.isEmpty
  | .net => !s.networks.isEmpty
  | .disk => !s.disks.isEmpty

/-- How many sources of a facet were blind. -/
def blindCount (facet : Facet) : Nat := s.errors.countP (fun e => e.facet = facet)

/-- The part of a document that is about an ask. -/
def restrict (args : HostArgs) : HostSnapshot L :=
  { s with
    load := if args.load then s.load else none
    memory := if args.mem then s.memory else none
    swap := if args.mem then s.swap else none
    cpus := if args.cpu then s.cpus else []
    networks := if args.net then s.networks else []
    disks := if args.disk then s.disks else []
    errors := s.errors.filter (fun e => args.tells e.facet) }

/-- Every facet that was asked is told, or its source is named, and nothing else is said. -/
structure Accounts (args : HostArgs) : Prop where
  uptime : s.uptimeUs.isSome.toNat + s.blindCount .uptime = 1
  facet (f : HostFlag) : (s.answers f).toNat + s.blindCount f.facet = (args.asks f).toNat
  halves : s.memory.isSome = s.swap.isSome
  others : ∀ e ∈ s.errors, e.facet = .uptime ∨ ∃ f, args.asks f = true ∧ e.facet = f.facet

end HostSnapshot

namespace HostReadings

variable {L : FloatLib} (r : HostReadings L)

section Account

variable (args : HostArgs)

/-- The blind sources of a facet. -/
theorem blindCount_document (facet : Facet) : (r.document args).blindCount facet =
    (if Facet.uptime = facet then (if r.uptime.toOption.isSome then 0 else 1) else 0)
      + (if args.load then
          (if Facet.load = facet then (if r.load.toOption.isSome then 0 else 1) else 0) else 0)
      + (if args.mem then
          (if Facet.mem = facet then (if r.memory.toOption.isSome then 0 else 1) else 0) else 0)
      + (if args.cpu then
          (if Facet.cpu = facet then (if r.cpus.toOption.isSome then 0 else 1) else 0) else 0)
      + (if args.net then
          (if Facet.net = facet then (if r.networks.toOption.isSome then 0 else 1) else 0) else 0)
      + if args.disk then
          (if Facet.disk = facet then (if r.disk.toOption.isSome then 0 else 1) else 0) else 0 := by
  show (r.errors args).countP _ = _
  simp only [errors, List.countP_append, apply_ite (List.countP _), List.countP_nil,
    countP_blindness r.uptime_blame, countP_blindness r.load_blame,
    countP_blindness r.memory_blame, countP_blindness r.cpus_blame,
    countP_blindness r.networks_blame, countP_blindness r.disk_blame]

theorem others_document : ∀ e ∈ (r.document args).errors,
    e.facet = .uptime ∨ ∃ f, args.asks f = true ∧ e.facet = f.facet := by
  intro e he
  refine (r.mem_errors he).imp (fun hwire => List.mem_singleton.mp hwire.facet_mem) ?_
  rintro ⟨f, hask, hwire⟩
  exact ⟨f, hask, List.mem_singleton.mp hwire.facet_mem⟩

/-- The account of a document, unless it was asked for cores and there are none. -/
theorem accounts_document (hcpus : args.cpu = true → r.cpus ≠ .ok []) :
    (r.document args).Accounts args where
  uptime := by
    rw [blindCount_document]
    show r.uptime.toOption.isSome.toNat + _ = 1
    cases r.uptime <;> simp [Except.toOption]
  facet f := by
    rw [blindCount_document]
    cases f with
    | load =>
        simp only [HostSnapshot.answers, document, HostFlag.facet, HostArgs.asks]
        cases args.load <;> cases r.load <;> simp [Except.toOption]
    | mem =>
        simp only [HostSnapshot.answers, document, HostFlag.facet, HostArgs.asks]
        cases args.mem <;> cases r.memory <;> simp [Except.toOption]
    | cpu =>
        simp only [HostSnapshot.answers, document, HostFlag.facet, HostArgs.asks]
        cases hread : r.cpus with
        | error e => cases args.cpu <;> simp [Except.toOption]
        | ok rows =>
            cases hask : args.cpu with
            | false => simp
            | true =>
                -- no rows of the cores would be no answer
                have hne : rows ≠ [] :=
                  fun hnil => hcpus hask (hread.trans (congrArg Except.ok hnil))
                simp [Except.toOption, hne]
    | net =>
        simp only [HostSnapshot.answers, document, HostFlag.facet, HostArgs.asks]
        cases hread : r.networks with
        | error e => cases args.net <;> simp [Except.toOption]
        | ok rows =>
            have hne := r.networks_ne_nil rows hread
            cases args.net <;> simp [Except.toOption, hne]
    | disk =>
        simp only [HostSnapshot.answers, document, HostFlag.facet, HostArgs.asks]
        cases args.disk <;> cases r.disk <;> simp [Except.toOption]
  halves := by
    simp only [document]
    cases args.mem <;> cases r.memory <;> rfl
  others := r.others_document args

theorem accounts_document_iff :
    (r.document args).Accounts args ↔ ¬ (args.cpu = true ∧ r.cpus = .ok []) := by
  rw [not_and]
  refine ⟨fun haccounts hask hread => ?_, accounts_document r args⟩
  have hcpu := haccounts.facet .cpu
  rw [blindCount_document] at hcpu
  simp [HostSnapshot.answers, document, HostFlag.facet, HostArgs.asks, hask, hread,
    Except.toOption] at hcpu

end Account

/-! ## Asking for less -/

section Part

variable {args args' : HostArgs}

theorem errors_restrict (h : args.Within args') :
    r.errors args = (r.errors args').filter (fun e => args.tells e.facet) := by
  have hload := h .load
  have hmem := h .mem
  have hcpu := h .cpu
  have hnet := h .net
  have hdisk := h .disk
  simp only [HostArgs.asks] at hload hmem hcpu hnet hdisk
  simp only [errors, List.filter_append, apply_ite (List.filter _), List.filter_nil,
    filter_blindness r.uptime_blame args.tells, filter_blindness r.load_blame args.tells,
    filter_blindness r.memory_blame args.tells, filter_blindness r.cpus_blame args.tells,
    filter_blindness r.networks_blame args.tells, filter_blindness r.disk_blame args.tells]
  -- each block is kept where the smaller ask has its facet
  have hblock : ∀ (kept small large : Bool) (rows : List SourceError), kept = small →
      (small = true → large = true) →
      (if large then (if kept then rows else []) else []) = if small then rows else [] := by
    rintro kept small large rows rfl himp
    cases kept
    · simp
    · rw [himp rfl]
      simp
  rw [if_pos (show args.tells .uptime = true from rfl),
    hblock (args.tells .load) args.load args'.load _ rfl hload,
    hblock (args.tells .mem) args.mem args'.mem _ rfl hmem,
    hblock (args.tells .cpu) args.cpu args'.cpu _ rfl hcpu,
    hblock (args.tells .net) args.net args'.net _ rfl hnet,
    hblock (args.tells .disk) args.disk args'.disk _ rfl hdisk]

/-- The document of a smaller ask is the part of the larger one that is about it. -/
theorem document_restrict (h : args.Within args') :
    r.document args = (r.document args').restrict args := by
  have hload := h .load
  have hmem := h .mem
  have hcpu := h .cpu
  have hnet := h .net
  have hdisk := h .disk
  simp only [HostArgs.asks] at hload hmem hcpu hnet hdisk
  have hpart : ∀ {α : Type} (small large : Bool) (a b : α), (small = true → large = true) →
      (if small then a else b) = if small then (if large then a else b) else b := by
    intro α small large a b himp
    cases small
    · rfl
    · rw [himp rfl]
      rfl
  rw [HostSnapshot.restrict, document, r.errors_restrict h, hpart args.load args'.load _ _ hload,
    hpart args.mem args'.mem (r.memory.toOption.map Prod.fst) none hmem,
    hpart args.mem args'.mem (r.memory.toOption.map Prod.snd) none hmem,
    hpart args.cpu args'.cpu (r.cpus.toOption.getD []) [] hcpu,
    hpart args.net args'.net (r.networks.toOption.getD []) [] hnet,
    hpart args.disk args'.disk _ _ hdisk]
  rfl

end Part

end HostReadings

/-! ## Every system -/

namespace Darwin

variable {L : FloatLib} {os : HostOs L}

/-- The rows of the cores are as many as the kernel has processors. -/
theorem length_readCpus {rows : List Cpu} (h : readCpus os = .ok rows) :
    ∃ processors ticks, os.hostProcessorInfo = .ok processors ∧ processors.info = some ticks ∧
      rows.length = processors.cores.toNat := by
  unfold readCpus at h
  obtain ⟨model, -, h⟩ := bind_ok_iff.mp h
  by_cases hmodel : model.isEmpty = true
  · rw [if_pos hmodel] at h
    cases h
  rw [if_neg hmodel] at h
  obtain ⟨frequencyMhz, -, h⟩ := bind_ok_iff.mp h
  obtain ⟨processors, hprocessors, h⟩ := bind_ok_iff.mp h
  split at h
  case h_1 => cases h
  case h_2 ticks hinfo =>
      split_ifs at h
      obtain rfl := Except.ok.inj h
      exact ⟨processors, ticks, Linux.fromSource_ok hprocessors, hinfo, by simp⟩

/-- The kernel has no processors, and no question about them failed. -/
def Coreless (os : HostOs L) : Prop :=
  (∃ ticks, os.hostProcessorInfo = .ok ⟨0, some ticks⟩) ∧ ∀ failed, readCpus os ≠ .error failed

theorem readCpus_nil_iff : readCpus os = .ok [] ↔ Coreless os := by
  constructor
  · intro h
    obtain ⟨⟨cores, info⟩, ticks, hprocessors, hinfo, hlength⟩ := length_readCpus h
    obtain rfl : cores = 0 := UInt32.toNat_inj.mp hlength.symm
    obtain rfl : info = some ticks := hinfo
    exact ⟨⟨ticks, hprocessors⟩, fun failed herror => by rw [h] at herror; cases herror⟩
  · rintro ⟨⟨ticks, hnone⟩, hanswers⟩
    cases hread : readCpus os with
    | error failed => exact absurd hread (hanswers failed)
    | ok rows =>
        obtain ⟨processors, -, hprocessors, -, hlength⟩ := length_readCpus hread
        obtain rfl := Except.ok.inj (hnone.symm.trans hprocessors)
        rw [List.length_eq_zero_iff.mp hlength]

end Darwin

namespace System

variable {L : FloatLib}

/-- The build has sensors. -/
def Looks : System L → Prop
  | unsupported => False
  | _ => True

/-- A system without cores to tell of. -/
def Coreless : System L → Prop
  | darwin os => Darwin.Coreless os
  | _ => False

open Darwin in
/-- **Nothing about a host is passed over in silence.** On every system with sensors, whatever
its sources answer, the document of an ask has for each facet that was asked either its rows or
one row for the source that was blind, never both, and the same for the uptime; and it says
nothing else. The one exception is a darwin kernel that reports no processors to an ask for
cores. -/
theorem host_accounted_iff (system : System L) (args : HostArgs) :
    (system.platform.host args).Accounts args
      ↔ system.Looks ∧ ¬ (args.cpu = true ∧ system.Coreless) := by
  cases system with
  | linux F os =>
      show (Linux.host F os args).Accounts args ↔ True ∧ ¬ (_ ∧ False)
      rw [Linux.host_eq, HostReadings.accounts_document_iff]
      refine ⟨fun _ => ⟨True.intro, fun h => h.2⟩, fun _ h => ?_⟩
      exact (Linux.readCpus_ok (ok_of_asRow h.2)).1 rfl
  | darwin os =>
      show (Darwin.host os args).Accounts args ↔ True ∧ ¬ (_ ∧ Darwin.Coreless os)
      rw [Darwin.host_eq, HostReadings.accounts_document_iff, true_and, ← Darwin.readCpus_nil_iff]
      refine not_congr (and_congr_right fun _ => ⟨ok_of_asRow, fun h => ?_⟩)
      show asRow .cpu (Darwin.readCpus os) = .ok []
      rw [h]
      rfl
  | unsupported =>
      refine ⟨fun h => ?_, fun h => h.1.elim⟩
      have huptime : 0 = 1 := h.uptime
      exact absurd huptime (by decide)

/-- A smaller ask is told the part of the document that is about it. -/
theorem host_restrict (system : System L) {args args' : HostArgs} (h : args.Within args') :
    system.platform.host args = (system.platform.host args').restrict args := by
  cases system with
  | linux F os =>
      show Linux.host F os args = (Linux.host F os args').restrict args
      rw [Linux.host_eq, Linux.host_eq]
      exact HostReadings.document_restrict _ h
  | darwin os =>
      show Darwin.host os args = (Darwin.host os args').restrict args
      rw [Darwin.host_eq, Darwin.host_eq]
      exact HostReadings.document_restrict _ h
  | unsupported =>
      show HostSnapshot.new = HostSnapshot.restrict HostSnapshot.new args
      simp [HostSnapshot.restrict, HostSnapshot.new]

end System

end Osfacts
