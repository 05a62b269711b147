import Osfacts.Contract.CpuBuckets
import Osfacts.Contract.SharedRows
import Osfacts.Darwin.Host
import Osfacts.Linux.Host

set_option autoImplicit false

/-! # The host as readings

What a host document is for, on whatever system: six sources, of which each is read or is blind.
`HostReadings` is what was found out, with the row that stands for each source that was blind, and
`document` is what is told of it to an ask. Both platforms tell exactly that.
-/

namespace Osfacts

/-! ## The facets of an ask -/

/-- The facets a host can be asked for. The uptime is told without being asked. -/
inductive HostFlag where
  | load
  | mem
  | cpu
  | net
  | disk
  deriving DecidableEq, Repr

namespace HostFlag

def all : List HostFlag := [load, mem, cpu, net, disk]

def facet : HostFlag → Facet
  | load => .load
  | mem => .mem
  | cpu => .cpu
  | net => .net
  | disk => .disk

theorem facet_injective : Function.Injective facet := by
  intro a b
  cases a <;> cases b <;> simp [facet]

end HostFlag

def HostArgs.asks (args : HostArgs) : HostFlag → Bool
  | .load => args.load
  | .mem => args.mem
  | .cpu => args.cpu
  | .net => args.net
  | .disk => args.disk

/-! ## Readings -/

/-- What the readers of a host found out: a value, or the row of the source that was blind. -/
structure HostReadings (L : FloatLib) where
  uptime : Except SourceError UInt64
  load : Except SourceError (Load L)
  memory : Except SourceError (HostMemory × Swap)
  cpus : Except SourceError (List Cpu)
  networks : Except SourceError (List Network)
  disk : Except SourceError Disk
  uptime_blame : ∀ e, uptime = .error e → e.Wire [.uptime]
  load_blame : ∀ e, load = .error e → e.Wire [.load]
  memory_blame : ∀ e, memory = .error e → e.Wire [.mem]
  cpus_blame : ∀ e, cpus = .error e → e.Wire [.cpu]
  networks_blame : ∀ e, networks = .error e → e.Wire [.net]
  disk_blame : ∀ e, disk = .error e → e.Wire [.disk]
  /-- a host has a loopback interface -/
  networks_ne_nil : ∀ rows, networks = .ok rows → rows ≠ []
  cpu_ok : ∀ rows, cpus = .ok rows → ∀ row ∈ rows, row.model ≠ [] ∧ row.frequencyMhz ≠ some 0
  network_ok : ∀ rows, networks = .ok rows → ∀ row ∈ rows, Plain row.name
  disk_ok : ∀ row, disk = .ok row → Plain row.mount

/-- The row that a reading leaves in its place. -/
def blindness {α : Type} : Except SourceError α → List SourceError
  | .ok _ => []
  | .error e => [e]

namespace HostReadings

variable {L : FloatLib} (r : HostReadings L) (args : HostArgs)

/-- The rows of the sources that were asked and were blind, in the order of the probes. -/
def errors : List SourceError :=
  blindness r.uptime ++ (if args.load then blindness r.load else [])
    ++ (if args.mem then blindness r.memory else [])
    ++ (if args.cpu then blindness r.cpus else [])
    ++ (if args.net then blindness r.networks else [])
    ++ if args.disk then blindness r.disk else []

/-- What an ask is told. -/
def document : HostSnapshot L where
  version := SCHEMA_VERSION
  load := if args.load then r.load.toOption else none
  memory := if args.mem then r.memory.toOption.map Prod.fst else none
  swap := if args.mem then r.memory.toOption.map Prod.snd else none
  uptimeUs := r.uptime.toOption
  cpus := if args.cpu then r.cpus.toOption.getD [] else []
  networks := if args.net then r.networks.toOption.getD [] else []
  disks := if args.disk then r.disk.toOption.toList else []
  errors := r.errors args

variable {args} in
/-- A row is about the uptime, or about a facet that was asked. -/
theorem mem_errors {e : SourceError} (he : e ∈ r.errors args) :
    e.Wire [.uptime] ∨ ∃ f, args.asks f = true ∧ e.Wire [f.facet] := by
  have hread : ∀ {α : Type} {read : Except SourceError α}, e ∈ blindness read →
      read = .error e := by
    rintro α (e' | a) hmem
    · rw [List.mem_singleton.mp hmem]
    · cases hmem
  have hblock : ∀ {α : Type} {read : Except SourceError α} (f : HostFlag),
      (∀ e, read = .error e → e.Wire [f.facet]) → (e ∈ if args.asks f then blindness read else []) →
        args.asks f = true ∧ e.Wire [f.facet] := by
    intro α read f hwire hmem
    split_ifs at hmem with hask
    · exact ⟨hask, hwire e (hread hmem)⟩
    · cases hmem
  simp only [errors, List.mem_append] at he
  rcases he with ((((he | he) | he) | he) | he) | he
  · exact Or.inl (r.uptime_blame e (hread he))
  · exact Or.inr ⟨.load, hblock .load r.load_blame he⟩
  · exact Or.inr ⟨.mem, hblock .mem r.memory_blame he⟩
  · exact Or.inr ⟨.cpu, hblock .cpu r.cpus_blame he⟩
  · exact Or.inr ⟨.net, hblock .net r.networks_blame he⟩
  · exact Or.inr ⟨.disk, hblock .disk r.disk_blame he⟩

end HostReadings

/-! ## One facet of a document -/

/-- The row of a source that failed. -/
def asRow [Libc] {α : Type} (facet : Facet) (read : Except (String × Errno) α) :
    Except SourceError α :=
  read.mapError (fun failed => sourceError failed.1 facet failed.2)

namespace HostSnapshot

variable {L : FloatLib} {out : HostSnapshot L} {asked : Bool}

theorem record_uptime [Libc] (read : Except (String × Errno) UInt64) :
    (HostSnapshot.new : HostSnapshot L).record true .uptime setUptime read
      = { HostSnapshot.new with
          uptimeUs := (asRow .uptime read).toOption
          errors := blindness (asRow .uptime read) } := by
  cases read <;> rfl

theorem record_load [Libc] (hnone : out.load = none) (read : Except (String × Errno) (Load L)) :
    out.record asked .load setLoad read = { out with
      load := if asked then (asRow .load read).toOption else none
      errors := out.errors ++ if asked then blindness (asRow .load read) else [] } := by
  cases out
  cases hnone
  cases asked <;> cases read <;>
    simp [record, setLoad, pushError, asRow, blindness, Except.mapError, Except.toOption]

theorem record_mem [Libc] (hmemory : out.memory = none) (hswap : out.swap = none)
    (read : Except (String × Errno) (HostMemory × Swap)) :
    out.record asked .mem setMemory read = { out with
      memory := if asked then (asRow .mem read).toOption.map Prod.fst else none
      swap := if asked then (asRow .mem read).toOption.map Prod.snd else none
      errors := out.errors ++ if asked then blindness (asRow .mem read) else [] } := by
  cases out
  cases hmemory
  cases hswap
  cases asked <;> cases read <;> simp [record, setMemory, pushError, asRow, blindness,
    Except.mapError, Except.toOption]

theorem record_cpu [Libc] (hnone : out.cpus = []) (read : Except (String × Errno) (List Cpu)) :
    out.record asked .cpu setCpus read = { out with
      cpus := if asked then (asRow .cpu read).toOption.getD [] else []
      errors := out.errors ++ if asked then blindness (asRow .cpu read) else [] } := by
  cases out
  cases hnone
  cases asked <;> cases read <;> simp [record, setCpus, pushError, asRow, blindness,
    Except.mapError, Except.toOption]

theorem record_disk [Libc] (hnone : out.disks = []) (read : Except (String × Errno) Disk) :
    out.record asked .disk pushDisk read = { out with
      disks := if asked then (asRow .disk read).toOption.toList else []
      errors := out.errors ++ if asked then blindness (asRow .disk read) else [] } := by
  cases out
  cases hnone
  cases asked <;> cases read <;> simp [record, pushDisk, pushError, asRow, blindness,
    Except.mapError, Except.toOption]

/-- Interfaces: a host without any is a source that was blind. -/
def networkReading [Libc] (source : String) : Except Errno (List Network) →
    Except SourceError (List Network)
  | .ok [] => .error (blindOrEmpty source .net)
  | .ok rows => .ok rows
  | .error err => .error (sourceError source .net err)

open Linux in
theorem linux_networks (hnone : out.networks = []) (read : Except Errno (List Network)) :
    Linux.recordNetworks asked read out = { out with
      networks := if asked then (networkReading "proc_net_dev" read).toOption.getD [] else []
      errors := out.errors
        ++ if asked then blindness (networkReading "proc_net_dev" read) else [] } := by
  cases out
  cases hnone
  cases asked
  · simp [Linux.recordNetworks]
  · rcases read with err | _ | ⟨row, rows⟩ <;> simp [Linux.recordNetworks, networkReading,
      pushError, blindness, Except.toOption]

open Darwin in
theorem darwin_networks (hnone : out.networks = []) (rows : List Network) :
    Darwin.recordNetworks asked rows out = { out with
      networks := if asked then (networkReading "sysinfo_networks" (.ok rows)).toOption.getD []
        else []
      errors := out.errors
        ++ if asked then blindness (networkReading "sysinfo_networks" (.ok rows)) else [] } := by
  cases out
  cases hnone
  cases asked
  · simp [Darwin.recordNetworks]
  · rcases rows with _ | ⟨row, rows⟩ <;> simp [Darwin.recordNetworks, networkReading, pushError,
      blindness, Except.toOption]

end HostSnapshot

/-! ## What the sources are blamed with -/

/-- A reader blames one of these sources, or none. -/
def BlamesOneOf {α : Type} (sources : List String) (read : Except (String × Errno) α) : Prop :=
  ∀ failed, read = .error failed → failed.1 ∈ sources

section BlamesOneOf

variable {α β : Type} {sources : List String}

theorem blamesOneOf_ok (a : α) : BlamesOneOf sources (.ok a) := nofun

theorem blamesOneOf_error {source : String} (err : Errno) (h : source ∈ sources) :
    BlamesOneOf sources (.error (source, err) : Except _ α) := by
  rintro failed hfailed
  obtain rfl := Except.error.inj hfailed
  exact h

theorem blamesOneOf_fromSource {source : String} (read : Except Errno α) (h : source ∈ sources) :
    BlamesOneOf sources (Linux.fromSource source read) := by
  cases read with
  | ok a => exact blamesOneOf_ok a
  | error err => exact blamesOneOf_error err h

theorem BlamesOneOf.bind {read : Except (String × Errno) α} {f : α → Except (String × Errno) β}
    (hread : BlamesOneOf sources read) (hf : ∀ a, BlamesOneOf sources (f a)) :
    BlamesOneOf sources (read >>= f) := by
  cases read with
  | ok a => exact hf a
  | error failed =>
      intro failed' h
      exact hread failed' (congrArg Except.error (Except.error.inj h))

theorem blamesOneOf_mapM {f : α → Except (String × Errno) β} (h : ∀ a, BlamesOneOf sources (f a))
    (l : List α) : BlamesOneOf sources (l.mapM f) := by
  induction l with
  | nil => exact blamesOneOf_ok []
  | cons a l ih =>
      rw [List.mapM_cons]
      exact (h a).bind fun b => ih.bind fun bs => blamesOneOf_ok (b :: bs)

theorem blamesOneOf_ite {c : Prop} [Decidable c] {x y : Except (String × Errno) α}
    (hx : BlamesOneOf sources x) (hy : BlamesOneOf sources y) :
    BlamesOneOf sources (if c then x else y) := by
  split_ifs
  · exact hx
  · exact hy

end BlamesOneOf

theorem wire_of_asRow [Libc] {α : Type} {facet : Facet} {read : Except (String × Errno) α}
    (sources : List String) (h : BlamesOneOf sources read)
    (hsources : ∀ source ∈ sources, source.toList ≠ [] ∧ Plain source.toList) :
    ∀ e, asRow facet read = .error e → e.Wire [facet] := by
  intro e he
  cases read with
  | ok a => cases he
  | error failed =>
      obtain rfl := Except.error.inj he
      obtain ⟨hne, hplain⟩ := hsources _ (h failed rfl)
      exact sourceError_wire (List.mem_singleton_self facet) hne hplain

theorem ok_of_asRow {_ : Libc} {α : Type} {facet : Facet} {read : Except (String × Errno) α} {a : α}
    (h : asRow facet read = .ok a) : read = .ok a := by
  cases read with
  | ok b => exact congrArg Except.ok (Except.ok.inj h)
  | error failed => cases h

theorem wire_of_networkReading [Libc] {source : String} {read : Except Errno (List Network)}
    (hne : source.toList ≠ []) (hplain : Plain source.toList) :
    ∀ e, HostSnapshot.networkReading source read = .error e → e.Wire [.net] := by
  intro e he
  unfold HostSnapshot.networkReading at he
  split at he
  · obtain rfl := Except.error.inj he
    have hcode : BLIND_OR_EMPTY ≠ [] ∧ Plain BLIND_OR_EMPTY := by decide
    exact ⟨List.mem_singleton_self _, hne, hplain, hcode.1, hcode.2⟩
  · cases he
  · obtain rfl := Except.error.inj he
    exact sourceError_wire (List.mem_singleton_self _) hne hplain

theorem ok_of_networkReading {_ : Libc} {source : String} {read : Except Errno (List Network)}
    {rows : List Network} (h : HostSnapshot.networkReading source read = .ok rows) :
    read = .ok rows ∧ rows ≠ [] := by
  unfold HostSnapshot.networkReading at h
  split at h
  case h_1 => cases h
  case h_2 rows' hne =>
      obtain rfl := Except.ok.inj h
      exact ⟨rfl, hne⟩
  case h_3 => cases h

/-! ## Cores -/

/-- A core as the document needs it: with a model, and no frequency of zero. -/
def CoreOk (row : Cpu) : Prop := row.model ≠ [] ∧ row.frequencyMhz ≠ some 0

/-- An invariant of a loop that can fail. -/
theorem foldlM_invariant {ε α β : Type} {step : β → α → Except ε β} {P : β → Prop}
    (hstep : ∀ b a b', P b → step b a = .ok b' → P b') {l : List α} {b b' : β} (hb : P b)
    (h : l.foldlM step b = .ok b') : P b' := by
  induction l generalizing b with
  | nil =>
      cases h
      exact hb
  | cons a l ih =>
      obtain ⟨mid, hmid, hrest⟩ := bind_ok_iff.mp h
      exact ih (hstep b a mid hb hmid) hrest

/-- What a loop returned, it returned for some element. -/
theorem exists_of_mapM_ok {ε α β : Type} {f : α → Except ε β} {l : List α} {bs : List β}
    (h : l.mapM f = .ok bs) {b : β} (hb : b ∈ bs) : ∃ a ∈ l, f a = .ok b := by
  have hrel := mapM_ok_iff.mp h
  clear h
  induction hrel with
  | nil => cases hb
  | @cons a b' l bs hab hrest ih =>
      rcases List.mem_cons.mp hb with rfl | hb
      · exact ⟨a, List.mem_cons_self, hab⟩
      · obtain ⟨a', ha', hok⟩ := ih hb
        exact ⟨a', List.mem_cons_of_mem _ ha', hok⟩

namespace Linux

section Cores

variable {L : FloatLib} {F : F64Lib L}

/-- A frequency that was read is not zero. -/
theorem cpuinfoLine_frequency (block : CpuBlock) (line : Text) (block' : CpuBlock)
    (hblock : block.frequencyMhz ≠ some 0) (h : cpuinfoLine F block line = .ok block') :
    block'.frequencyMhz ≠ some 0 := by
  unfold cpuinfoLine at h
  split at h
  · cases h
    exact hblock
  · split_ifs at h
    · obtain ⟨core, -, h⟩ := bind_ok_iff.mp h
      cases h
      exact hblock
    · cases h
      exact hblock
    · obtain ⟨mhz, -, h⟩ := bind_ok_iff.mp h
      split_ifs at h
      cases h
      show (if F.roundU64 mhz > 0 then some (F.roundU64 mhz) else none) ≠ some 0
      split_ifs with hpos
      · intro hzero
        rw [Option.some.inj hzero] at hpos
        exact absurd hpos (by decide)
      · exact nofun
    · cases h
      exact hblock

/-- What a block says of a core: a model, and no frequency of zero. -/
theorem cpuinfoBlock_ok {block : Text} {entry : UInt32 × Text × Option UInt64}
    (h : cpuinfoBlock F block = .ok (some entry)) : entry.2.1 ≠ [] ∧ entry.2.2 ≠ some 0 := by
  unfold cpuinfoBlock at h
  obtain ⟨read, hread, h⟩ := bind_ok_iff.mp h
  have hnone : (⟨none, none, none⟩ : CpuBlock).frequencyMhz ≠ some 0 := nofun
  have hfrequency : read.frequencyMhz ≠ some 0 :=
    foldlM_invariant (P := fun b : CpuBlock => b.frequencyMhz ≠ some 0) cpuinfoLine_frequency hnone
      hread
  split at h
  · cases h
  · split at h
    · cases h
    · rename_i model hmodel
      cases h
      obtain ⟨-, hne⟩ := Option.filter_eq_some_iff.mp hmodel
      exact ⟨by simpa using hne, hfrequency⟩

/-- The model and the frequency of a row are those of an entry. -/
theorem entry_of_cpuOfLine {metadata : List (UInt32 × Text × Option UInt64)} {hz : UInt64}
    {line : Text} {row : Cpu} (h : cpuOfLine metadata hz line = .ok (some row)) :
    ∃ entry ∈ metadata, row.model = entry.2.1 ∧ row.frequencyMhz = entry.2.2 := by
  unfold cpuOfLine at h
  split at h
  · cases h
  · split at h
    · cases h
    · obtain ⟨vals, -, h⟩ := bind_ok_iff.mp h
      split_ifs at h
      split at h
      · cases h
      · rename_i model frequency hinserted
        cases h
        exact ⟨_, mem_of_inserted hinserted, rfl, rfl⟩

theorem readCpuMetadata_ok {os : Os} {metadata : List (UInt32 × Text × Option UInt64)}
    (h : readCpuMetadata F os = .ok metadata) :
    ∀ entry ∈ metadata, entry.2.1 ≠ [] ∧ entry.2.2 ≠ some 0 := by
  unfold readCpuMetadata at h
  obtain ⟨body, -, h⟩ := bind_ok_iff.mp h
  obtain ⟨entries, hentries, h⟩ := bind_ok_iff.mp h
  simp only [] at h
  split_ifs at h
  obtain rfl := Except.ok.inj h
  intro entry hentry
  obtain ⟨read, hread, hsome⟩ := List.mem_filterMap.mp hentry
  obtain rfl : read = some entry := hsome
  obtain ⟨block, -, hblock⟩ := exists_of_mapM_ok (fromSource_ok hentries) hread
  exact cpuinfoBlock_ok hblock

theorem readCpus_ok {os : Os} {rows : List Cpu} (h : readCpus F os = .ok rows) :
    rows ≠ [] ∧ ∀ row ∈ rows, CoreOk row := by
  unfold readCpus at h
  obtain ⟨metadata, hmetadata, h⟩ := bind_ok_iff.mp h
  obtain ⟨s, -, h⟩ := bind_ok_iff.mp h
  obtain ⟨hz, -, h⟩ := bind_ok_iff.mp h
  obtain ⟨out, hout, h⟩ := bind_ok_iff.mp h
  simp only [] at h
  split_ifs at h with hempty
  obtain rfl := Except.ok.inj h
  refine ⟨fun hnil => hempty (by rw [hnil]; rfl), fun row hrow => ?_⟩
  obtain ⟨read, hread, hsome⟩ := List.mem_filterMap.mp hrow
  obtain rfl : read = some row := hsome
  obtain ⟨line, -, hline⟩ := exists_of_mapM_ok hout hread
  obtain ⟨entry, hentry, hmodel, hfrequency⟩ := entry_of_cpuOfLine hline
  obtain ⟨hne, hpos⟩ := readCpuMetadata_ok hmetadata _ hentry
  exact ⟨hmodel ▸ hne, hfrequency ▸ hpos⟩

end Cores

/-! ## The readings of Linux -/

section Host

variable {L : FloatLib} (F : F64Lib L) (os : HostOs)

def CPU_SOURCES : List String := ["proc_cpuinfo", "proc_stat_cpu", "sysconf_clk_tck"]

theorem readCpus_sources (os : Os) : BlamesOneOf CPU_SOURCES (readCpus F os) := by
  have hline : ∀ metadata hz line, BlamesOneOf CPU_SOURCES (cpuOfLine metadata hz line) := by
    intro metadata hz line
    unfold cpuOfLine
    split
    · exact blamesOneOf_ok none
    · split
      · exact blamesOneOf_ok none
      · refine (blamesOneOf_fromSource _ (by decide)).bind fun vals => ?_
        refine blamesOneOf_ite (blamesOneOf_error _ (by decide)) ?_
        split
        · exact blamesOneOf_error _ (by decide)
        · exact blamesOneOf_ok _
  unfold readCpus readCpuMetadata
  refine BlamesOneOf.bind ?_ fun metadata => ?_
  · refine (blamesOneOf_fromSource _ (by decide)).bind fun body => ?_
    refine (blamesOneOf_fromSource _ (by decide)).bind fun entries => ?_
    exact blamesOneOf_ite (blamesOneOf_error _ (by decide)) (blamesOneOf_ok _)
  · refine (blamesOneOf_fromSource _ (by decide)).bind fun s => ?_
    refine (blamesOneOf_fromSource _ (by decide)).bind fun hz => ?_
    refine (blamesOneOf_mapM (hline metadata hz) _).bind fun rows => ?_
    exact blamesOneOf_ite (blamesOneOf_error _ (by decide)) (blamesOneOf_ok _)

theorem plain_readNetworks {os : Os} {rows : List Network} (h : readNetworks os = .ok rows) :
    ∀ row ∈ rows, Plain row.name := by
  unfold readNetworks at h
  obtain ⟨s, -, h⟩ := bind_ok_iff.mp h
  cases h
  intro row hrow
  obtain ⟨line, -, hline⟩ := List.mem_filterMap.mp hrow
  unfold networkOfLine at hline
  obtain ⟨⟨name, vals⟩, -, hline⟩ := Option.bind_eq_some_iff.mp hline
  simp only [] at hline
  split_ifs at hline
  obtain ⟨rx, -, hline⟩ := Option.bind_eq_some_iff.mp hline
  obtain ⟨tx, -, hline⟩ := Option.bind_eq_some_iff.mp hline
  cases hline
  exact plain_sanitizeName _

/-- What the Linux readers found out. -/
def readings : HostReadings L where
  uptime := asRow .uptime (fromSource "proc_uptime" (uptimeUs os.toOs))
  load := asRow .load (fromSource "proc_loadavg" (readLoad F os.toOs))
  memory := asRow .mem (fromSource "proc_meminfo" (readHostMemory os.toOs))
  cpus := asRow .cpu (readCpus F os.toOs)
  networks := HostSnapshot.networkReading "proc_net_dev" (readNetworks os.toOs)
  disk := asRow .disk (fromSource "statvfs_root" (readRootDisk os))
  uptime_blame := wire_of_asRow ["proc_uptime"] (blamesOneOf_fromSource _ (by decide)) (by decide)
  load_blame := wire_of_asRow ["proc_loadavg"] (blamesOneOf_fromSource _ (by decide)) (by decide)
  memory_blame := wire_of_asRow ["proc_meminfo"] (blamesOneOf_fromSource _ (by decide)) (by decide)
  cpus_blame := wire_of_asRow CPU_SOURCES (readCpus_sources F os.toOs) (by decide)
  networks_blame := wire_of_networkReading (by decide) (by decide)
  disk_blame := wire_of_asRow ["statvfs_root"] (blamesOneOf_fromSource _ (by decide)) (by decide)
  networks_ne_nil _ h := (ok_of_networkReading h).2
  cpu_ok _ h := (readCpus_ok (ok_of_asRow h)).2
  network_ok _ h := plain_readNetworks (ok_of_networkReading h).1
  disk_ok row h := by
    obtain ⟨st, -, hst⟩ := bind_ok_iff.mp (fromSource_ok (ok_of_asRow h))
    cases hst
    exact (by decide : Plain "/".toList)

/-- **Linux tells its readings.** -/
theorem host_eq (args : HostArgs) : host F os args = (readings F os).document args := by
  unfold host
  simp only [HostSnapshot.record_uptime]
  rw [HostSnapshot.record_load rfl, HostSnapshot.record_mem rfl rfl, HostSnapshot.record_cpu rfl,
    HostSnapshot.linux_networks rfl, HostSnapshot.record_disk rfl]
  rfl

end Host

end Linux

namespace Darwin

section Host

variable {L : FloatLib} (os : HostOs L)

theorem blamesOneOf_blamed {α : Type} {sources : List String} {source : String}
    (read : Except Errno α) (h : source ∈ sources) : BlamesOneOf sources (blamed source read) :=
  blamesOneOf_fromSource read h

def MEMORY_SOURCES : List String :=
  ["hw_memsize", "sysconf_pagesize", "host_vm_info64", "vm_swapusage"]

theorem readHostMemory_sources : BlamesOneOf MEMORY_SOURCES (readHostMemory os) := by
  unfold readHostMemory
  refine (blamesOneOf_blamed _ (by decide)).bind fun total => ?_
  refine blamesOneOf_ite (blamesOneOf_error _ (by decide)) ?_
  refine (blamesOneOf_blamed _ (by decide)).bind fun stats => ?_
  refine (blamesOneOf_blamed _ (by decide)).bind fun swap => ?_
  exact blamesOneOf_ite (blamesOneOf_error _ (by decide)) (blamesOneOf_ok _)

def CPU_SOURCES : List String :=
  ["machdep_cpu_brand_string", "hw_cpufrequency", "host_processor_info", "sysconf_clk_tck",
    "vm_deallocate"]

theorem readFrequency_sources : BlamesOneOf CPU_SOURCES (readFrequency os) := by
  unfold readFrequency
  split
  · refine blamesOneOf_ite (blamesOneOf_ok _) (blamesOneOf_ite (blamesOneOf_ok _) ?_)
    exact blamesOneOf_ite (blamesOneOf_ok _) (blamesOneOf_error _ (by decide))
  · exact blamesOneOf_ite (blamesOneOf_ok _) (blamesOneOf_error _ (by decide))

theorem readCpus_sources : BlamesOneOf CPU_SOURCES (readCpus os) := by
  unfold readCpus
  refine (blamesOneOf_blamed _ (by decide)).bind fun model => ?_
  refine blamesOneOf_ite (blamesOneOf_error _ (by decide)) ?_
  refine (readFrequency_sources os).bind fun frequencyMhz => ?_
  refine (blamesOneOf_blamed _ (by decide)).bind fun processors => ?_
  split
  · exact blamesOneOf_error _ (by decide)
  · refine blamesOneOf_ite (blamesOneOf_error _ (by decide)) ?_
    refine blamesOneOf_ite (blamesOneOf_error _ (by decide)) ?_
    exact blamesOneOf_ite (blamesOneOf_error _ (by decide)) (blamesOneOf_ok _)

theorem megahertz_ne_zero (hz : UInt64) : megahertz hz ≠ some 0 := by
  unfold megahertz
  split_ifs with hpos
  · intro hzero
    rw [Option.some.inj hzero] at hpos
    exact absurd hpos (by decide)
  · exact nofun

theorem readFrequency_ok {os : HostOs L} {frequencyMhz : Option UInt64}
    (h : readFrequency os = .ok frequencyMhz) :
    frequencyMhz = none ∨ ∃ hz, frequencyMhz = megahertz hz := by
  unfold readFrequency at h
  split at h
  · split_ifs at h
    · exact Or.inl (Except.ok.inj h).symm
    · exact Or.inr ⟨_, (Except.ok.inj h).symm⟩
    · exact Or.inr ⟨_, (Except.ok.inj h).symm⟩
  · split_ifs at h
    exact Or.inl (Except.ok.inj h).symm

theorem readFrequency_ne_zero {os : HostOs L} {frequencyMhz : Option UInt64}
    (h : readFrequency os = .ok frequencyMhz) : frequencyMhz ≠ some 0 := by
  rcases readFrequency_ok h with rfl | ⟨hz, rfl⟩
  · exact nofun
  · exact megahertz_ne_zero hz

theorem readCpus_ok {os : HostOs L} {rows : List Cpu} (h : readCpus os = .ok rows) :
    ∀ row ∈ rows, CoreOk row := by
  unfold readCpus at h
  obtain ⟨model, -, h⟩ := bind_ok_iff.mp h
  by_cases hmodel : model.isEmpty = true
  · rw [if_pos hmodel] at h
    cases h
  rw [if_neg hmodel] at h
  obtain ⟨frequencyMhz, hfrequency, h⟩ := bind_ok_iff.mp h
  obtain ⟨processors, -, h⟩ := bind_ok_iff.mp h
  split at h
  · cases h
  · split_ifs at h
    cases h
    intro row hrow
    obtain ⟨core, -, rfl⟩ := List.mem_map.mp hrow
    exact ⟨fun hnil => hmodel (List.isEmpty_iff.mpr hnil), readFrequency_ne_zero hfrequency⟩

theorem plain_readNetworks : ∀ row ∈ readNetworks os, Plain row.name := by
  intro row hrow
  obtain ⟨network, -, rfl⟩ := List.mem_map.mp (mem_sortByKey.mp hrow)
  exact plain_sanitizeName network.name

/-- What the darwin readers found out. -/
def readings : HostReadings L where
  uptime := asRow .uptime (blamed "kern_boottime" (uptimeUs os))
  load := asRow .load (blamed "getloadavg" (readLoad os))
  memory := asRow .mem (readHostMemory os)
  cpus := asRow .cpu (readCpus os)
  networks := HostSnapshot.networkReading "sysinfo_networks" (.ok (readNetworks os))
  disk := asRow .disk (blamed "statvfs_root" (readRootDisk os))
  uptime_blame := wire_of_asRow ["kern_boottime"] (blamesOneOf_blamed _ (by decide)) (by decide)
  load_blame := wire_of_asRow ["getloadavg"] (blamesOneOf_blamed _ (by decide)) (by decide)
  memory_blame := wire_of_asRow MEMORY_SOURCES (readHostMemory_sources os) (by decide)
  cpus_blame := wire_of_asRow CPU_SOURCES (readCpus_sources os) (by decide)
  networks_blame := wire_of_networkReading (by decide) (by decide)
  disk_blame := wire_of_asRow ["statvfs_root"] (blamesOneOf_blamed _ (by decide)) (by decide)
  networks_ne_nil _ h := (ok_of_networkReading h).2
  cpu_ok _ h := readCpus_ok (ok_of_asRow h)
  network_ok _ h := by
    obtain rfl := Except.ok.inj (ok_of_networkReading h).1
    exact plain_readNetworks os
  disk_ok row h := by
    obtain ⟨st, -, hst⟩ := bind_ok_iff.mp (Linux.fromSource_ok (ok_of_asRow h))
    cases hst
    exact (by decide : Plain "/".toList)

/-- **Darwin tells its readings.** -/
theorem host_eq (args : HostArgs) : host os args = (readings os).document args := by
  unfold host
  simp only [HostSnapshot.record_uptime]
  rw [HostSnapshot.record_load rfl, HostSnapshot.record_mem rfl rfl, HostSnapshot.record_cpu rfl,
    HostSnapshot.darwin_networks rfl, HostSnapshot.record_disk rfl]
  rfl

end Host

end Darwin

end Osfacts
