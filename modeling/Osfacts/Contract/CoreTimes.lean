import Osfacts.Contract.HostCalls
import Osfacts.Contract.IdentityCalls

set_option autoImplicit false

/-! # The times of a core, on darwin

The kernel counts the ticks of a core with 32 bits, and the sensor widens a counter as a signed
number. Up to `2 ^ 31` ticks that changes nothing. A counter from there on reads as the largest
number of microseconds there is; the client cannot hold it, and then no host fact that was asked
with the cores is told.
-/

namespace Osfacts

open Client

namespace Darwin

/-! ## One counter -/

/-- The ticks of a counter, as the kernel counts them. -/
def ticksOf (value : Int32) : Nat := value.toUInt32.toNat

/-- The top bit of the counter is set. -/
def Raised (value : Int32) : Prop := 2 ^ 31 ≤ ticksOf value

instance (value : Int32) : Decidable (Raised value) := inferInstanceAs (Decidable (_ ≤ _))

section Counter

variable {value : Int32}

theorem ticksOf_lt (value : Int32) : ticksOf value < 2 ^ 32 := value.toUInt32.toNat_lt

/-- A counter that is not raised is widened to itself. -/
theorem widened_of_not_raised (h : ¬ Raised value) :
    value.toInt64.toUInt64.toNat = ticksOf value := by
  have hticks : ticksOf value = value.toBitVec.toNat := rfl
  have hint : value.toInt64.toInt = value.toInt := Int32.toInt_toInt64 value
  have hvalue : value.toInt = value.toBitVec.toNat := by
    rw [← Int32.toInt_toBitVec, BitVec.toInt_eq_toNat_cond]
    unfold Raised at h
    rw [if_pos (by omega)]
  have hnonneg : 0 ≤ value.toInt64.toInt := by omega
  rw [toNat_toUInt64 hnonneg, hint, hvalue, hticks]
  omega

/-- A raised one is widened to a number next to `2 ^ 64`. -/
theorem widened_of_raised (h : Raised value) :
    2 ^ 64 - 2 ^ 31 ≤ value.toInt64.toUInt64.toNat := by
  have hticks : ticksOf value = value.toBitVec.toNat := rfl
  have hlt := ticksOf_lt value
  have hwide : value.toInt64.toInt = (value.toBitVec.toNat : Int) - 2 ^ 32 := by
    rw [Int32.toInt_toInt64, ← Int32.toInt_toBitVec, BitVec.toInt_eq_toNat_cond]
    unfold Raised at h
    rw [if_neg (by omega)]
    norm_num
  have hbits : value.toInt64.toInt = if 2 * value.toInt64.toUInt64.toNat < 2 ^ 64 then
      (value.toInt64.toUInt64.toNat : Int)
    else (value.toInt64.toUInt64.toNat : Int) - (2 ^ 64 : Nat) := by
    rw [← Int64.toInt_toBitVec, BitVec.toInt_eq_toNat_cond]
    rfl
  unfold Raised at h
  split_ifs at hbits with hhalf
  · omega
  · omega

variable {hz : UInt64}

theorem counterUs_of_not_raised (h : ¬ Raised value) :
    (counterUs hz value).toNat = ticksOf value * 10 ^ 6 / hz.toNat := by
  have hlt := ticksOf_lt value
  rw [counterUs, UInt64.toNat_div, toNat_saturatingMul, widened_of_not_raised h, toNat_million,
    min_eq_left (by omega)]

theorem counterUs_of_raised (h : Raised value) :
    (counterUs hz value).toNat = (2 ^ 64 - 1) / hz.toNat := by
  have hwide := widened_of_raised h
  rw [counterUs, UInt64.toNat_div, toNat_saturatingMul, toNat_million, min_eq_right (by omega)]

/-- A time is exact where its counter is not raised, whatever the tick rate. -/
theorem counterUs_exact_iff (hpos : 0 < hz.toNat) (hrate : hz.toNat < 2 ^ 63) :
    (counterUs hz value).toNat = ticksOf value * 10 ^ 6 / hz.toNat ↔ ¬ Raised value := by
  constructor
  · intro hexact hraised
    rw [counterUs_of_raised hraised] at hexact
    have hlt := ticksOf_lt value
    -- the largest time is at least a tick above every exact one
    have habove : ticksOf value * 10 ^ 6 / hz.toNat + 1 ≤ (2 ^ 64 - 1) / hz.toNat := by
      calc ticksOf value * 10 ^ 6 / hz.toNat + 1
          = (ticksOf value * 10 ^ 6 + hz.toNat) / hz.toNat := (Nat.add_div_right _ hpos).symm
        _ ≤ (2 ^ 64 - 1) / hz.toNat := Nat.div_le_div_right (by omega)
    omega
  · exact counterUs_of_not_raised

/-- The client can hold the time of a counter that is not raised. -/
theorem counterUs_safe (h : ¬ Raised value) : SafeInteger (counterUs hz value) := by
  have hlt : ticksOf value < 2 ^ 31 := not_le.mp h
  show (counterUs hz value).toNat ≤ MAX_SAFE_INTEGER
  calc (counterUs hz value).toNat
      = ticksOf value * 10 ^ 6 / hz.toNat := counterUs_of_not_raised h
    _ ≤ ticksOf value * 10 ^ 6 := Nat.div_le_self _ _
    _ ≤ 2 ^ 53 - 1 := by omega

/-- It cannot hold that of a raised one, unless the ticks are short. -/
theorem counterUs_unsafe (hpos : 0 < hz.toNat) (hrate : hz.toNat < 2048) (h : Raised value) :
    ¬ SafeInteger (counterUs hz value) := by
  intro hsafe
  have hlarge : 2 ^ 53 ≤ (counterUs hz value).toNat := by
    rw [counterUs_of_raised h, Nat.le_div_iff_mul_le hpos]
    omega
  have hsmall : (counterUs hz value).toNat ≤ 2 ^ 53 - 1 := hsafe
  omega

end Counter

/-! ## The cores -/

/-- The counters of a core. -/
def countersOf (ticks : List Int32) (core : Nat) : List Int32 :=
  [ticks.getD (core * 4) 0, ticks.getD (core * 4 + 1) 0, ticks.getD (core * 4 + 2) 0,
    ticks.getD (core * 4 + 3) 0]

/-- The times of a row, in the order of the counters. -/
def timesOf (row : Cpu) : List UInt64 := [row.userUs, row.systemUs, row.idleUs, row.otherUs]

theorem timesOf_cpuOfCore (ticks : List Int32) (hz : UInt64) (model : Text)
    (frequencyMhz : Option UInt64) (core : Nat) :
    timesOf (cpuOfCore ticks hz model frequencyMhz core)
      = (countersOf ticks core).map (counterUs hz) := rfl

/-- Some counter of some core is raised. -/
def SomeRaised (cores : Nat) (ticks : List Int32) : Prop :=
  ∃ core < cores, ∃ value ∈ countersOf ticks core, Raised value

/-- The time of a counter in microseconds, rounded down. -/
def exactUs (rate : Nat) (value : Int32) : Nat := ticksOf value * 10 ^ 6 / rate

section Cores

variable {L : FloatLib} {os : HostOs L} {cores : UInt32} {ticks : List Int32} {rows : List Cpu}

/-- What the cores are read from. -/
theorem readCpus_eq (hinfo : os.hostProcessorInfo = .ok ⟨cores, some ticks⟩)
    (hrows : readCpus os = .ok rows) :
    0 < os.clkTck ∧ ∃ model frequencyMhz, readFrequency os = .ok frequencyMhz ∧
      rows = (List.range cores.toNat).map
        (cpuOfCore ticks (UInt64.ofInt os.clkTck) model frequencyMhz) := by
  unfold readCpus at hrows
  obtain ⟨model, -, hrows⟩ := bind_ok_iff.mp hrows
  by_cases hmodel : model.isEmpty = true
  · rw [if_pos hmodel] at hrows
    cases hrows
  rw [if_neg hmodel] at hrows
  obtain ⟨frequencyMhz, hfrequency, hrows⟩ := bind_ok_iff.mp hrows
  obtain ⟨processors, hblamed, hrows⟩ := bind_ok_iff.mp hrows
  rw [hinfo] at hblamed
  obtain rfl : ⟨cores, some ticks⟩ = processors := Except.ok.inj hblamed
  simp only at hrows
  split_ifs at hrows with hshort hrate hgiven
  exact ⟨not_le.mp hrate, model, frequencyMhz, hfrequency, (Except.ok.inj hrows).symm⟩

theorem megahertz_safe {hz mhz : UInt64} (h : megahertz hz = some mhz) : SafeInteger mhz := by
  unfold megahertz at h
  split_ifs at h
  obtain rfl := Option.some.inj h
  have hlt := hz.toNat_lt
  show (hz / 1000000).toNat ≤ 2 ^ 53 - 1
  rw [UInt64.toNat_div, toNat_million]
  omega

theorem readFrequency_safe {frequencyMhz : Option UInt64}
    (h : readFrequency os = .ok frequencyMhz) : ∀ mhz ∈ frequencyMhz.toList, SafeInteger mhz := by
  intro mhz hmhz
  rw [Option.mem_toList] at hmhz
  rcases readFrequency_ok h with rfl | ⟨hz, rfl⟩
  · cases hmhz
  · exact megahertz_safe hmhz

variable (hinfo : os.hostProcessorInfo = .ok ⟨cores, some ticks⟩)
  (hrows : readCpus os = .ok rows) (hrate : os.clkTck < 2048)

include hinfo hrows hrate

theorem rate_of_readCpus : (UInt64.ofInt os.clkTck).toNat = os.clkTck.toNat ∧
    0 < (UInt64.ofInt os.clkTck).toNat ∧ (UInt64.ofInt os.clkTck).toNat < 2048 := by
  have hpos := (readCpus_eq hinfo hrows).1
  have heq : (UInt64.ofInt os.clkTck).toNat = os.clkTck.toNat := by
    have hsmall : os.clkTck.toNat < 2048 := by omega
    rw [UInt64.ofInt, Int.emod_eq_of_lt (by omega) (by omega)]
    exact UInt64.toNat_ofNat_of_lt' (lt_trans hsmall (by decide))
  rw [heq]
  omega

/-- **The times are exact** as long as no counter is raised. -/
theorem times_exact_iff :
    rows.map (fun row => (timesOf row).map UInt64.toNat)
        = (List.range cores.toNat).map
            (fun core => (countersOf ticks core).map (exactUs os.clkTck.toNat))
      ↔ ¬ SomeRaised cores.toNat ticks := by
  obtain ⟨heq, hpos, hlt⟩ := rate_of_readCpus hinfo hrows hrate
  obtain ⟨-, model, frequencyMhz, -, rfl⟩ := readCpus_eq hinfo hrows
  rw [List.map_map, List.map_inj_left]
  have hcore : ∀ core, ((fun row => (timesOf row).map UInt64.toNat) ∘
        cpuOfCore ticks (UInt64.ofInt os.clkTck) model frequencyMhz) core
          = (countersOf ticks core).map (exactUs os.clkTck.toNat)
      ↔ ∀ value ∈ countersOf ticks core, ¬ Raised value := by
    intro core
    rw [Function.comp_apply, timesOf_cpuOfCore, List.map_map, List.map_inj_left]
    refine forall₂_congr fun value _ => ?_
    rw [← counterUs_exact_iff hpos (by omega), heq]
    rfl
  simp only [hcore, List.mem_range, SomeRaised, not_exists, not_and]

/-- A raised counter is a count that the client cannot hold. -/
theorem exists_unsafe (h : SomeRaised cores.toNat ticks) :
    ∃ row ∈ rows, ∃ n ∈ row.counts, ¬ SafeInteger n := by
  obtain ⟨-, hpos, hlt⟩ := rate_of_readCpus hinfo hrows hrate
  obtain ⟨-, model, frequencyMhz, -, rfl⟩ := readCpus_eq hinfo hrows
  obtain ⟨core, hcore, value, hvalue, hraised⟩ := h
  refine ⟨_, List.mem_map_of_mem (List.mem_range.mpr hcore), counterUs _ value, ?_,
    counterUs_unsafe hpos hlt hraised⟩
  apply List.mem_append_left
  show _ ∈ timesOf _
  rw [timesOf_cpuOfCore]
  exact List.mem_map_of_mem hvalue

omit hrate in
/-- Without one, every count of the cores can be held. -/
theorem counts_safe (h : ¬ SomeRaised cores.toNat ticks) :
    ∀ row ∈ rows, ∀ n ∈ row.counts, SafeInteger n := by
  obtain ⟨-, model, frequencyMhz, hfrequency, rfl⟩ := readCpus_eq hinfo hrows
  intro row hrow n hn
  obtain ⟨core, hcore, rfl⟩ := List.mem_map.mp hrow
  rcases List.mem_append.mp hn with hn | hn
  · change n ∈ timesOf _ at hn
    rw [timesOf_cpuOfCore] at hn
    obtain ⟨value, hvalue, rfl⟩ := List.mem_map.mp hn
    apply counterUs_safe
    intro hraised
    exact h ⟨core, List.mem_range.mp hcore, value, hvalue, hraised⟩
  · exact readFrequency_safe hfrequency n hn

end Cores

end Darwin

/-! ## The answer of a call for the cores -/

section Calls

variable {L : Lexopt} {ready finished : L.Parser → List Bytes → Prop} {pending : L.Parser → Prop}
variable {J : JsonLib} {F : FloatLib} {W : JsonWriters F} {rt : Runtime} {bin : Text}

/-- The cores alone. -/
def coresAlone : HostFacets := ⟨false, false, true, false, false⟩

end Calls

/-- A machine of one core, five seconds after its boot, and what it has been idle for. -/
def coreHost (idle : Int32) : Darwin.HostOs naturalFloats :=
  { Darwin.familySystem.bare with
    sysctl := fun name =>
      if name == "machdep.cpu.brand_string" then .ok ⟨ascii "chip", by decide⟩
      else if name == "kern.boottime" then .ok ⟨List.replicate 16 0, by decide⟩
      else .error Libc.ENOENT
    nowUs := some 5000000
    hostProcessorInfo := .ok ⟨1, some [100, 0, idle, 0]⟩ }

def coreMachine (idle : Int32) : Runtime :=
  .of "osfacts".toList .standard .standard (noWriters naturalFloats)
    (System.darwin (coreHost idle)).platform

end Osfacts
