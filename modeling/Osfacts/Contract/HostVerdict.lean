import Osfacts.Contract.HostSurvey
import Osfacts.Contract.Verdicts

set_option autoImplicit false

/-! # All of a host document, or an error

The client reads a framed host document whole, or refuses it whole: one count that no double
holds, or one load number that is no decimal fraction, costs every other fact of the host.
-/

namespace Osfacts

open Client

/-! ## The counts of a document -/

def HostMemory.counts (v : HostMemory) : List UInt64 := [v.totalBytes, v.availableBytes]

def Swap.counts (v : Swap) : List UInt64 := [v.totalBytes, v.usedBytes]

def Cpu.counts (v : Cpu) : List UInt64 :=
  [v.userUs, v.systemUs, v.idleUs, v.otherUs] ++ v.frequencyMhz.toList

def Network.counts (v : Network) : List UInt64 := [v.rxBytes, v.txBytes]

def Disk.counts (v : Disk) : List UInt64 := [v.totalBytes, v.availableBytes, v.freeBytes]

namespace HostSnapshot

variable {L : FloatLib} (s : HostSnapshot L)

/-- Every count in a document. -/
def counts : List UInt64 :=
  s.memory.toList.flatMap HostMemory.counts ++ s.swap.toList.flatMap Swap.counts
    ++ s.uptimeUs.toList ++ s.cpus.flatMap Cpu.counts ++ s.networks.flatMap Network.counts
    ++ s.disks.flatMap Disk.counts

/-- The client can hold every value of the document. -/
structure Holdable : Prop where
  counts : ∀ n ∈ s.counts, SafeInteger n
  load : ∀ v, s.load = some v → v.Wire

/-- The rows of the document are rows, and its cores have what every core has. -/
structure Framed : Prop where
  version_eq : s.version = SCHEMA_VERSION
  load : ∀ v, s.load = some v → RowOk v.row
  cpus : ∀ v ∈ s.cpus, CoreOk v
  networks : ∀ v ∈ s.networks, Plain v.name
  disks : ∀ v ∈ s.disks, Plain v.mount
  errors : ∀ e ∈ s.errors, e.Wire Facet.HOST_SOURCE

end HostSnapshot

/-! ## Rows that cannot be held -/

section Rows

variable {J : JsonLib} {L : FloatLib}

/-- A count that is too large, or a rest that is refused. -/
theorem integer_refuses {α : Type} {n : UInt64} {rest : Nat → Except OsfactsClientError α}
    (what : String) (h : SafeInteger n → ∃ e, rest n.toNat = .error e) :
    ∃ e, (integer (some (Decimal.decimal n.toNat)) what >>= rest) = .error e := by
  by_cases hsafe : SafeInteger n
  · rw [integer_decimal hsafe]
    exact h hsafe
  · obtain ⟨e, he⟩ := integer_refused hsafe what
    rw [he]
    exact ⟨e, rfl⟩

theorem twoIntegers_refuse {α : Type} {a b : UInt64} (h : ¬ ∀ n ∈ [a, b], SafeInteger n)
    (whatA whatB : String) (build : Nat → Nat → α) :
    ∃ e, (do
      let x ← integer (some (Decimal.decimal a.toNat)) whatA
      let y ← integer (some (Decimal.decimal b.toNat)) whatB
      pure (build x y)) = .error e := by
  refine integer_refuses whatA fun ha => integer_refuses whatB fun hb => ?_
  exact absurd (by simp [ha, hb]) h

theorem hostRow_memory_refused {v : HostMemory} (h : ¬ ∀ n ∈ v.counts, SafeInteger n)
    (out : HostReading L) : ∃ e, hostRow J L out (tsvLine v.row) = .error e := by
  rw [hostRow, splitOn_tsvLine v.rowOk]
  exact twoIntegers_refuse h "memory total" "memory available"
    (fun total available => { out with memory := some (HostMemoryRow.mk total available) })

theorem hostRow_swap_refused {v : Swap} (h : ¬ ∀ n ∈ v.counts, SafeInteger n)
    (out : HostReading L) : ∃ e, hostRow J L out (tsvLine v.row) = .error e := by
  rw [hostRow, splitOn_tsvLine v.rowOk]
  exact twoIntegers_refuse h "swap total" "swap used"
    (fun total used => { out with swap := some (SwapRow.mk total used) })

theorem hostRow_uptime_refused {v : UInt64} (h : ¬ SafeInteger v) (out : HostReading L) :
    ∃ e, hostRow J L out (tsvLine (uptimeRow v)) = .error e := by
  rw [hostRow, splitOn_tsvLine (uptimeRow_ok v)]
  exact integer_refuses "uptime" fun hsafe => absurd hsafe h

theorem networkRow_ok {v : Network} (h : Plain v.name) : RowOk v.row := by
  apply rowOk_cons (by decide) (by decide)
  simp only [List.forall_mem_cons, List.not_mem_nil, false_imp_iff, implies_true, and_true]
  exact ⟨h, plain_decimal _, plain_decimal _⟩

theorem hostRow_network_refused {v : Network} (hname : Plain v.name)
    (h : ¬ ∀ n ∈ v.counts, SafeInteger n) (out : HostReading L) :
    ∃ e, hostRow J L out (tsvLine v.row) = .error e := by
  rw [hostRow, splitOn_tsvLine (networkRow_ok hname)]
  exact twoIntegers_refuse h "network rx" "network tx"
    (fun rx tx => { out with networks := out.networks ++ [NetworkRow.mk v.name rx tx] })

theorem diskRow_ok {v : Disk} (h : Plain v.mount) : RowOk v.row := by
  apply rowOk_cons (by decide) (by decide)
  simp only [List.forall_mem_cons, List.not_mem_nil, false_imp_iff, implies_true, and_true]
  exact ⟨h, plain_decimal _, plain_decimal _, plain_decimal _⟩

theorem hostRow_disk_refused {v : Disk} (hmount : Plain v.mount)
    (h : ¬ ∀ n ∈ v.counts, SafeInteger n) (out : HostReading L) :
    ∃ e, hostRow J L out (tsvLine v.row) = .error e := by
  rw [hostRow, splitOn_tsvLine (diskRow_ok hmount)]
  refine integer_refuses "disk total" fun htotal => ?_
  refine integer_refuses "disk available" fun havailable => ?_
  refine integer_refuses "disk free" fun hfree => ?_
  exact absurd (by simp [Disk.counts, htotal, havailable, hfree]) h

/-- The frequency of a core, of which there is none or one that can be held. -/
theorem frequency_refuses {α : Type} {frequency : Option UInt64}
    {rest : Option Nat → Except OsfactsClientError α}
    (h : (∀ n ∈ frequency.toList, SafeInteger n) →
      ∃ e, rest (frequency.map UInt64.toNat) = .error e)
    (hpos : frequency ≠ some 0) :
    ∃ e, (dashOr (some (orDash (frequency.map UInt64.toNat)))
      (positiveInteger (some (orDash (frequency.map UInt64.toNat))) "cpu frequency MHz")
        >>= rest) = .error e := by
  cases frequency with
  | none => exact h (by simp)
  | some hz =>
      have hne : ¬ some (Decimal.decimal hz.toNat) = some "-".toList := by
        rw [Option.some.injEq]
        exact decimal_ne_dash _
      show ∃ e, (dashOr (some (Decimal.decimal hz.toNat))
        (positiveInteger (some (Decimal.decimal hz.toNat)) "cpu frequency MHz") >>= rest) = .error e
      rw [dashOr, if_neg hne]
      by_cases hsafe : SafeInteger hz
      · have hzero : hz.toNat ≠ 0 := fun hz' => hpos (congrArg some (UInt64.toNat_inj.mp hz'))
        rw [positiveInteger_decimal hsafe hzero]
        exact h (by simpa using hsafe)
      · obtain ⟨e, he⟩ := integer_refused hsafe "cpu frequency MHz"
        rw [positiveInteger, he]
        exact ⟨e, rfl⟩

/-- What a core is read from, after its model and its number. -/
theorem cpuRow_counts (hJ : J.Lawful) {v : Cpu} (hmodel : v.model ≠ []) (line : Text) :
    cpuRow J (v.row J) line = (do
      let userUs ← integer (some (Decimal.decimal v.userUs.toNat)) "cpu user"
      let systemUs ← integer (some (Decimal.decimal v.systemUs.toNat)) "cpu system"
      let idleUs ← integer (some (Decimal.decimal v.idleUs.toNat)) "cpu idle"
      let otherUs ← integer (some (Decimal.decimal v.otherUs.toNat)) "cpu other"
      let frequencyMhz ← dashOr (some (orDash (v.frequencyMhz.map UInt64.toNat)))
        (positiveInteger (some (orDash (v.frequencyMhz.map UInt64.toNat))) "cpu frequency MHz")
      pure ⟨v.core.toNat, userUs, systemUs, idleUs, otherUs, v.model, frequencyMhz⟩) := by
  have hlength : ¬ v.model.length = 0 := fun hz => hmodel (List.length_eq_zero_iff.mp hz)
  show (jsonString J (some (J.toString v.model)) "cpu model" >>= _) = _
  rw [jsonString_toString hJ]
  show (if v.model.length = 0 then _ else _) = _
  rw [if_neg hlength]
  show (integer (some (Decimal.decimal v.core.toNat)) "cpu core" >>= _) = _
  rw [integer_uint32]
  rfl

theorem hostRow_cpu_refused (hJ : J.Lawful) {v : Cpu} (hok : CoreOk v)
    (h : ¬ ∀ n ∈ v.counts, SafeInteger n) (out : HostReading L) :
    ∃ e, hostRow J L out (tsvLine (v.row J)) = .error e := by
  have hrow : ∃ e, cpuRow J (v.row J) (tsvLine (v.row J)) = .error e := by
    rw [cpuRow_counts hJ hok.1]
    refine integer_refuses "cpu user" fun huser => ?_
    refine integer_refuses "cpu system" fun hsystem => ?_
    refine integer_refuses "cpu idle" fun hidle => ?_
    refine integer_refuses "cpu other" fun hother => ?_
    refine frequency_refuses (fun hfrequency => absurd ?_ h) hok.2
    intro n hn
    rcases List.mem_append.mp hn with hn | hn
    · simp only [List.mem_cons, List.not_mem_nil, or_false] at hn
      rcases hn with rfl | rfl | rfl | rfl
      · exact huser
      · exact hsystem
      · exact hidle
      · exact hother
    · exact hfrequency n hn
  obtain ⟨e, he⟩ := hrow
  rw [hostRow, splitOn_tsvLine (v.rowOk hJ)]
  show ∃ e', (cpuRow J (v.row J) (tsvLine (v.row J)) >>= _) = .error e'
  rw [he]
  exact ⟨e, rfl⟩

/-- A load number that is not read, or a rest that is refused. -/
theorem float_refuses {α : Type} {t : Text} {rest : L.Number → Except OsfactsClientError α}
    (what : String)
    (h : isDecimalFraction t = true ∧ L.isFinite (L.number t) = true →
      ∃ e, rest (L.number t) = .error e) :
    ∃ e, (float L (some t) what >>= rest) = .error e := by
  by_cases hshape : isDecimalFraction t = true
  · by_cases hfinite : L.isFinite (L.number t) = true
    · rw [float_display hshape hfinite]
      exact h ⟨hshape, hfinite⟩
    · simp only [float, numeric, hshape, if_true]
      rw [if_neg hfinite]
      exact ⟨_, rfl⟩
  · simp only [float, numeric]
    rw [if_neg hshape]
    exact ⟨_, rfl⟩

theorem hostRow_load_refused {v : Load L} (hok : RowOk v.row) (h : ¬ v.Wire)
    (out : HostReading L) : ∃ e, hostRow J L out (tsvLine v.row) = .error e := by
  rw [hostRow, splitOn_tsvLine hok]
  refine float_refuses "load1" fun hone => float_refuses "load5" fun hfive => ?_
  refine float_refuses "load15" fun hfifteen => absurd ?_ h
  simp only [Load.Wire, List.forall_mem_cons, List.not_mem_nil, false_imp_iff, implies_true,
    and_true]
  exact ⟨hone, hfive, hfifteen⟩

end Rows

/-! ## The verdict -/

section Verdict

variable {J : JsonLib} {L : FloatLib} {s : HostSnapshot L}

theorem HostSnapshot.Framed.bodyRows_ok (hJ : J.Lawful) (h : s.Framed) :
    ∀ columns ∈ s.bodyRows J, RowOk columns := by
  intro columns hc
  simp only [HostSnapshot.bodyRows, List.mem_append, List.mem_map, Option.mem_toList] at hc
  rcases hc with ((((((hc | hc) | hc) | hc) | hc) | hc) | hc) | hc
  all_goals obtain ⟨x, hx, rfl⟩ := hc
  · exact h.load x hx
  · exact x.rowOk
  · exact x.rowOk
  · exact uptimeRow_ok x
  · exact x.rowOk hJ
  · exact networkRow_ok (h.networks x hx)
  · exact diskRow_ok (h.disks x hx)
  · exact SourceError.rowOk (h.errors x hx)

theorem parseHostOutput_eq_foldlM (hJ : J.Lawful) (h : s.Framed) :
    parseHostOutput J L (writeTsv J s)
      = (s.bodyRows J).foldlM (fun out columns => hostRow J L out (tsvLine columns))
          emptyHostReading := by
  rw [parseHostOutput, writeTsv, HostSnapshot.tsvRows_eq, h.version_eq,
    parseRows_tsv _ _ (h.bodyRows_ok hJ)]

/-- The counts of a document are those of its rows. -/
theorem HostSnapshot.forall_mem_counts {P : UInt64 → Prop} : (∀ n ∈ s.counts, P n) ↔
    (∀ v, s.memory = some v → ∀ n ∈ v.counts, P n) ∧ (∀ v, s.swap = some v → ∀ n ∈ v.counts, P n)
      ∧ (∀ v, s.uptimeUs = some v → P v) ∧ (∀ v ∈ s.cpus, ∀ n ∈ v.counts, P n)
      ∧ (∀ v ∈ s.networks, ∀ n ∈ v.counts, P n) ∧ ∀ v ∈ s.disks, ∀ n ∈ v.counts, P n := by
  simp only [HostSnapshot.counts, List.forall_mem_append, List.forall_mem_flatMap,
    Option.mem_toList, and_assoc]

theorem HostSnapshot.Holdable.wire (h : s.Holdable) (hframed : s.Framed) : s.Wire := by
  obtain ⟨hmemory, hswap, huptime, hcpus, hnetworks, hdisks⟩ :=
    HostSnapshot.forall_mem_counts.mp h.counts
  refine ⟨hframed.version_eq, h.load, fun v hv => ?_, fun v hv => ?_, huptime, fun v hv => ?_,
    fun v hv => ?_, fun v hv => ?_, hframed.errors⟩
  · have hcounts := hmemory v hv
    simp only [HostMemory.counts, List.forall_mem_cons] at hcounts
    exact ⟨hcounts.1, hcounts.2.1⟩
  · have hcounts := hswap v hv
    simp only [Swap.counts, List.forall_mem_cons] at hcounts
    exact ⟨hcounts.1, hcounts.2.1⟩
  · have hcounts := hcpus v hv
    obtain ⟨hne, hpos⟩ := hframed.cpus v hv
    simp only [Cpu.counts, List.forall_mem_append, List.forall_mem_cons, Option.mem_toList]
      at hcounts
    obtain ⟨⟨huser, hsystem, hidle, hother, -⟩, hfrequency⟩ := hcounts
    refine ⟨huser, hsystem, hidle, hother, hne, fun f hf => ⟨hfrequency f hf, ?_⟩⟩
    rintro rfl
    exact hpos hf
  · have hcounts := hnetworks v hv
    simp only [Network.counts, List.forall_mem_cons] at hcounts
    exact ⟨hframed.networks v hv, hcounts.1, hcounts.2.1⟩
  · have hcounts := hdisks v hv
    simp only [Disk.counts, List.forall_mem_cons] at hcounts
    exact ⟨hframed.disks v hv, hcounts.1, hcounts.2.1, hcounts.2.2.1⟩

/-- Where a document cannot be held, one of its rows cannot be read. -/
theorem HostSnapshot.exists_refused (hJ : J.Lawful) (hframed : s.Framed) (h : ¬ s.Holdable) :
    ∃ columns ∈ s.bodyRows J, ∀ out, ∃ e, hostRow J L out (tsvLine columns) = .error e := by
  by_contra hnone
  push Not at hnone
  -- every row is read somewhere, so no row is one of those that never are
  have hread : ∀ columns ∈ s.bodyRows J,
      ¬ ∀ out, ∃ e, hostRow J L out (tsvLine columns) = .error e := by
    intro columns hc hall
    obtain ⟨out, hout⟩ := hnone columns hc
    obtain ⟨e, he⟩ := hall out
    exact hout e he
  simp only [HostSnapshot.bodyRows, List.forall_mem_append, List.forall_mem_map,
    Option.mem_toList, and_assoc] at hread
  obtain ⟨hload, hmemory, hswap, huptime, hcpus, hnetworks, hdisks, -⟩ := hread
  refine h ⟨HostSnapshot.forall_mem_counts.mpr ⟨fun v hv => ?_, fun v hv => ?_, fun v hv => ?_,
    fun v hv => ?_, fun v hv => ?_, fun v hv => ?_⟩, fun v hv => ?_⟩
  · exact of_not_not fun hlarge => hmemory v hv (hostRow_memory_refused hlarge)
  · exact of_not_not fun hlarge => hswap v hv (hostRow_swap_refused hlarge)
  · exact of_not_not fun hlarge => huptime v hv (hostRow_uptime_refused hlarge)
  · exact of_not_not fun hlarge =>
      hcpus v hv (hostRow_cpu_refused hJ (hframed.cpus v hv) hlarge)
  · exact of_not_not fun hlarge =>
      hnetworks v hv (hostRow_network_refused (hframed.networks v hv) hlarge)
  · exact of_not_not fun hlarge =>
      hdisks v hv (hostRow_disk_refused (hframed.disks v hv) hlarge)
  · exact of_not_not fun hshape =>
      hload v hv (hostRow_load_refused (hframed.load v hv) hshape)

/-- What the client makes of a framed host document: all of it, or a parse error. -/
theorem host_verdict_of_framed (hJ : J.Lawful) (hframed : s.Framed) :
    (s.Holdable ∧ parseHostOutput J L (writeTsv J s) = .ok s.view) ∨
    ¬ s.Holdable ∧
      ∃ message, parseHostOutput J L (writeTsv J s) = .error (.parse message) := by
  by_cases h : s.Holdable
  · exact Or.inl ⟨h, parseHostOutput_writeTsv hJ (h.wire hframed)⟩
  · obtain ⟨columns, hc, hrefused⟩ := HostSnapshot.exists_refused hJ hframed h
    rw [parseHostOutput_eq_foldlM hJ hframed]
    have honly : ParseOnly ((s.bodyRows J).foldlM
        (fun out columns => hostRow J L out (tsvLine columns)) emptyHostReading) :=
      parseOnly_foldlM _ (fun out row => hostRow_parseOnly out (tsvLine row)) _
    have hfold : ∃ e, (s.bodyRows J).foldlM
        (fun out columns => hostRow J L out (tsvLine columns)) emptyHostReading = .error e :=
      foldlM_of_unreadable hc hrefused emptyHostReading
    obtain ⟨e, he⟩ := hfold
    obtain ⟨message, rfl⟩ := honly e he
    exact Or.inr ⟨h, message, he⟩

end Verdict

/-! ## What the readers build -/

/-- A row that is told was read. -/
theorem exists_of_mem_told {ε α : Type} {asked : Bool} {read : Except ε (List α)} {a : α}
    (h : a ∈ if asked then read.toOption.getD [] else []) : ∃ rows, read = .ok rows ∧ a ∈ rows := by
  split_ifs at h
  · cases read with
    | ok rows => exact ⟨rows, rfl, h⟩
    | error e => cases h
  · cases h

theorem SourceError.Wire.mono {facets facets' : List Facet} {e : SourceError} (h : e.Wire facets)
    (hsub : facets ⊆ facets') : e.Wire facets' :=
  ⟨hsub h.facet_mem, h.source_ne_nil, h.source_plain, h.code_ne_nil, h.code_plain⟩

/-- What is told of readings is framed, where load numbers are plain text. -/
theorem HostReadings.document_framed {L : FloatLib} (hdisplay : ∀ x, Plain (L.display x))
    (r : HostReadings L) (args : HostArgs) : (r.document args).Framed where
  version_eq := rfl
  load v _ := by
    apply rowOk_cons (by decide) (by decide)
    simp only [List.forall_mem_cons, List.not_mem_nil, false_imp_iff, implies_true, and_true]
    exact ⟨hdisplay _, hdisplay _, hdisplay _⟩
  cpus v hv := by
    obtain ⟨rows, hread, hmem⟩ := exists_of_mem_told hv
    exact r.cpu_ok rows hread v hmem
  networks v hv := by
    obtain ⟨rows, hread, hmem⟩ := exists_of_mem_told hv
    exact r.network_ok rows hread v hmem
  disks v hv := by
    change v ∈ (if args.disk then r.disk.toOption.toList else []) at hv
    split_ifs at hv
    · cases hread : r.disk with
      | ok row =>
          rw [hread] at hv
          rw [List.mem_singleton.mp hv]
          exact r.disk_ok row hread
      | error e =>
          rw [hread] at hv
          cases hv
    · cases hv
  errors e he := by
    rcases r.mem_errors he with hwire | ⟨f, -, hwire⟩
    · exact hwire.mono (by decide)
    · exact hwire.mono (by cases f <;> decide)

end Osfacts
