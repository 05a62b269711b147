import Osfacts.Contract.CpuBuckets
import Osfacts.Contract.StartOrder
import Osfacts.Linux.Checked

set_option autoImplicit false

/-! # The numbers of the Linux readers

Five readers compute with numbers that they parse from text. A reader is sound on an input if no
sum and no product on the way passes 64 bits, and what it returns is the exact value. The inputs on
which it is sound are those whose numbers stay in a range, and whose seconds have a form, that the
reader does not check.
-/

namespace Osfacts.Linux

open Os

/-- A reader that does not panic in a build with overflow checks, and whose values are exact in a
build without. -/
structure Sound {ε α : Type} (checked : Checked ε α) (plain : Except ε α) (exact : α → Prop) :
    Prop where
  noPanic : NoPanic checked
  exact : ∀ a, plain = .ok a → exact a

/-- The values of a reader that does not panic are those of the checked build. -/
theorem sound_iff {ε α : Type} {checked : Checked ε α} {plain : Except ε α} {exact : α → Prop}
    (h : Erases checked plain) :
    Sound checked plain exact ↔ NoPanic checked ∧ ∀ a, checked = .ok a → exact a := by
  constructor
  · rintro ⟨hno, hexact⟩
    refine ⟨hno, fun a ha => hexact a ?_⟩
    rwa [h hno, unchecked_ok_iff] at ha
  · rintro ⟨hno, hexact⟩
    refine ⟨hno, fun a ha => hexact a ?_⟩
    rwa [h hno, unchecked_ok_iff]

/-! ## Decimal seconds -/

/-- One or more digits, optionally followed by a point and digits. -/
inductive IsSeconds : Text → Text → Text → Prop where
  | whole {whole : Text} (h : Decimal.isNumeral whole = true) : IsSeconds whole whole []
  | point {whole frac : Text} (h : Decimal.isNumeral whole = true)
      (hfrac : Decimal.isNumeral frac = true) : IsSeconds (whole ++ '.' :: frac) whole frac

/-- The seconds of these digits in microseconds, rounded down. -/
def microsOf (whole frac : Text) : Nat :=
  Decimal.value (whole ++ frac) * 10 ^ 6 / 10 ^ frac.length

def SecondsExact (s : Text) (us : UInt64) : Prop :=
  ∃ whole frac, IsSeconds s whole frac ∧ us.toNat = microsOf whole frac

/-- No sign stands before the number, and where there is a point there are digits behind it, and
nothing else. -/
structure PlainSeconds (s : Text) : Prop where
  sign : (secondsParts s).1.head? ≠ some '+'
  frac : '.' ∈ s → Decimal.isNumeral (secondsParts s).2 = true

/-- The whole seconds fit as microseconds, and where the first six places are read as well, the
text is plain and all of it fits. -/
structure SecondsFit (s : Text) : Prop where
  product : ∀ whole, parseU64 (secondsParts s).1 = some whole → whole.toNat * 10 ^ 6 < 2 ^ 64
  plain : (parseU64 (secondsParts s).1).isSome →
    (parseU64 (microDigits (secondsParts s).2)).isSome →
    PlainSeconds s ∧ microsOf (secondsParts s).1 (secondsParts s).2 < 2 ^ 64

theorem head_ne_plus {t : Text} (h : Decimal.isNumeral t = true) : t.head? ≠ some '+' :=
  fun hhead => Decimal.not_mem_of_isNumeral h rfl (List.mem_of_mem_head? hhead)

theorem secondsParts_point {whole : Text} (frac : Text) (h : '.' ∉ whole) :
    secondsParts (whole ++ '.' :: frac) = (whole, frac) := by
  rw [secondsParts, splitOnce_append_cons frac h, Option.getD_some]

theorem secondsParts_whole {s : Text} (h : '.' ∉ s) : secondsParts s = (s, []) := by
  rw [secondsParts, splitOnce_of_not_mem h, Option.getD_none]

theorem IsSeconds.plain {s whole frac : Text} (h : IsSeconds s whole frac) :
    PlainSeconds s ∧ secondsParts s = (whole, frac) := by
  cases h with
  | whole h =>
      have hpoint : '.' ∉ s := Decimal.not_mem_of_isNumeral h rfl
      have hparts := secondsParts_whole hpoint
      exact ⟨⟨hparts ▸ head_ne_plus h, fun hmem => absurd hmem hpoint⟩, hparts⟩
  | point h hfrac =>
      have hparts := secondsParts_point frac (Decimal.not_mem_of_isNumeral h rfl)
      exact ⟨⟨hparts ▸ head_ne_plus h, fun _ => hparts ▸ hfrac⟩, hparts⟩

/-- A plain text whose whole part is read has the form of seconds. -/
theorem PlainSeconds.isSeconds {s : Text} (h : PlainSeconds s)
    (hwhole : Decimal.isNumeral (secondsParts s).1 = true) :
    IsSeconds s (secondsParts s).1 (secondsParts s).2 := by
  by_cases hpoint : '.' ∈ s
  · obtain ⟨whole, frac, rfl, hfirst⟩ := List.eq_append_cons_of_mem hpoint
    have hfrac := h.frac hpoint
    rw [secondsParts_point frac hfirst] at hwhole hfrac ⊢
    exact IsSeconds.point hwhole hfrac
  · rw [secondsParts_whole hpoint] at hwhole ⊢
    exact IsSeconds.whole hwhole

/-- The places of a plain text are digits. -/
theorem PlainSeconds.digits {s : Text} (h : PlainSeconds s) :
    ∀ c ∈ (secondsParts s).2, c.isDigit = true := by
  by_cases hpoint : '.' ∈ s
  · exact (Decimal.isNumeral_iff.mp (h.frac hpoint)).2
  · rw [secondsParts_whole hpoint]
    exact List.forall_mem_nil _

/-- Of digits six places are read. -/
theorem microDigits_of_digits {frac : Text} (h : ∀ c ∈ frac, c.isDigit = true) :
    microDigits frac = frac.take 6 ++ List.replicate (6 - (frac.take 6).length) '0' := by
  have hascii : ∀ c ∈ frac.take 6, c.toNat < 128 := fun c hc =>
    Decimal.toNat_lt_of_isDigit (h c (List.mem_of_mem_take hc))
  rw [microDigits, Utf8.length_encode_ascii hascii]

/-- The six places that are read are the fraction in microseconds, rounded down. -/
theorem microsOf_eq (whole : Text) {frac : Text} (h : ∀ c ∈ frac, c.isDigit = true) :
    microsOf whole frac
      = Decimal.value whole * 10 ^ 6 + Decimal.value (microDigits frac) := by
  have hplaces : Decimal.value (microDigits frac)
      = Decimal.value frac * 10 ^ 6 / 10 ^ frac.length := by
    rw [microDigits_of_digits h]
    exact Decimal.value_places h 6
  rw [microsOf, hplaces, Decimal.value_append, Nat.add_mul, Nat.mul_assoc,
    Nat.mul_add_div (by positivity)]

theorem isNumeral_microDigits {frac : Text} (h : ∀ c ∈ frac, c.isDigit = true) :
    Decimal.isNumeral (microDigits frac) = true := by
  have hlength : (microDigits frac).length = 6 := by
    rw [microDigits_of_digits h, List.length_append, List.length_replicate, List.length_take]
    omega
  have hne : microDigits frac ≠ [] := by
    intro hnil
    rw [hnil] at hlength
    cases hlength
  refine Decimal.isNumeral_iff.mpr ⟨hne, fun c hc => ?_⟩
  rw [microDigits_of_digits h] at hc
  rcases List.mem_append.mp hc with hc | hc
  · exact h c (List.mem_of_mem_take hc)
  · rw [List.eq_of_mem_replicate hc]
    rfl

/-- What is read of a plain text is what its digits say. -/
theorem PlainSeconds.read {s : Text} (h : PlainSeconds s) {whole micros : UInt64}
    (hwhole : parseU64 (secondsParts s).1 = some whole)
    (hmicros : parseU64 (microDigits (secondsParts s).2) = some micros) :
    IsSeconds s (secondsParts s).1 (secondsParts s).2 ∧
      microsOf (secondsParts s).1 (secondsParts s).2 = whole.toNat * 10 ^ 6 + micros.toNat := by
  obtain ⟨hnumeral, hvalue⟩ := parseU64_some hwhole h.sign
  obtain ⟨-, hplaces⟩ := parseU64_some hmicros (head_ne_plus (isNumeral_microDigits h.digits))
  exact ⟨h.isSeconds hnumeral, by rw [microsOf_eq _ h.digits, hvalue, hplaces]⟩

theorem checkedDecimalSecondsToUs_ok_iff {s : Text} {us : UInt64} :
    checkedDecimalSecondsToUs s = .ok us ↔ ∃ whole micros,
      parseU64 (secondsParts s).1 = some whole ∧
      parseU64 (microDigits (secondsParts s).2) = some micros ∧
      us.toNat = whole.toNat * 10 ^ 6 + micros.toNat := by
  simp only [checkedDecimalSecondsToUs, bind_ok_iff, unchecked_ok_iff, parsed_ok_iff,
    mulU64_ok_iff, addU64_ok_iff, toNat_million]
  constructor
  · rintro ⟨whole, hwhole, product, hproduct, micros, hmicros, hus⟩
    exact ⟨whole, micros, hwhole, hmicros, by rw [hus, hproduct]⟩
  · rintro ⟨whole, micros, hwhole, hmicros, hus⟩
    have hlt := us.toNat_lt
    have hproduct : (UInt64.ofNat (whole.toNat * 10 ^ 6)).toNat = whole.toNat * 10 ^ 6 :=
      UInt64.toNat_ofNat_of_lt' (show whole.toNat * 10 ^ 6 < 2 ^ 64 by omega)
    exact ⟨whole, hwhole, _, hproduct, micros, hmicros, by rw [hus, hproduct]⟩

theorem noPanic_decimalSecondsToUs {s : Text} :
    NoPanic (checkedDecimalSecondsToUs s) ↔
      ∀ whole, parseU64 (secondsParts s).1 = some whole → whole.toNat * 10 ^ 6 < 2 ^ 64 ∧
        ∀ micros, parseU64 (microDigits (secondsParts s).2) = some micros →
          whole.toNat * 10 ^ 6 + micros.toNat < 2 ^ 64 := by
  simp only [checkedDecimalSecondsToUs, noPanic_bind, noPanic_unchecked, unchecked_ok_iff,
    parsed_ok_iff, noPanic_mulU64, noPanic_addU64, mulU64_ok_iff, toNat_million, true_and]
  refine forall₂_congr fun whole _ => and_congr_right fun hproduct => ?_
  have hexists : (UInt64.ofNat (whole.toNat * 10 ^ 6)).toNat = whole.toNat * 10 ^ 6 :=
    UInt64.toNat_ofNat_of_lt' hproduct
  constructor
  · intro h micros hmicros
    have hsum := h _ hexists micros hmicros
    rwa [hexists] at hsum
  · intro h product hvalue micros hmicros
    rw [hvalue]
    exact h micros hmicros

/-- **Decimal seconds.** -/
theorem decimalSecondsToUs_sound_iff (s : Text) :
    Sound (checkedDecimalSecondsToUs s) (decimalSecondsToUs s) (SecondsExact s) ↔
      SecondsFit s := by
  rw [sound_iff (erases_decimalSecondsToUs s), noPanic_decimalSecondsToUs]
  constructor
  · rintro ⟨hno, hexact⟩
    refine ⟨fun whole hwhole => (hno whole hwhole).1, fun hwhole hmicros => ?_⟩
    obtain ⟨whole, hwhole⟩ := Option.isSome_iff_exists.mp hwhole
    obtain ⟨micros, hmicros⟩ := Option.isSome_iff_exists.mp hmicros
    have hsum := (hno whole hwhole).2 micros hmicros
    have hus : (UInt64.ofNat (whole.toNat * 10 ^ 6 + micros.toNat)).toNat
        = whole.toNat * 10 ^ 6 + micros.toNat := UInt64.toNat_ofNat_of_lt' hsum
    obtain ⟨whole', frac', hform, hvalue⟩ :=
      hexact _ (checkedDecimalSecondsToUs_ok_iff.mpr ⟨whole, micros, hwhole, hmicros, hus⟩)
    obtain ⟨hplain, hparts⟩ := hform.plain
    rw [hparts]
    exact ⟨hplain, hvalue ▸ UInt64.toNat_lt _⟩
  · rintro ⟨hproduct, hfit⟩
    refine ⟨fun whole hwhole => ⟨hproduct whole hwhole, fun micros hmicros => ?_⟩, fun us hus => ?_⟩
    · obtain ⟨hplain, hlt⟩ := hfit (by rw [hwhole]; rfl) (by rw [hmicros]; rfl)
      rwa [← (hplain.read hwhole hmicros).2]
    · obtain ⟨whole, micros, hwhole, hmicros, hvalue⟩ := checkedDecimalSecondsToUs_ok_iff.mp hus
      obtain ⟨hplain, -⟩ := hfit (by rw [hwhole]; rfl) (by rw [hmicros]; rfl)
      obtain ⟨hform, hmicrosOf⟩ := hplain.read hwhole hmicros
      exact ⟨_, _, hform, hvalue.trans hmicrosOf.symm⟩

/-! ## The boot instant -/

def BootExact (os : Os) (us : UInt64) : Prop :=
  ∃ secs, bootSeconds os = .ok secs ∧ us.toNat = secs.toNat * 10 ^ 6

/-- The seconds of the `btime` line fit as microseconds. -/
def BootFit (os : Os) : Prop := ∀ secs, bootSeconds os = .ok secs → secs.toNat * 10 ^ 6 < 2 ^ 64

theorem checkedBootTimeUs_eq (os : Os) :
    checkedBootTimeUs os = unchecked (bootSeconds os) >>= fun secs => mulU64 secs 1000000 := by
  unfold checkedBootTimeUs bootSeconds
  simp only [unchecked_bind, bind_assoc]

/-- **The boot instant.** -/
theorem bootTimeUs_sound_iff (os : Os) :
    Sound (checkedBootTimeUs os) (bootTimeUs os) (BootExact os) ↔ BootFit os := by
  rw [sound_iff (erases_bootTimeUs os), checkedBootTimeUs_eq]
  simp only [noPanic_bind, noPanic_unchecked, unchecked_ok_iff, noPanic_mulU64, bind_ok_iff,
    mulU64_ok_iff, toNat_million, true_and]
  exact ⟨fun h => h.1, fun h => ⟨h, fun _ hus => hus⟩⟩

/-! ## Start times -/

section Start

variable (stat : Text) (bootUs hz : UInt64)

def StartExact (us : UInt64) : Prop :=
  ∃ ticks, startTicks stat = .ok ticks ∧ us.toNat = startInstant bootUs hz ticks

/-- The last whole multiple of the tick rate among the ticks' microseconds fits, and so does the
start of the process. -/
def StartFit : Prop := ∀ ticks, startTicks stat = .ok ticks →
  ticks.toNat * 10 ^ 6 / hz.toNat * hz.toNat < 2 ^ 64 ∧ startInstant bootUs hz ticks < 2 ^ 64

/-- The product saturates; the quotient is exact as long as that does not reach it. -/
theorem toNat_saturated_iff {hz : UInt64} (hpos : 0 < hz.toNat) (n : UInt64) :
    (saturatingMul n 1000000 / hz).toNat = n.toNat * 10 ^ 6 / hz.toNat ↔
      n.toNat * 10 ^ 6 / hz.toNat * hz.toNat < 2 ^ 64 := by
  rw [UInt64.toNat_div, toNat_saturatingMul, toNat_million, min_div_eq_iff hpos]
  omega

theorem checkedReadStartTime_eq :
    checkedReadStartTime stat bootUs hz = unchecked (startTicks stat) >>= fun ticks =>
      addU64 bootUs (saturatingMul ticks 1000000 / hz) := by
  unfold checkedReadStartTime startTicks
  simp only [unchecked_bind, bind_assoc]

/-- **Start times.** -/
theorem readStartTime_sound_iff (hpos : 0 < hz.toNat) :
    Sound (checkedReadStartTime stat bootUs hz) (readStartTime stat bootUs hz)
      (StartExact stat bootUs hz) ↔ StartFit stat bootUs hz := by
  rw [sound_iff (erases_readStartTime stat bootUs hz), checkedReadStartTime_eq]
  simp only [noPanic_bind, noPanic_unchecked, unchecked_ok_iff, noPanic_addU64, bind_ok_iff,
    addU64_ok_iff, true_and]
  unfold StartExact StartFit startInstant
  constructor
  · rintro ⟨hno, hexact⟩ ticks hticks
    have hsum := hno ticks hticks
    have hus := UInt64.toNat_ofNat_of_lt' hsum
    obtain ⟨ticks', hticks', hvalue⟩ := hexact _ ⟨ticks, hticks, hus⟩
    obtain rfl := Except.ok.inj (hticks.symm.trans hticks')
    rw [hus, Nat.add_left_cancel_iff] at hvalue
    rw [← toNat_saturated_iff hpos, ← hvalue]
    exact ⟨rfl, hsum⟩
  · intro hfit
    refine ⟨fun ticks hticks => ?_, ?_⟩
    · obtain ⟨hticksFit, hsum⟩ := hfit ticks hticks
      rwa [(toNat_saturated_iff hpos ticks).mpr hticksFit]
    · rintro us ⟨ticks, hticks, hus⟩
      refine ⟨ticks, hticks, ?_⟩
      rw [hus, (toNat_saturated_iff hpos ticks).mpr (hfit ticks hticks).1]

end Start

/-! ## Memory -/

/-- The kibibytes under each key of `/proc/meminfo`. -/
def meminfoEntries (s : Text) : List (Text × UInt64) := (lines s).filterMap meminfoKib

/-- The four numbers that are read, in kibibytes: of each key the last line counts. -/
structure Meminfo (s : Text) (total available swapTotal swapFree : UInt64) : Prop where
  total : inserted (meminfoEntries s) "MemTotal".toList = some total
  available : inserted (meminfoEntries s) "MemAvailable".toList = some available
  swapTotal : inserted (meminfoEntries s) "SwapTotal".toList = some swapTotal
  swapFree : inserted (meminfoEntries s) "SwapFree".toList = some swapFree

/-- The bytes are those of the kibibytes, and the swap in use is what is not free. -/
def MemoryExact (s : Text) (r : HostMemory × Swap) : Prop :=
  ∃ total available swapTotal swapFree, Meminfo s total available swapTotal swapFree ∧
    r.1.totalBytes.toNat = total.toNat * 1024 ∧
    r.1.availableBytes.toNat = available.toNat * 1024 ∧
    r.2.totalBytes.toNat = swapTotal.toNat * 1024 ∧
    (r.2.usedBytes.toNat : ℤ) = swapTotal.toNat * 1024 - swapFree.toNat * 1024

/-- The number of every line fits as bytes, and no more swap is free than there is. -/
structure MemoryFit (s : Text) : Prop where
  lines : ∀ entry ∈ meminfoEntries s, entry.2.toNat * 1024 < 2 ^ 64
  swap : ∀ total available swapTotal swapFree, Meminfo s total available swapTotal swapFree →
    swapFree.toNat ≤ swapTotal.toNat

section Memory

variable {os : Os} {s : Text}

theorem noPanic_meminfoLine (line : Text) :
    NoPanic (checkedMeminfoLine line) ↔
      ∀ entry, meminfoKib line = some entry → entry.2.toNat * 1024 < 2 ^ 64 := by
  unfold checkedMeminfoLine
  cases meminfoKib line with
  | none => exact iff_of_true (noPanic_ok none) fun entry h => by cases h
  | some entry =>
      have hkib : (1024 : UInt64).toNat = 1024 := by decide
      simp only [noPanic_bind, noPanic_mulU64, hkib, Option.some.injEq, forall_eq']
      exact ⟨fun h => h.1, fun h => ⟨h, fun bytes _ => noPanic_ok _⟩⟩

theorem noPanic_readHostMemory (hs : os.readString "/proc/meminfo".toList = .ok s) :
    NoPanic (checkedReadHostMemory os) ↔
      ∀ entry ∈ meminfoEntries s, entry.2.toNat * 1024 < 2 ^ 64 := by
  have hloop := noPanic_mapM_of_total (fun line => (erases_meminfoLine line).ne_error) (lines s)
  unfold checkedReadHostMemory
  rw [hs]
  simp only [noPanic_bind, noPanic_unchecked, unchecked_ok_iff, hloop, noPanic_meminfoLine,
    meminfoEntries, List.mem_filterMap, implies_true, and_true, true_and, Except.ok.injEq,
    forall_eq']
  constructor
  · rintro h entry ⟨line, hline, hentry⟩
    exact h line hline entry hentry
  · exact fun h line hline entry hentry => h entry ⟨line, hline, hentry⟩

theorem readHostMemory_ok_iff (hs : os.readString "/proc/meminfo".toList = .ok s)
    {r : HostMemory × Swap} :
    readHostMemory os = .ok r ↔ ∃ total available swapTotal swapFree,
      Meminfo s total available swapTotal swapFree ∧
      r = (⟨total * 1024, available * 1024⟩,
        ⟨swapTotal * 1024, saturatingSub (swapTotal * 1024) (swapFree * 1024)⟩) := by
  have hentries : (lines s).filterMap meminfoLine
      = (meminfoEntries s).map (fun entry => (entry.1, entry.2 * 1024)) := by
    rw [meminfoEntries, List.map_filterMap]
    congr 1
    funext line
    exact meminfoLine_eq line
  have hkey : ∀ key, inserted ((lines s).filterMap meminfoLine) key
      = (inserted (meminfoEntries s) key).map (fun n => n * 1024) := by
    intro key
    rw [hentries]
    exact inserted_map (fun n => n * 1024) (meminfoEntries s) key
  unfold readHostMemory
  rw [hs, ok_bind]
  simp only [hkey, bind_ok_iff, parsed_ok_iff, Option.map_eq_some_iff]
  constructor
  · rintro ⟨-, ⟨total, htotal, rfl⟩, -, ⟨available, havailable, rfl⟩, -,
      ⟨swapTotal, hswapTotal, rfl⟩, -, ⟨swapFree, hswapFree, rfl⟩, hr⟩
    exact ⟨total, available, swapTotal, swapFree, ⟨htotal, havailable, hswapTotal, hswapFree⟩,
      (Except.ok.inj hr).symm⟩
  · rintro ⟨total, available, swapTotal, swapFree, h, rfl⟩
    exact ⟨_, ⟨total, h.total, rfl⟩, _, ⟨available, h.available, rfl⟩, _,
      ⟨swapTotal, h.swapTotal, rfl⟩, _, ⟨swapFree, h.swapFree, rfl⟩, rfl⟩

/-- **Memory.** -/
theorem readHostMemory_sound_iff (hs : os.readString "/proc/meminfo".toList = .ok s) :
    Sound (checkedReadHostMemory os) (readHostMemory os) (MemoryExact s) ↔ MemoryFit s := by
  have hkib : (1024 : UInt64).toNat = 1024 := by decide
  -- a number that fits as bytes is multiplied exactly
  have hbytes : (∀ entry ∈ meminfoEntries s, entry.2.toNat * 1024 < 2 ^ 64) →
      ∀ {key : Text} {n : UInt64}, inserted (meminfoEntries s) key = some n →
        (n * 1024).toNat = n.toNat * 1024 := by
    intro hfit key n hn
    rw [UInt64.toNat_mul, hkib, Nat.mod_eq_of_lt (hfit (key, n) (mem_of_inserted hn))]
  constructor
  · rintro ⟨hno, hexact⟩
    refine ⟨(noPanic_readHostMemory hs).mp hno, fun total available swapTotal swapFree h => ?_⟩
    obtain ⟨total', available', swapTotal', swapFree', h', -, -, -, hused⟩ := hexact _
      ((readHostMemory_ok_iff hs).mpr ⟨total, available, swapTotal, swapFree, h, rfl⟩)
    obtain rfl := Option.some.inj (h.swapTotal.symm.trans h'.swapTotal)
    obtain rfl := Option.some.inj (h.swapFree.symm.trans h'.swapFree)
    omega
  · rintro ⟨hfit, hswap⟩
    refine ⟨(noPanic_readHostMemory hs).mpr hfit, fun r hr => ?_⟩
    obtain ⟨total, available, swapTotal, swapFree, h, rfl⟩ := (readHostMemory_ok_iff hs).mp hr
    refine ⟨total, available, swapTotal, swapFree, h, hbytes hfit h.total,
      hbytes hfit h.available, hbytes hfit h.swapTotal, ?_⟩
    have hfree := hswap total available swapTotal swapFree h
    have htotal : swapTotal.toNat * 1024 < 2 ^ 64 :=
      hfit (_, swapTotal) (mem_of_inserted h.swapTotal)
    have hused : swapTotal.toNat * 1024 - swapFree.toNat * 1024 < 2 ^ 64 := by omega
    rw [saturatingSub, hbytes hfit h.swapTotal, hbytes hfit h.swapFree,
      UInt64.toNat_ofNat_of_lt' hused]
    omega

end Memory

/-! ## Cores -/

/-- Whether a line names a core. -/
def namesCore (line : Text) : Bool :=
  match splitWhitespace line with
  | [] => false
  | name :: _ => (stripPrefix "cpu".toList name >>= parseU32).isSome

/-- The core of a line and its counters, where the reader computes a row from them: at least four
numbers, and a core that `/proc/cpuinfo` names. -/
def counted (metadata : List (UInt32 × Text × Option UInt64)) (line : Text) :
    Option (UInt32 × List UInt64) :=
  (coreLine line).filter (fun c => 4 ≤ c.2.length && (inserted metadata c.1).isSome)

/-- A line that names a core and has no row: the reader ends there, with an error. -/
def refused (metadata : List (UInt32 × Text × Option UInt64)) (line : Text) : Bool :=
  namesCore line && (counted metadata line).isNone

/-- The four buckets in ticks, as sums of integers. -/
def bucketTicks (vals : List UInt64) : List Nat :=
  [(vals.getD 0 0).toNat + (vals.getD 1 0).toNat, (vals.getD 2 0).toNat, (vals.getD 3 0).toNat,
    (vals.getD 4 0).toNat + (vals.getD 5 0).toNat + (vals.getD 6 0).toNat + (vals.getD 7 0).toNat
      + (vals.getD 8 0).toNat + (vals.getD 9 0).toNat]

/-- A row whose four times are those of the counters, rounded down. -/
def CpuExact (hz : UInt64) (c : UInt32 × List UInt64) (row : Cpu) : Prop :=
  row.core = c.1 ∧
  [row.userUs, row.systemUs, row.idleUs, row.otherUs].map UInt64.toNat
    = (bucketTicks c.2).map (fun ticks => ticks * 10 ^ 6 / hz.toNat)

/-- The sums of every line in front of the first that is refused fit, and where no line is refused
so do the last whole multiples of the tick rate among the buckets' microseconds. -/
structure CpusFit (metadata : List (UInt32 × Text × Option UInt64)) (stat : Text) (hz : UInt64) :
    Prop where
  sums : ∀ line ∈ (lines stat).takeWhile (fun line => !refused metadata line),
    ∀ c, counted metadata line = some c → ∀ ticks ∈ bucketTicks c.2, ticks < 2 ^ 64
  products : (∀ line ∈ lines stat, refused metadata line = false) →
    ∀ c ∈ coreLines stat, ∀ ticks ∈ bucketTicks c.2,
      ticks * 10 ^ 6 / hz.toNat * hz.toNat < 2 ^ 64

section Cores

variable {metadata : List (UInt32 × Text × Option UInt64)} {hz : UInt64} {line : Text}

theorem noPanic_cpuRow {core : UInt32} {entry : Text × Option UInt64} {vals : List UInt64} :
    NoPanic (checkedCpuRow core entry hz vals) ↔ ∀ ticks ∈ bucketTicks vals, ticks < 2 ^ 64 := by
  have hsystem := (vals.getD 2 0).toNat_lt
  have hidle := (vals.getD 3 0).toNat_lt
  unfold checkedCpuRow bucketTicks
  simp only [noPanic_bind, noPanic_sumU64, sumU64_ok_iff, List.map_cons, List.map_nil,
    List.sum_cons, List.sum_nil, Nat.add_zero, ← Nat.add_assoc, List.forall_mem_cons]
  constructor
  · rintro ⟨huser, hrest⟩
    obtain ⟨hother, -⟩ := hrest _ (UInt64.toNat_ofNat_of_lt' huser)
    exact ⟨huser, hsystem, hidle, hother, List.forall_mem_nil _⟩
  · rintro ⟨huser, -, -, hother, -⟩
    exact ⟨huser, fun _ _ => ⟨hother, fun _ _ => noPanic_ok _⟩⟩

/-- The times of a row are exact where no product reaches the bound at which it saturates. -/
theorem cpuExact_iff {c : UInt32 × List UInt64} {entry : Text × Option UInt64} {row : Cpu}
    (hpos : 0 < hz.toNat) (h : checkedCpuRow c.1 entry hz c.2 = .ok row) :
    CpuExact hz c row ↔
      ∀ ticks ∈ bucketTicks c.2, ticks * 10 ^ 6 / hz.toNat * hz.toNat < 2 ^ 64 := by
  simp only [checkedCpuRow, bind_ok_iff, sumU64_ok_iff] at h
  obtain ⟨user, huser, other, hother, hrow⟩ := h
  obtain rfl := Except.ok.inj hrow
  have hbuckets : bucketTicks c.2
      = [user, c.2.getD 2 0, c.2.getD 3 0, other].map UInt64.toNat := by
    simp only [bucketTicks, List.map_cons, List.map_nil, huser, hother, List.sum_cons,
      List.sum_nil, Nat.add_zero, ← Nat.add_assoc]
  rw [CpuExact, hbuckets]
  simp only [ticksUs, List.map_cons, List.map_nil, List.cons.injEq, toNat_saturated_iff hpos,
    List.forall_mem_cons, List.not_mem_nil, false_implies, implies_true, and_true, true_and]

/-- What becomes of a line: no core, no row for a core, or its row. -/
theorem checkedCpuOfLine_cases (metadata : List (UInt32 × Text × Option UInt64)) (hz : UInt64)
    (line : Text) :
    (checkedCpuOfLine metadata hz line = .ok none ∧ refused metadata line = false ∧
      counted metadata line = none ∧ coreLine line = none) ∨
    (refused metadata line = true ∧ counted metadata line = none ∧
      ∃ e, checkedCpuOfLine metadata hz line = .error (.error e)) ∨
    ∃ c entry, refused metadata line = false ∧ counted metadata line = some c ∧
      coreLine line = some c ∧ checkedCpuOfLine metadata hz line
        = checkedCpuRow c.1 entry hz c.2 >>= fun row => pure (some row) := by
  unfold checkedCpuOfLine refused namesCore counted coreLine
  cases splitWhitespace line with
  | nil => exact Or.inl ⟨rfl, rfl, rfl, rfl⟩
  | cons name columns =>
      simp only []
      cases stripPrefix "cpu".toList name >>= parseU32 with
      | none => exact Or.inl ⟨rfl, rfl, rfl, rfl⟩
      | some core =>
          right
          cases columns.mapM (fun value => parsed (parseU64 value)) with
          | error e => exact Or.inl ⟨rfl, rfl, ("proc_stat_cpu", e), rfl⟩
          | ok vals =>
              simp only [Except.toOption, Option.bind_eq_bind, Option.bind_some, Option.pure_def,
                Option.isSome_some, Bool.true_and, Option.filter_some]
              by_cases hlength : vals.length < 4
              · have hcount : (decide (4 ≤ vals.length)) = false := by
                  rw [decide_eq_false_iff_not]
                  omega
                rw [hcount]
                exact Or.inl ⟨rfl, rfl, ("proc_stat_cpu", Libc.EINVAL), if_pos hlength⟩
              · have hcount : (decide (4 ≤ vals.length)) = true := by
                  rw [decide_eq_true_iff]
                  omega
                rw [hcount]
                cases hentry : inserted metadata core with
                | none => exact Or.inl ⟨rfl, rfl, ("proc_cpuinfo", Libc.EINVAL), if_neg hlength⟩
                | some entry => exact Or.inr ⟨(core, vals), entry, rfl, rfl, rfl, if_neg hlength⟩

/-- The reader ends with an error at the lines that are refused. -/
theorem refused_iff (metadata : List (UInt32 × Text × Option UInt64)) (hz : UInt64)
    (line : Text) :
    refused metadata line = true ↔ ∃ e, checkedCpuOfLine metadata hz line = .error (.error e) := by
  rcases checkedCpuOfLine_cases metadata hz line with
    ⟨hline, href, -⟩ | ⟨href, -, herr⟩ | ⟨c, entry, href, -, -, hline⟩
  · rw [hline, href]
    exact iff_of_false Bool.false_ne_true (fun ⟨e, he⟩ => by cases he)
  · exact iff_of_true href herr
  · rw [hline, href]
    refine iff_of_false Bool.false_ne_true fun ⟨e, he⟩ => ?_
    have hrow : Erases (checkedCpuRow c.1 entry hz c.2 >>= fun row => pure (some row)) (.ok _) :=
      (erases_cpuRow c.1 entry hz c.2).bind fun row => erases_unchecked (pure (some row))
    exact hrow.ne_error e he

theorem noPanic_cpuOfLine (metadata : List (UInt32 × Text × Option UInt64)) (hz : UInt64)
    (line : Text) :
    NoPanic (checkedCpuOfLine metadata hz line) ↔
      ∀ c, counted metadata line = some c → ∀ ticks ∈ bucketTicks c.2, ticks < 2 ^ 64 := by
  rcases checkedCpuOfLine_cases metadata hz line with
    ⟨hline, -, hnone, -⟩ | ⟨-, hnone, e, he⟩ | ⟨c, entry, -, hsome, -, hline⟩
  · rw [hline, hnone]
    exact iff_of_true (noPanic_ok none) fun c hc => by cases hc
  · rw [he, hnone]
    exact iff_of_true (fun h => by cases h) fun c hc => by cases hc
  · rw [hline, hsome, noPanic_bind, noPanic_cpuRow]
    simp only [Option.some.injEq, forall_eq']
    exact ⟨fun h => h.1, fun h => ⟨h, fun row _ => noPanic_ok (some row)⟩⟩

/-- Where no line is refused and every sum fits, every line is read. -/
theorem exists_mapM_cpuOfLine {ls : List Text}
    (hnone : ∀ line ∈ ls, refused metadata line = false)
    (hno : NoPanic (ls.mapM (checkedCpuOfLine metadata hz))) :
    ∃ out, ls.mapM (checkedCpuOfLine metadata hz) = .ok out := by
  rw [noPanic_mapM (refused_iff metadata hz), List.takeWhile_eq_self_iff.mpr] at hno
  · refine exists_mapM_ok fun line hline => (hno line hline).exists_ok fun e he => ?_
    have href := (refused_iff metadata hz line).mpr ⟨e, he⟩
    rw [hnone line hline] at href
    cases href
  · intro line hline
    rw [hnone line hline]
    rfl

/-- A loop that ends with a value refuses no line. -/
theorem refused_of_mapM {ls : List Text} {out : List (Option Cpu)}
    (h : ls.mapM (checkedCpuOfLine metadata hz) = .ok out) :
    ∀ line ∈ ls, refused metadata line = false := by
  have hlines := mapM_ok_iff.mp h
  clear h
  induction hlines with
  | nil => exact List.forall_mem_nil _
  | @cons line row ls out hrow hrest ih =>
      refine List.forall_mem_cons.mpr ⟨Bool.eq_false_iff.mpr fun href => ?_, ih⟩
      obtain ⟨e, he⟩ := (refused_iff metadata hz line).mp href
      rw [he] at hrow
      cases hrow

/-- The rows are those of the lines of a core, one for each and in their order. -/
theorem rows_of_mapM {ls : List Text} {out : List (Option Cpu)}
    (h : ls.mapM (checkedCpuOfLine metadata hz) = .ok out) :
    List.Forall₂ (fun c row => ∃ entry, checkedCpuRow c.1 entry hz c.2 = .ok row)
      (ls.filterMap coreLine) (out.filterMap id) := by
  refine List.rel_filterMap ?_ (mapM_ok_iff.mp h)
  intro line row hrow
  rcases checkedCpuOfLine_cases metadata hz line with
    ⟨hline, -, -, hnone⟩ | ⟨-, -, e, he⟩ | ⟨c, entry, -, -, hsome, hline⟩
  · obtain rfl := Except.ok.inj (hline.symm.trans hrow)
    rw [hnone]
    exact Option.Rel.none
  · rw [he] at hrow
    cases hrow
  · rw [hline] at hrow
    obtain ⟨row, hread, hpure⟩ := bind_ok_iff.mp hrow
    obtain rfl := Except.ok.inj hpure
    rw [hsome]
    exact Option.Rel.some ⟨entry, hread⟩

theorem forall₂_cpuExact_iff {cores : List (UInt32 × List UInt64)} {rows : List Cpu}
    (hpos : 0 < hz.toNat)
    (h : List.Forall₂ (fun c row => ∃ entry, checkedCpuRow c.1 entry hz c.2 = .ok row)
      cores rows) :
    List.Forall₂ (CpuExact hz) cores rows ↔ ∀ c ∈ cores, ∀ ticks ∈ bucketTicks c.2,
      ticks * 10 ^ 6 / hz.toNat * hz.toNat < 2 ^ 64 := by
  induction h with
  | nil => exact iff_of_true List.Forall₂.nil (List.forall_mem_nil _)
  | cons hrow hrest ih =>
      obtain ⟨entry, hrow⟩ := hrow
      rw [List.forall₂_cons, List.forall_mem_cons, ih, cpuExact_iff hpos hrow]

end Cores

section Stat

variable {L : FloatLib} {F : F64Lib L} {os : Os} {stat : Text} {hz : UInt64}

theorem checkedReadCpus_eq {metadata : List (UInt32 × Text × Option UInt64)}
    (hstat : os.readString "/proc/stat".toList = .ok stat) (hhz : clockTicks os = .ok hz)
    (hmeta : readCpuMetadata F os = .ok metadata) :
    checkedReadCpus F os = (lines stat).mapM (checkedCpuOfLine metadata hz) >>= fun rows =>
      if (rows.filterMap id).isEmpty then .error (.error ("proc_stat_cpu", Libc.EINVAL))
      else pure (rows.filterMap id) := by
  unfold checkedReadCpus
  rw [hmeta, hstat, hhz]
  rfl

/-- **Cores.** -/
theorem readCpus_sound_iff (hstat : os.readString "/proc/stat".toList = .ok stat)
    (hhz : clockTicks os = .ok hz) (hpos : 0 < hz.toNat) :
    Sound (checkedReadCpus F os) (readCpus F os)
      (fun rows => List.Forall₂ (CpuExact hz) (coreLines stat) rows) ↔
      ∀ metadata, readCpuMetadata F os = .ok metadata → CpusFit metadata stat hz := by
  rw [sound_iff (erases_readCpus F os)]
  cases hmeta : readCpuMetadata F os with
  | error e =>
      have hread : checkedReadCpus F os = .error (.error e) := by
        unfold checkedReadCpus
        rw [hmeta]
        rfl
      rw [hread]
      refine iff_of_true ⟨fun h => ?_, fun rows h => ?_⟩ fun m hm => ?_
      · cases h
      · cases h
      · cases hm
  | ok metadata =>
      have hsums : NoPanic ((lines stat).mapM (checkedCpuOfLine metadata hz)) ↔ _ :=
        noPanic_mapM (refused_iff metadata hz) (lines stat)
      simp only [noPanic_cpuOfLine] at hsums
      rw [checkedReadCpus_eq hstat hhz hmeta]
      simp only [noPanic_bind, bind_ok_iff, Except.ok.injEq, forall_eq']
      constructor
      · rintro ⟨⟨hno, -⟩, hexact⟩
        refine ⟨hsums.mp hno, fun hnone => ?_⟩
        obtain ⟨out, hout⟩ := exists_mapM_cpuOfLine hnone hno
        have hrows := rows_of_mapM hout
        by_cases hempty : (out.filterMap id).isEmpty = true
        · rw [List.isEmpty_iff.mp hempty, List.forall₂_nil_right_iff] at hrows
          rw [coreLines, hrows]
          exact List.forall_mem_nil _
        · exact (forall₂_cpuExact_iff hpos hrows).mp
            (hexact (out.filterMap id) ⟨out, hout, if_neg hempty⟩)
      · rintro ⟨hfit, hproducts⟩
        refine ⟨⟨hsums.mpr hfit, fun out _ => ?_⟩, ?_⟩
        · split_ifs
          · exact fun h => by cases h
          · exact noPanic_ok _
        · rintro rows ⟨out, hout, hrows⟩
          split_ifs at hrows
          obtain rfl := Except.ok.inj hrows
          exact (forall₂_cpuExact_iff hpos (rows_of_mapM hout)).mpr
            (hproducts (refused_of_mapM hout))

end Stat

/-! ## The readers -/

/-- **Each reader is sound on an input exactly where the input's numbers fit.** -/
theorem readers_sound_iff {L : FloatLib} (F : F64Lib L) :
    (∀ s, Sound (checkedDecimalSecondsToUs s) (decimalSecondsToUs s) (SecondsExact s) ↔
      SecondsFit s) ∧
    (∀ os, Sound (checkedBootTimeUs os) (bootTimeUs os) (BootExact os) ↔ BootFit os) ∧
    (∀ stat bootUs hz, 0 < hz.toNat →
      (Sound (checkedReadStartTime stat bootUs hz) (readStartTime stat bootUs hz)
        (StartExact stat bootUs hz) ↔ StartFit stat bootUs hz)) ∧
    (∀ os s, os.readString "/proc/meminfo".toList = .ok s →
      (Sound (checkedReadHostMemory os) (readHostMemory os) (MemoryExact s) ↔ MemoryFit s)) ∧
    ∀ os stat hz, os.readString "/proc/stat".toList = .ok stat → clockTicks os = .ok hz →
      0 < hz.toNat →
      (Sound (checkedReadCpus F os) (readCpus F os)
        (fun rows => List.Forall₂ (CpuExact hz) (coreLines stat) rows) ↔
        ∀ metadata, readCpuMetadata F os = .ok metadata → CpusFit metadata stat hz) :=
  ⟨decimalSecondsToUs_sound_iff, bootTimeUs_sound_iff,
    fun stat bootUs _ hpos => readStartTime_sound_iff stat bootUs _ hpos,
    fun _ _ hs => readHostMemory_sound_iff hs,
    fun _ _ _ hstat hhz hpos => readCpus_sound_iff hstat hhz hpos⟩

/-- A process that started in the first second after the boot, and a core. -/
theorem readers_sound_sample :
    Sound (checkedReadStartTime (reusedStat "100") 1700000000000000 100)
      (readStartTime (reusedStat "100") 1700000000000000 100)
      (StartExact (reusedStat "100") 1700000000000000 100) ∧
    Sound (checkedReadCpus noF64 (coreOs "1 0 2 7 0 0 0 0 0 0"))
      (readCpus noF64 (coreOs "1 0 2 7 0 0 0 0 0 0"))
      (fun rows => List.Forall₂ (CpuExact 100) (coreLines (statOfCores "1 0 2 7 0 0 0 0 0 0"))
        rows) := by
  obtain ⟨-, -, hstart, -, hcpus⟩ := readers_sound_iff noF64
  refine ⟨(hstart _ _ _ (by decide)).mpr ?_,
    (hcpus _ _ _ (by decide +kernel) rfl (by decide)).mpr ?_⟩
  · intro ticks hticks
    have hstat : startTicks (reusedStat "100") = .ok 100 := rfl
    obtain rfl := Except.ok.inj (hstat.symm.trans hticks)
    exact ⟨by decide, by decide⟩
  · intro metadata _
    have hcores : coreLines (statOfCores "1 0 2 7 0 0 0 0 0 0")
        = [(0, [1, 0, 2, 7, 0, 0, 0, 0, 0, 0])] := by decide +kernel
    refine ⟨fun line hline c hc => ?_, fun _ => ?_⟩
    · have hmem : c ∈ coreLines (statOfCores "1 0 2 7 0 0 0 0 0 0") :=
        List.mem_filterMap.mpr
          ⟨line, (List.takeWhile_sublist _).subset hline, (Option.filter_eq_some_iff.mp hc).1⟩
      rw [hcores] at hmem
      obtain rfl := List.mem_singleton.mp hmem
      decide
    · rw [hcores]
      exact List.forall_mem_singleton.mpr (by decide)

/-- A host whose boot instant is the first that does not fit. -/
def bootOs : Os := singleOs [("/proc/stat".toList, ascii "btime 18446744073710\n")]

/-- A boot instant beyond what fits is read as one in the first second of 1970, and seconds with
a sign behind the point are read. -/
theorem readers_wrap :
    bootTimeUs bootOs = .ok 448384 ∧
    ¬ Sound (checkedBootTimeUs bootOs) (bootTimeUs bootOs) (BootExact bootOs) ∧
    decimalSecondsToUs "1.+5".toList = .ok 1050000 ∧
    ¬ Sound (checkedDecimalSecondsToUs "1.+5".toList) (decimalSecondsToUs "1.+5".toList)
      (SecondsExact "1.+5".toList) := by
  have hread : decimalSecondsToUs "1.+5".toList = .ok 1050000 := by decide +kernel
  refine ⟨by decide +kernel, fun h => h.noPanic (by decide +kernel), hread, fun h => ?_⟩
  obtain ⟨whole, frac, hform, -⟩ := h.exact _ hread
  exact absurd (hform.plain.1.frac (by decide)) (by decide +kernel)

end Osfacts.Linux
