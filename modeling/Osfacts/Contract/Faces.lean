import Osfacts.Contract.VerbsApart
import Osfacts.Schema.WriteJson

set_option autoImplicit false

/-! # Two faces of one document

A document is written as TSV or as JSON. The JSON face loses nothing, whatever is in the document.
The TSV face loses nothing of a document that its client accepts. So of two such documents the two
faces tell the same: they are the same bytes in one exactly when they are in the other.
-/

namespace Osfacts

open Client

open JsonTree (nat int ofOption list optional)

/-! ## Values -/

namespace JsonTree

@[simp]
theorem int_inj {i j : Int} : int i = int j ↔ i = j := by
  constructor
  · intro h
    rw [int, int, number.injEq, JsonNumber.mk.injEq] at h
    exact Decimal.signedDecimal_injective h
  · rintro rfl
    rfl

@[simp]
theorem nat_inj {m n : Nat} : nat m = nat n ↔ m = n := by
  rw [nat, nat, int_inj, Int.natCast_inj]

theorem int_ne_null (i : Int) : int i ≠ null := by
  intro h
  cases h

section Lists

variable {α : Type} {f : α → JsonTree}

theorem list_injective (hf : Function.Injective f) : Function.Injective (list f) := by
  intro k l h
  rw [list, list, array.injEq] at h
  exact List.map_injective_iff.mpr hf h

theorem ofOption_injective (hf : Function.Injective f) (hnull : ∀ a, f a ≠ null) :
    Function.Injective (ofOption f) := by
  intro a b h
  cases a with
  | none =>
      cases b with
      | none => rfl
      | some b => exact absurd h.symm (hnull b)
  | some a =>
      cases b with
      | none => exact absurd h (hnull a)
      | some b => rw [hf h]

/-- A field that may be left out, in front of fields of other names. -/
theorem optional_append {name : String} {a b : Option α} {k l : List (String × JsonTree)}
    (h : optional name f a ++ k = optional name f b ++ l)
    (hf : ∀ x ∈ a, ∀ y ∈ b, f x = f y → x = y) (hk : ∀ v, (name, v) ∉ k)
    (hl : ∀ v, (name, v) ∉ l) : a = b ∧ k = l := by
  cases a with
  | none =>
      cases b with
      | none => exact ⟨rfl, h⟩
      | some b => exact absurd ((show k = (name, f b) :: l from h) ▸ List.mem_cons_self) (hk (f b))
  | some a =>
      cases b with
      | none =>
          exact absurd ((show (name, f a) :: k = l from h) ▸ List.mem_cons_self) (hl (f a))
      | some b =>
          obtain ⟨hhead, hrest⟩ := List.cons.inj (show (name, f a) :: k = (name, f b) :: l from h)
          rw [hf a rfl b rfl (Prod.mk.inj hhead).2]
          exact ⟨rfl, hrest⟩

end Lists

end JsonTree

open JsonTree (nat_inj int_inj)

theorem uint32_json_injective : Function.Injective (fun n : UInt32 => nat n.toNat) := by
  intro m n h
  exact UInt32.toNat_inj.mp (nat_inj.mp h)

theorem uint64_json_injective : Function.Injective (fun n : UInt64 => nat n.toNat) := by
  intro m n h
  exact UInt64.toNat_inj.mp (nat_inj.mp h)

theorem Facet.json_injective : Function.Injective Facet.json := by
  intro f g h
  rw [Facet.json, Facet.json, JsonTree.string.injEq] at h
  exact asStr_injective h

/-! ## Rows as JSON -/

theorem Proc.json_injective : Function.Injective Proc.json := by
  rintro ⟨pid, ppid, name⟩ ⟨pid', ppid', name'⟩ h
  simpa [Proc.json, UInt32.toNat_inj] using h

theorem Memory.json_injective : Function.Injective Memory.json := by
  rintro ⟨pid, rss⟩ ⟨pid', rss'⟩ h
  simpa [Memory.json, UInt32.toNat_inj, UInt64.toNat_inj] using h

theorem StartTime.json_injective : Function.Injective StartTime.json := by
  rintro ⟨pid, us⟩ ⟨pid', us'⟩ h
  simpa [StartTime.json, UInt32.toNat_inj, UInt64.toNat_inj] using h

theorem ProcessCpuTime.json_injective : Function.Injective ProcessCpuTime.json := by
  rintro ⟨pid, us⟩ ⟨pid', us'⟩ h
  simpa [ProcessCpuTime.json, UInt32.toNat_inj, UInt64.toNat_inj] using h

theorem ProcessUid.json_injective : Function.Injective ProcessUid.json := by
  rintro ⟨pid, uid⟩ ⟨pid', uid'⟩ h
  simpa [ProcessUid.json, UInt32.toNat_inj] using h

theorem ProcessCwd.json_injective : Function.Injective ProcessCwd.json := by
  rintro ⟨pid, cwd⟩ ⟨pid', cwd'⟩ h
  simpa [ProcessCwd.json, UInt32.toNat_inj] using h

theorem ProcessStatus.json_injective : Function.Injective ProcessStatus.json := by
  rintro ⟨pid, state, nice, threads⟩ ⟨pid', state', nice', threads'⟩ h
  have hthreads : ∀ a b : Option UInt32, ofOption (fun n : UInt32 => nat n.toNat) a
      = ofOption (fun n : UInt32 => nat n.toNat) b ↔ a = b :=
    fun a b => (JsonTree.ofOption_injective uint32_json_injective
      (fun n => JsonTree.int_ne_null n.toNat)).eq_iff
  simpa [ProcessStatus.json, UInt32.toNat_inj, Int32.toInt_inj, hthreads] using h

theorem ProcessArgv.json_injective : Function.Injective ProcessArgv.json := by
  rintro ⟨pid, argv⟩ ⟨pid', argv'⟩ h
  have hargv : ∀ k l : List Text, list JsonTree.string k = list JsonTree.string l ↔ k = l :=
    fun k l => (JsonTree.list_injective (fun a b hab => JsonTree.string.inj hab)).eq_iff
  simpa [ProcessArgv.json, UInt32.toNat_inj, hargv] using h

/-- The fields of an attribution, in front of other fields: its first field tells its kind. -/
theorem Attribution.jsonFields_append {a b : Attribution} {k l : List (String × JsonTree)}
    (h : a.jsonFields ++ k = b.jsonFields ++ l) : a = b ∧ k = l := by
  cases a with
  | claimed pid =>
      cases b with
      | claimed pid' => simpa [Attribution.jsonFields, UInt32.toNat_inj] using h
      | unclaimed => simp [Attribution.jsonFields] at h
  | unclaimed =>
      cases b with
      | claimed pid' => simp [Attribution.jsonFields] at h
      | unclaimed => simpa [Attribution.jsonFields] using h

theorem Attribution.json_injective : Function.Injective Attribution.json := by
  intro a b h
  rw [Attribution.json, Attribution.json, JsonTree.object.injEq] at h
  have hfields : a.jsonFields ++ [] = b.jsonFields ++ [] := by
    rw [List.append_nil, List.append_nil, h]
  exact (Attribution.jsonFields_append hfields).1

theorem Port.json_injective : Function.Injective Port.json := by
  rintro ⟨a, uid, port, address⟩ ⟨a', uid', port', address'⟩ h
  rw [Port.json, Port.json, JsonTree.object.injEq, List.append_assoc, List.append_assoc] at h
  obtain ⟨rfl, hrest⟩ := Attribution.jsonFields_append h
  obtain ⟨rfl, hlast⟩ := JsonTree.optional_append hrest
    (fun m _ n _ hmn => uint32_json_injective hmn) (by simp) (by simp)
  simpa [UInt16.toNat_inj] using hlast

theorem Unreadable.json_injective : Function.Injective Unreadable.json := by
  rintro ⟨pid, facet, errno⟩ ⟨pid', facet', errno'⟩ h
  simpa [Unreadable.json, UInt32.toNat_inj, Facet.json_injective.eq_iff] using h

theorem SourceError.json_injective : Function.Injective SourceError.json := by
  rintro ⟨source, facet, code⟩ ⟨source', facet', code'⟩ h
  simpa [SourceError.json, Facet.json_injective.eq_iff] using h

/-! ## Documents as JSON -/

theorem Snapshot.json_injective : Function.Injective Snapshot.json := by
  rintro ⟨v, a1, a2, a3, a4, a5, a6, a7, a8, a9, a10, a11⟩
    ⟨w, b1, b2, b3, b4, b5, b6, b7, b8, b9, b10, b11⟩ h
  simpa [Snapshot.json, UInt32.toNat_inj, (JsonTree.list_injective Proc.json_injective).eq_iff,
    (JsonTree.list_injective Memory.json_injective).eq_iff,
    (JsonTree.list_injective StartTime.json_injective).eq_iff,
    (JsonTree.list_injective ProcessCpuTime.json_injective).eq_iff,
    (JsonTree.list_injective ProcessUid.json_injective).eq_iff,
    (JsonTree.list_injective ProcessCwd.json_injective).eq_iff,
    (JsonTree.list_injective ProcessStatus.json_injective).eq_iff,
    (JsonTree.list_injective ProcessArgv.json_injective).eq_iff,
    (JsonTree.list_injective Port.json_injective).eq_iff,
    (JsonTree.list_injective Unreadable.json_injective).eq_iff,
    (JsonTree.list_injective SourceError.json_injective).eq_iff] using h

theorem SocketHolders.json_injective : Function.Injective SocketHolders.json := by
  rintro ⟨v, holders, procs, unreadable, errors⟩ ⟨w, holders', procs', unreadable', errors'⟩ h
  simpa [SocketHolders.json, UInt32.toNat_inj,
    (JsonTree.list_injective Attribution.json_injective).eq_iff,
    (JsonTree.list_injective Proc.json_injective).eq_iff,
    (JsonTree.list_injective Unreadable.json_injective).eq_iff,
    (JsonTree.list_injective SourceError.json_injective).eq_iff] using h

/-- What is relied on of floating point: a finite number is told by its JSON text, and a number the
client takes by what the client makes of its TSV text. -/
structure JsonFloat.Lawful {F : FloatLib} (E : JsonFloat F) : Prop where
  write_inj : ∀ x y, E.isFinite x = true → E.isFinite y = true → E.write x = E.write y → x = y
  isFinite_of_fraction : ∀ x, isDecimalFraction (F.display x) = true → E.isFinite x = true
  number_inj : ∀ x y, isDecimalFraction (F.display x) = true →
    isDecimalFraction (F.display y) = true → F.number (F.display x) = F.number (F.display y) → x = y

section Host

variable {F : FloatLib} {E : JsonFloat F}

def Load.Finite (E : JsonFloat F) (v : Load F) : Prop :=
  ∀ x ∈ [v.one, v.five, v.fifteen], E.isFinite x = true

def HostSnapshot.Finite (E : JsonFloat F) (s : HostSnapshot F) : Prop :=
  ∀ v, s.load = some v → v.Finite E

theorem Load.json_inj (hE : E.Lawful) {v w : Load F} (hv : v.Finite E) (hw : w.Finite E)
    (h : v.json E = w.json E) : v = w := by
  obtain ⟨one, five, fifteen⟩ := v
  obtain ⟨one', five', fifteen'⟩ := w
  simp only [Load.Finite, List.forall_mem_cons] at hv hw
  simp only [Load.json, JsonTree.object.injEq, List.cons.injEq, Prod.mk.injEq, true_and,
    and_true] at h
  rw [hE.write_inj one one' hv.1 hw.1 h.1, hE.write_inj five five' hv.2.1 hw.2.1 h.2.1,
    hE.write_inj fifteen fifteen' hv.2.2.1 hw.2.2.1 h.2.2]

theorem HostMemory.json_injective : Function.Injective HostMemory.json := by
  rintro ⟨total, available⟩ ⟨total', available'⟩ h
  simpa [HostMemory.json, UInt64.toNat_inj] using h

theorem Swap.json_injective : Function.Injective Swap.json := by
  rintro ⟨total, used⟩ ⟨total', used'⟩ h
  simpa [Swap.json, UInt64.toNat_inj] using h

theorem Cpu.json_injective : Function.Injective Cpu.json := by
  rintro ⟨core, user, system, idle, other, model, frequency⟩
    ⟨core', user', system', idle', other', model', frequency'⟩ h
  have hfrequency : ∀ a b : Option UInt64, ofOption (fun n : UInt64 => nat n.toNat) a
      = ofOption (fun n : UInt64 => nat n.toNat) b ↔ a = b :=
    fun a b => (JsonTree.ofOption_injective uint64_json_injective
      (fun n => JsonTree.int_ne_null n.toNat)).eq_iff
  simpa [Cpu.json, UInt32.toNat_inj, UInt64.toNat_inj, hfrequency] using h

theorem Network.json_injective : Function.Injective Network.json := by
  rintro ⟨name, rx, tx⟩ ⟨name', rx', tx'⟩ h
  simpa [Network.json, UInt64.toNat_inj] using h

theorem Disk.json_injective : Function.Injective Disk.json := by
  rintro ⟨mount, total, available, free⟩ ⟨mount', total', available', free'⟩ h
  simpa [Disk.json, UInt64.toNat_inj] using h

/-- The four fields that may be missing, one after the other, and the rest. -/
theorem HostSnapshot.json_inj (hE : E.Lawful) {s t : HostSnapshot F} (hs : s.Finite E)
    (ht : t.Finite E) (h : s.json E = t.json E) : s = t := by
  obtain ⟨v, load, memory, swap, uptime, cpus, networks, disks, errors⟩ := s
  obtain ⟨w, load', memory', swap', uptime', cpus', networks', disks', errors'⟩ := t
  simp only [HostSnapshot.json, JsonTree.object.injEq, List.cons_append, List.append_assoc] at h
  obtain ⟨hversion, hload⟩ := List.cons.inj h
  obtain ⟨rfl, hmemory⟩ := JsonTree.optional_append hload
    (fun a ha b hb hab => Load.json_inj hE (hs a ha) (ht b hb) hab)
    (by simp [JsonTree.optional]) (by simp [JsonTree.optional])
  obtain ⟨rfl, hswap⟩ := JsonTree.optional_append hmemory
    (fun _ _ _ _ hab => HostMemory.json_injective hab)
    (by simp [JsonTree.optional]) (by simp [JsonTree.optional])
  obtain ⟨rfl, huptime⟩ := JsonTree.optional_append hswap
    (fun _ _ _ _ hab => Swap.json_injective hab)
    (by simp [JsonTree.optional]) (by simp [JsonTree.optional])
  obtain ⟨rfl, hlists⟩ := JsonTree.optional_append huptime
    (fun _ _ _ _ hab => uint64_json_injective hab) (by simp) (by simp)
  obtain rfl : v = w := by simpa [UInt32.toNat_inj] using hversion
  simpa [(JsonTree.list_injective Cpu.json_injective).eq_iff,
    (JsonTree.list_injective Network.json_injective).eq_iff,
    (JsonTree.list_injective Disk.json_injective).eq_iff,
    (JsonTree.list_injective SourceError.json_injective).eq_iff] using hlists

end Host

/-! ## What the client holds -/

theorem Proc.view_injective : Function.Injective Proc.view := by
  rintro ⟨pid, ppid, name⟩ ⟨pid', ppid', name'⟩ h
  simpa [Proc.view, UInt32.toNat_inj] using h

theorem Memory.view_injective : Function.Injective Memory.view := by
  rintro ⟨pid, rss⟩ ⟨pid', rss'⟩ h
  simpa [Memory.view, UInt32.toNat_inj, UInt64.toNat_inj] using h

theorem StartTime.view_injective : Function.Injective StartTime.view := by
  rintro ⟨pid, us⟩ ⟨pid', us'⟩ h
  simpa [StartTime.view, UInt32.toNat_inj, UInt64.toNat_inj] using h

theorem ProcessCpuTime.view_injective : Function.Injective ProcessCpuTime.view := by
  rintro ⟨pid, us⟩ ⟨pid', us'⟩ h
  simpa [ProcessCpuTime.view, UInt32.toNat_inj, UInt64.toNat_inj] using h

theorem ProcessUid.view_injective : Function.Injective ProcessUid.view := by
  rintro ⟨pid, uid⟩ ⟨pid', uid'⟩ h
  simpa [ProcessUid.view, UInt32.toNat_inj] using h

theorem ProcessCwd.view_injective : Function.Injective ProcessCwd.view := by
  rintro ⟨pid, cwd⟩ ⟨pid', cwd'⟩ h
  simpa [ProcessCwd.view, UInt32.toNat_inj] using h

theorem uint32_option_injective : Function.Injective (Option.map UInt32.toNat) :=
  Option.map_injective (fun _ _ h => UInt32.toNat_inj.mp h)

theorem uint64_option_injective : Function.Injective (Option.map UInt64.toNat) :=
  Option.map_injective (fun _ _ h => UInt64.toNat_inj.mp h)

theorem ProcessStatus.view_injective : Function.Injective ProcessStatus.view := by
  rintro ⟨pid, state, nice, threads⟩ ⟨pid', state', nice', threads'⟩ h
  simpa [ProcessStatus.view, UInt32.toNat_inj, Int32.toInt_inj, uint32_option_injective.eq_iff]
    using h

theorem ProcessArgv.view_injective : Function.Injective ProcessArgv.view := by
  rintro ⟨pid, argv⟩ ⟨pid', argv'⟩ h
  simpa [ProcessArgv.view, UInt32.toNat_inj] using h

theorem Attribution.view_injective : Function.Injective Attribution.view := by
  intro a b h
  cases a with
  | claimed pid =>
      cases b with
      | claimed pid' => simpa [Attribution.view, UInt32.toNat_inj] using h
      | unclaimed => cases h
  | unclaimed =>
      cases b with
      | claimed pid' => cases h
      | unclaimed => rfl

theorem Port.view_injective : Function.Injective Port.view := by
  rintro ⟨a, uid, port, address⟩ ⟨a', uid', port', address'⟩ h
  simpa [Port.view, UInt16.toNat_inj, Attribution.view_injective.eq_iff,
    uint32_option_injective.eq_iff] using h

theorem Unreadable.view_injective : Function.Injective Unreadable.view := by
  rintro ⟨pid, facet, errno⟩ ⟨pid', facet', errno'⟩ h
  simpa [Unreadable.view, UInt32.toNat_inj, asStr_injective.eq_iff] using h

theorem SourceError.view_injective : Function.Injective SourceError.view := by
  rintro ⟨source, facet, code⟩ ⟨source', facet', code'⟩ h
  simpa [SourceError.view, asStr_injective.eq_iff] using h

theorem Snapshot.view_inj {s t : Snapshot} (hs : s.Wire) (ht : t.Wire) (h : s.view = t.view) :
    s = t := by
  have hversion := hs.version_eq.trans ht.version_eq.symm
  obtain ⟨v, a1, a2, a3, a4, a5, a6, a7, a8, a9, a10, a11⟩ := s
  obtain ⟨w, b1, b2, b3, b4, b5, b6, b7, b8, b9, b10, b11⟩ := t
  obtain rfl : v = w := hversion
  simpa [Snapshot.view, (List.map_injective_iff.mpr Proc.view_injective).eq_iff,
    (List.map_injective_iff.mpr Memory.view_injective).eq_iff,
    (List.map_injective_iff.mpr StartTime.view_injective).eq_iff,
    (List.map_injective_iff.mpr ProcessCpuTime.view_injective).eq_iff,
    (List.map_injective_iff.mpr ProcessUid.view_injective).eq_iff,
    (List.map_injective_iff.mpr ProcessCwd.view_injective).eq_iff,
    (List.map_injective_iff.mpr ProcessStatus.view_injective).eq_iff,
    (List.map_injective_iff.mpr ProcessArgv.view_injective).eq_iff,
    (List.map_injective_iff.mpr Port.view_injective).eq_iff,
    (List.map_injective_iff.mpr Unreadable.view_injective).eq_iff,
    (List.map_injective_iff.mpr SourceError.view_injective).eq_iff] using h

theorem SocketHolders.view_inj {s t : SocketHolders} (hs : s.Wire) (ht : t.Wire)
    (h : s.view = t.view) : s = t := by
  have hversion := hs.version_eq.trans ht.version_eq.symm
  obtain ⟨v, holders, procs, unreadable, errors⟩ := s
  obtain ⟨w, holders', procs', unreadable', errors'⟩ := t
  obtain rfl : v = w := hversion
  simpa [SocketHolders.view, (List.map_injective_iff.mpr Attribution.view_injective).eq_iff,
    (List.map_injective_iff.mpr Proc.view_injective).eq_iff,
    (List.map_injective_iff.mpr Unreadable.view_injective).eq_iff,
    (List.map_injective_iff.mpr SourceError.view_injective).eq_iff] using h

section Host

variable {F : FloatLib} {E : JsonFloat F}

theorem Load.view_inj (hE : E.Lawful) {v w : Load F} (hv : v.Wire) (hw : w.Wire)
    (h : v.view = w.view) : v = w := by
  obtain ⟨one, five, fifteen⟩ := v
  obtain ⟨one', five', fifteen'⟩ := w
  simp only [Load.Wire, List.forall_mem_cons] at hv hw
  simp only [Load.view, LoadRow.mk.injEq] at h
  rw [hE.number_inj one one' hv.1.1 hw.1.1 h.1, hE.number_inj five five' hv.2.1.1 hw.2.1.1 h.2.1,
    hE.number_inj fifteen fifteen' hv.2.2.1.1 hw.2.2.1.1 h.2.2]

theorem HostMemory.view_injective : Function.Injective HostMemory.view := by
  rintro ⟨total, available⟩ ⟨total', available'⟩ h
  simpa [HostMemory.view, UInt64.toNat_inj] using h

theorem Swap.view_injective : Function.Injective Swap.view := by
  rintro ⟨total, used⟩ ⟨total', used'⟩ h
  simpa [Swap.view, UInt64.toNat_inj] using h

theorem Cpu.view_injective : Function.Injective Cpu.view := by
  rintro ⟨core, user, system, idle, other, model, frequency⟩
    ⟨core', user', system', idle', other', model', frequency'⟩ h
  simpa [Cpu.view, UInt32.toNat_inj, UInt64.toNat_inj, uint64_option_injective.eq_iff] using h

theorem Network.view_injective : Function.Injective Network.view := by
  rintro ⟨name, rx, tx⟩ ⟨name', rx', tx'⟩ h
  simpa [Network.view, UInt64.toNat_inj] using h

theorem Disk.view_injective : Function.Injective Disk.view := by
  rintro ⟨mount, total, available, free⟩ ⟨mount', total', available', free'⟩ h
  simpa [Disk.view, UInt64.toNat_inj] using h

theorem HostSnapshot.view_inj (hE : E.Lawful) {s t : HostSnapshot F} (hs : s.Wire) (ht : t.Wire)
    (h : s.view = t.view) : s = t := by
  have hversion := hs.version_eq.trans ht.version_eq.symm
  obtain ⟨v, load, memory, swap, uptime, cpus, networks, disks, errors⟩ := s
  obtain ⟨w, load', memory', swap', uptime', cpus', networks', disks', errors'⟩ := t
  obtain rfl : v = w := hversion
  have hload : load.map Load.view = load'.map Load.view → load = load' := by
    intro hview
    cases load with
    | none => exact (Option.map_eq_none_iff.mp hview.symm).symm
    | some a =>
        cases load' with
        | none => cases hview
        | some b =>
            rw [Load.view_inj hE (hs.load a rfl) (ht.load b rfl) (Option.some.inj hview)]
  rw [HostSnapshot.view, HostSnapshot.view, HostReading.mk.injEq] at h
  obtain rfl := hload h.1
  simpa [(Option.map_injective HostMemory.view_injective).eq_iff,
    (Option.map_injective Swap.view_injective).eq_iff, uint64_option_injective.eq_iff,
    (List.map_injective_iff.mpr Cpu.view_injective).eq_iff,
    (List.map_injective_iff.mpr Network.view_injective).eq_iff,
    (List.map_injective_iff.mpr Disk.view_injective).eq_iff,
    (List.map_injective_iff.mpr SourceError.view_injective).eq_iff] using h.2

end Host

/-! ## The two faces -/

section Faces

variable {D : Type} [Document D]

/-- One shape in two faces. The JSON face of a whole document is that of no other, and on documents
that the client accepts the two faces tell the same. -/
structure OneShape (J : JsonLib) (writeJson : D → Text) (Whole Accepted : D → Prop) : Prop where
  json_iff : ∀ s t, Whole s → Whole t →
    ((emit J writeJson s true).stdout = (emit J writeJson t true).stdout ↔ s = t)
  tsv_iff : ∀ s t, Accepted s → Accepted t →
    ((emit J writeJson s false).stdout = (emit J writeJson t false).stdout ↔
      (emit J writeJson s true).stdout = (emit J writeJson t true).stdout)

/-- The JSON face by the injectivity of the value, the TSV face by the round trip through the
client. -/
theorem oneShape_of {J : JsonLib} {tree : D → JsonTree} {Whole Accepted : D → Prop} {V : Type}
    {read : Text → Except OsfactsClientError V} {view : D → V}
    (htree : ∀ s t, Whole s → Whole t → tree s = tree t → s = t)
    (hwhole : ∀ s, Accepted s → Whole s)
    (hread : ∀ s, Accepted s → read (writeTsv J s) = .ok (view s))
    (hview : ∀ s t, Accepted s → Accepted t → view s = view t → s = t) :
    OneShape J (fun s => writeJson (tree s)) Whole Accepted := by
  have hjson : ∀ s t, Whole s → Whole t →
      ((emit J (fun s => writeJson (tree s)) s true).stdout
        = (emit J (fun s => writeJson (tree s)) t true).stdout ↔ s = t) := by
    intro s t hs ht
    constructor
    · intro h
      exact htree s t hs ht (writeJson_injective (Utf8.encode_injective h))
    · rintro rfl
      rfl
  refine ⟨hjson, fun s t hs ht => ?_⟩
  rw [hjson s t (hwhole s hs) (hwhole t ht)]
  constructor
  · intro h
    have htsv : writeTsv J s = writeTsv J t := Utf8.encode_injective h
    have hboth := hread s hs
    rw [htsv, hread t ht] at hboth
    exact (hview t s ht hs (Except.ok.inj hboth)).symm
  · rintro rfl
    rfl

end Faces

theorem HostSnapshot.Wire.finite {F : FloatLib} {E : JsonFloat F} (hE : E.Lawful)
    {s : HostSnapshot F} (h : s.Wire) : s.Finite E := by
  intro v hv x hx
  exact hE.isFinite_of_fraction x (h.load v hv x hx).1

/-- **One shape for TSV and JSON.** The JSON of a `snapshot`, of a `socket-holders` and of a `host`
document with finite loads is the JSON of that document only, and of two documents that the client
accepts the TSV is the same exactly when the JSON is. -/
theorem faces_agree {J : JsonLib} (hJ : J.Lawful) {F : FloatLib} {E : JsonFloat F}
    (hE : E.Lawful) :
    OneShape J (jsonWriters E).snapshot (fun _ => True) Snapshot.Wire ∧
    OneShape J (jsonWriters E).socketHolders (fun _ => True) SocketHolders.Wire ∧
    OneShape J (jsonWriters E).host (HostSnapshot.Finite E) HostSnapshot.Wire := by
  refine ⟨?_, ?_, ?_⟩
  · exact oneShape_of (fun s t _ _ h => Snapshot.json_injective h) (fun _ _ => trivial)
      (fun s h => parseSnapshotOutput_writeTsv hJ h) (fun s t hs ht h => Snapshot.view_inj hs ht h)
  · exact oneShape_of (fun s t _ _ h => SocketHolders.json_injective h) (fun _ _ => trivial)
      (fun s h => parseSocketHoldersOutput_writeTsv J h)
      (fun s t hs ht h => SocketHolders.view_inj hs ht h)
  · exact oneShape_of (fun s t hs ht h => HostSnapshot.json_inj hE hs ht h)
      (fun s h => h.finite hE) (fun s h => parseHostOutput_writeTsv hJ h)
      (fun s t hs ht h => HostSnapshot.view_inj hE hs ht h)

theorem wholeFloats_chars (n : Nat) :
    ∀ c ∈ Decimal.decimal n ++ ['.', '0'], Json.isNumberChar c = true := by
  intro c hc
  simp only [List.mem_append, List.mem_cons, List.not_mem_nil, or_false] at hc
  rcases hc with hc | rfl | rfl
  · exact JsonTree.isNumberChar_of_isDigit (Decimal.isDigit_of_mem_decimal hc)
  · rfl
  · rfl

/-- A whole number is written with a fraction in JSON and without one in TSV. -/
def wholeFloats : JsonFloat naturalFloats where
  write n := .number ⟨Decimal.decimal n ++ ['.', '0'],
    List.append_ne_nil_of_left_ne_nil (Decimal.decimal_ne_nil n) _, wholeFloats_chars n⟩
  isFinite _ := true

theorem wholeFloats_lawful : wholeFloats.Lawful where
  write_inj m n _ _ h := by
    have htext : Decimal.decimal m ++ ['.', '0'] = Decimal.decimal n ++ ['.', '0'] :=
      congrArg JsonNumber.text (JsonTree.number.inj h)
    exact Decimal.decimal_injective (List.append_cancel_right htext)
  isFinite_of_fraction _ _ := rfl
  number_inj m n _ _ h :=
    (Decimal.value_decimal m).symm.trans (h.trans (Decimal.value_decimal n))

/-- Two snapshots that differ in the command line of process 7: neither face is the same. -/
theorem faces_agree_sample :
    (emit .standard (jsonWriters wholeFloats).snapshot sampleSnapshot true).stdout
      ≠ (emit .standard (jsonWriters wholeFloats).snapshot
          { sampleSnapshot with argv := [⟨7, ["x\ny".toList]⟩] } true).stdout ∧
    (emit .standard (jsonWriters wholeFloats).snapshot sampleSnapshot false).stdout
      ≠ (emit .standard (jsonWriters wholeFloats).snapshot
          { sampleSnapshot with argv := [⟨7, ["x\ny".toList]⟩] } false).stdout := by
  have hshape := (faces_agree JsonLib.standard_lawful wholeFloats_lawful).1
  have hdiffer : sampleSnapshot ≠ { sampleSnapshot with argv := [⟨7, ["x\ny".toList]⟩] } := by
    intro h
    exact absurd (congrArg Snapshot.argv h) (by decide)
  have hjson := (hshape.json_iff sampleSnapshot
    { sampleSnapshot with argv := [⟨7, ["x\ny".toList]⟩] } trivial trivial).not.mpr hdiffer
  refine ⟨hjson, (hshape.tsv_iff _ _ sampleSnapshot_wire ?_).not.mpr hjson⟩
  exact ⟨sampleSnapshot_wire.version_eq, sampleSnapshot_wire.procs, sampleSnapshot_wire.memory,
    sampleSnapshot_wire.startTimes, sampleSnapshot_wire.cpuTimes, sampleSnapshot_wire.statuses,
    sampleSnapshot_wire.ports, sampleSnapshot_wire.unreadable, sampleSnapshot_wire.errors⟩

end Osfacts
