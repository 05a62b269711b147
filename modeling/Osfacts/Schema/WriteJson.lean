import Osfacts.JsonTree
import Osfacts.Main

set_option autoImplicit false

/-! # The documents as JSON

What the derived serializers make of a document: an object with one field for each field of the
structure, in the order of its declaration. An attribution is flattened into the object of a
listener; where a field is to be left out when there is nothing in it, it is.
-/

namespace Osfacts

namespace JsonTree

theorem isNumberChar_of_isDigit {c : Char} (h : c.isDigit = true) : Json.isNumberChar c = true := by
  rw [Json.isNumberChar, h, Bool.true_or]

theorem number_signedDecimal (i : Int) :
    Decimal.signedDecimal i ≠ [] ∧
      ∀ c ∈ Decimal.signedDecimal i, Json.isNumberChar c = true := by
  cases i with
  | ofNat n =>
      exact ⟨Decimal.decimal_ne_nil n,
        fun c hc => isNumberChar_of_isDigit (Decimal.isDigit_of_mem_decimal hc)⟩
  | negSucc n =>
      refine ⟨List.cons_ne_nil _ _, fun c hc => ?_⟩
      rcases List.mem_cons.mp hc with rfl | hc
      · decide
      · exact isNumberChar_of_isDigit (Decimal.isDigit_of_mem_decimal hc)

/-- A number of any of the integer types. -/
def int (i : Int) : JsonTree :=
  .number ⟨Decimal.signedDecimal i, (number_signedDecimal i).1, (number_signedDecimal i).2⟩

def nat (n : Nat) : JsonTree := int n

def ofOption {α : Type} (f : α → JsonTree) : Option α → JsonTree
  | none => .null
  | some a => f a

def list {α : Type} (f : α → JsonTree) (l : List α) : JsonTree := .array (l.map f)

/-- A field that is left out where there is nothing in it. -/
def optional {α : Type} (name : String) (f : α → JsonTree) (a : Option α) :
    List (String × JsonTree) :=
  a.toList.map (fun a => (name, f a))

end JsonTree

open JsonTree (nat int ofOption list optional)

/-! ## Rows -/

def Proc.json (p : Proc) : JsonTree :=
  .object [("pid", nat p.pid.toNat), ("ppid", nat p.ppid.toNat), ("name", .string p.name)]

def Memory.json (m : Memory) : JsonTree :=
  .object [("pid", nat m.pid.toNat), ("rssBytes", nat m.rssBytes.toNat)]

def StartTime.json (s : StartTime) : JsonTree :=
  .object [("pid", nat s.pid.toNat), ("startUnixUs", nat s.startUnixUs.toNat)]

def ProcessCpuTime.json (c : ProcessCpuTime) : JsonTree :=
  .object [("pid", nat c.pid.toNat), ("cpuTimeUs", nat c.cpuTimeUs.toNat)]

def ProcessUid.json (u : ProcessUid) : JsonTree :=
  .object [("pid", nat u.pid.toNat), ("uid", nat u.uid.toNat)]

def ProcessCwd.json (c : ProcessCwd) : JsonTree :=
  .object [("pid", nat c.pid.toNat), ("cwd", .string c.cwd)]

/-- A count of threads that is not known is written all the same. -/
def ProcessStatus.json (s : ProcessStatus) : JsonTree :=
  .object [("pid", nat s.pid.toNat), ("state", .string [s.state]), ("nice", int s.nice.toInt),
    ("threads", ofOption (fun n : UInt32 => nat n.toNat) s.threads)]

def ProcessArgv.json (a : ProcessArgv) : JsonTree :=
  .object [("pid", nat a.pid.toNat), ("argv", list .string a.argv)]

/-- The tag, and the pid where there is one. -/
def Attribution.jsonFields : Attribution → List (String × JsonTree)
  | .claimed pid => [("status", .string "claimed".toList), ("pid", nat pid.toNat)]
  | .unclaimed => [("status", .string "unclaimed".toList)]

def Attribution.json (h : Attribution) : JsonTree := .object h.jsonFields

def Port.json (l : Port) : JsonTree :=
  .object (l.attribution.jsonFields ++ optional "uid" (fun n : UInt32 => nat n.toNat) l.uid
    ++ [("port", nat l.port.toNat), ("address", .string l.address)])

def Facet.json (facet : Facet) : JsonTree := .string facet.asStr

def Unreadable.json (u : Unreadable) : JsonTree :=
  .object [("pid", nat u.pid.toNat), ("facet", u.facet.json), ("errno", .string u.errno)]

def SourceError.json (e : SourceError) : JsonTree :=
  .object [("source", .string e.source), ("facet", e.facet.json), ("code", .string e.code)]

/-! ## Documents -/

def Snapshot.json (s : Snapshot) : JsonTree :=
  .object [("version", nat s.version.toNat), ("procs", list Proc.json s.procs),
    ("memory", list Memory.json s.memory), ("startTimes", list StartTime.json s.startTimes),
    ("cpuTimes", list ProcessCpuTime.json s.cpuTimes), ("uids", list ProcessUid.json s.uids),
    ("cwds", list ProcessCwd.json s.cwds), ("statuses", list ProcessStatus.json s.statuses),
    ("argv", list ProcessArgv.json s.argv), ("ports", list Port.json s.ports),
    ("unreadable", list Unreadable.json s.unreadable), ("errors", list SourceError.json s.errors)]

def SocketHolders.json (s : SocketHolders) : JsonTree :=
  .object [("version", nat s.version.toNat), ("holders", list Attribution.json s.holders),
    ("procs", list Proc.json s.procs), ("unreadable", list Unreadable.json s.unreadable),
    ("errors", list SourceError.json s.errors)]

/-- How `serde_json` writes an `f64`: the shortest number that reads as it, and `null` where it is
not finite. -/
structure JsonFloat (F : FloatLib) where
  write : F.F64 → JsonTree
  isFinite : F.F64 → Bool

section Host

variable {F : FloatLib} (E : JsonFloat F)

def Load.json (v : Load F) : JsonTree :=
  .object [("one", E.write v.one), ("five", E.write v.five), ("fifteen", E.write v.fifteen)]

def HostMemory.json (v : HostMemory) : JsonTree :=
  .object [("totalBytes", nat v.totalBytes.toNat), ("availableBytes", nat v.availableBytes.toNat)]

def Swap.json (v : Swap) : JsonTree :=
  .object [("totalBytes", nat v.totalBytes.toNat), ("usedBytes", nat v.usedBytes.toNat)]

def Cpu.json (v : Cpu) : JsonTree :=
  .object [("core", nat v.core.toNat), ("userUs", nat v.userUs.toNat),
    ("systemUs", nat v.systemUs.toNat), ("idleUs", nat v.idleUs.toNat),
    ("otherUs", nat v.otherUs.toNat), ("model", .string v.model),
    ("frequencyMhz", ofOption (fun n : UInt64 => nat n.toNat) v.frequencyMhz)]

def Network.json (v : Network) : JsonTree :=
  .object [("name", .string v.name), ("rxBytes", nat v.rxBytes.toNat),
    ("txBytes", nat v.txBytes.toNat)]

def Disk.json (v : Disk) : JsonTree :=
  .object [("mount", .string v.mount), ("totalBytes", nat v.totalBytes.toNat),
    ("availableBytes", nat v.availableBytes.toNat), ("freeBytes", nat v.freeBytes.toNat)]

def HostSnapshot.json (s : HostSnapshot F) : JsonTree :=
  .object (("version", nat s.version.toNat) :: optional "load" (Load.json E) s.load
    ++ optional "memory" HostMemory.json s.memory ++ optional "swap" Swap.json s.swap
    ++ optional "uptimeUs" (fun n : UInt64 => nat n.toNat) s.uptimeUs
    ++ [("cpus", list Cpu.json s.cpus), ("networks", list Network.json s.networks),
      ("disks", list Disk.json s.disks), ("errors", list SourceError.json s.errors)])

/-- One line. -/
def writeJson (tree : JsonTree) : Text := tree.write ++ ['\n']

/-- A line of JSON is the line of one value. -/
theorem writeJson_injective : Function.Injective writeJson := by
  intro v w h
  exact JsonTree.write_injective (List.append_cancel_right h)

/-- The writers of the three documents. -/
def jsonWriters : JsonWriters F where
  snapshot s := writeJson s.json
  socketHolders s := writeJson s.json
  host s := writeJson (s.json E)

end Host

/-- A listener that no process is named for. -/
example : writeJson (Port.json ⟨.unclaimed, some 501, 22, "7f000001".toList⟩)
    = "\x7b\"status\":\"unclaimed\",\"uid\":501,\"port\":22,\"address\":\"7f000001\"\x7d\n".toList := by
  decide

end Osfacts
