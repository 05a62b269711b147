import Osfacts.Rust.Text

set_option autoImplicit false

/-! # The operating system, as the Linux readers see it

A state of the system is what each read answers: the bytes of a file or an errno, the entries
of a directory, the target of a link. The readers never write, so one state serves a whole
snapshot.
-/

namespace Osfacts

/-- The pid a directory entry of `/proc` is named after, if it is named after one. -/
def pidOfName (name : Bytes) : Option Pid := parseU32 (fromUtf8Lossy name)

/-- What the system answers. A directory read can fail as a whole or at an entry. The listing
of `/proc` names every process once, and pid 0 is no process. -/
structure Os where
  readFile : Text → Except Errno Bytes
  readDir : Text → Except Errno (List (Except Errno Bytes))
  readLink : Text → Except Errno Bytes
  pathExists : Text → Bool
  pagesize : Int
  clkTck : Int
  procPids_nodup : ∀ entries names, readDir "/proc".toList = .ok entries →
    entries.mapM id = .ok names → (names.filterMap pidOfName).Nodup
  procPids_ne_zero : ∀ entries names, readDir "/proc".toList = .ok entries →
    entries.mapM id = .ok names → 0 ∉ names.filterMap pidOfName

namespace Os

/-- `/proc/<pid>/<name>`. -/
def procPath (pid : Pid) (name : String) : Text :=
  "/proc/".toList ++ Decimal.decimal pid.toNat ++ "/".toList ++ name.toList

/-- `/proc/<pid>/fd/<name>`. -/
def fdPath (pid : Pid) (name : Text) : Text := procPath pid "fd/" ++ name

/-- `/proc/<pid>/task/<name>/children`. -/
def childrenPath (pid : Pid) (name : Text) : Text :=
  procPath pid "task/" ++ name ++ "/children".toList

variable (os : Os)

def readBytes (path : Text) : Except Errno Bytes := os.readFile path

/-- A file that is not UTF-8 fails without an errno of its own, which the source spells
`EIO`. -/
def readString (path : Text) : Except Errno Text := do
  let bytes ← os.readFile path
  match fromUtf8 bytes with
  | some t => pure t
  | none => .error Libc.EIO

/-- The names in a directory; the first entry that fails fails the read. -/
def readDirNames (path : Text) : Except Errno (List Text) := do
  let entries ← os.readDir path
  let names ← entries.mapM id
  pure (names.map fromUtf8Lossy)

/-! ## A system given by tables -/

theorem pidOfName_decimal (pid : Pid) :
    pidOfName (Utf8.encode (Decimal.decimal pid.toNat)) = some pid := by
  rw [pidOfName, lossy_of_text, parseU32_decimal]

theorem mapM_id_ok {α : Type} (l : List α) :
    (l.map Except.ok : List (Except Errno α)).mapM id = .ok l := by
  rw [mapM_ok_iff, List.forall₂_map_left_iff]
  exact List.forall₂_same.mpr fun _ _ => rfl

/-- A listing succeeds only when every entry does. -/
theorem eq_map_ok_of_mapM_id {α : Type} {l : List (Except Errno α)} {out : List α}
    (h : l.mapM id = .ok out) : l = out.map .ok := by
  rw [← List.forall₂_eq_eq_eq, List.forall₂_map_right_iff]
  exact mapM_ok_iff.mp h

/-- The entries of `/proc` for a list of pids. -/
def pidEntries (pids : List Pid) : List (Except Errno Bytes) :=
  (pids.map (fun pid => Utf8.encode (Decimal.decimal pid.toNat))).map .ok

theorem pidEntries_names {pids : List Pid} {names : List Bytes}
    (h : (pidEntries pids).mapM id = .ok names) : names.filterMap pidOfName = pids := by
  rw [pidEntries, mapM_id_ok, Except.ok.injEq] at h
  rw [← h, List.filterMap_map]
  simp only [Function.comp_def, pidOfName_decimal, List.filterMap_some]

/-- The system whose processes are `pids` and whose files, directories and links are the ones
in the tables; everything else is absent. -/
def ofTables (files : List (Text × Bytes)) (dirs : List (Text × List Bytes))
    (links : List (Text × Bytes)) (pids : List Pid) (hnodup : pids.Nodup) (hzero : 0 ∉ pids) :
    Os where
  readFile path := (files.lookup path).elim (.error Libc.ENOENT) .ok
  readDir path :=
    if path = "/proc".toList then .ok (pidEntries pids)
    else (dirs.lookup path).elim (.error Libc.ENOENT) (fun names => .ok (names.map .ok))
  readLink path := (links.lookup path).elim (.error Libc.ENOENT) .ok
  pathExists path :=
    pids.any (fun pid => path == "/proc/".toList ++ Decimal.decimal pid.toNat)
  pagesize := 4096
  clkTck := 100
  procPids_nodup entries names hdir hnames := by
    rw [if_pos rfl, Except.ok.injEq] at hdir
    rw [pidEntries_names (hdir ▸ hnames)]
    exact hnodup
  procPids_ne_zero entries names hdir hnames := by
    rw [if_pos rfl, Except.ok.injEq] at hdir
    rw [pidEntries_names (hdir ▸ hnames)]
    exact hzero

end Os

namespace Linux

/-- The numbers of the Linux `libc`. -/
scoped instance libc : Libc where
  EOVERFLOW := 75
  ENOTSUP := 95

end Linux

end Osfacts
