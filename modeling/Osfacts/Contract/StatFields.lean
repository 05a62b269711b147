import Osfacts.Linux.Readers

set_option autoImplicit false

/-! # The fields behind the name

A process chooses the name between the parentheses of its `stat`, which may hold parentheses,
blanks and a whole tail of its own. The fields behind it hold no closing parenthesis, so the last
one is the kernel's: the tail is read as the kernel wrote it, whatever the name says.
-/

namespace Osfacts.Linux

/-- A field as the kernel writes it: not empty, no blank, no closing parenthesis. -/
structure Token (t : Text) : Prop where
  ne_nil : t ≠ []
  no_blank : ∀ c ∈ t, isWhitespace c = false
  no_close : ')' ∉ t

theorem Token.of_all {t : Text} (hne : t ≠ [])
    (h : t.all (fun c => !isWhitespace c && c != ')') = true) : Token t := by
  simp only [List.all_eq_true, Bool.and_eq_true, Bool.not_eq_true', bne_iff_ne] at h
  exact ⟨hne, fun c hc => (h c hc).1, fun hclose => (h ')' hclose).2 rfl⟩

/-- `/proc/<pid>/stat`. -/
def statText (pid : Pid) (comm : Text) (tail : List Text) : Text :=
  Decimal.decimal pid.toNat ++ " (".toList ++ comm ++ ") ".toList ++ [' '].intercalate tail

section Stat

variable (pid : Pid) (comm : Text) {tail : List Text}

/-- What stands in front of the kernel's closing parenthesis, and what behind it. -/
theorem statText_eq (tail : List Text) :
    statText pid comm tail
      = (Decimal.decimal pid.toNat ++ [' '])
        ++ '(' :: (comm ++ ')' :: ' ' :: [' '].intercalate tail) := by
  simp [statText]

theorem no_close_tail (h : ∀ token ∈ tail, Token token) : ')' ∉ ' ' :: [' '].intercalate tail := by
  rw [List.mem_cons, not_or]
  refine ⟨by decide, ?_⟩
  induction tail with
  | nil => exact List.not_mem_nil
  | cons token tail ih =>
      have hrest := ih (fun t ht => h t (by simp [ht]))
      have hfirst := (h token (by simp)).no_close
      cases tail with
      | nil =>
          rw [List.intercalate_singleton]
          exact hfirst
      | cons next tail =>
          rw [List.intercalate_cons_cons, List.mem_append, List.mem_append, not_or, not_or]
          exact ⟨⟨hfirst, by decide⟩, hrest⟩

theorem rfind_statText (h : ∀ token ∈ tail, Token token) :
    rfind ')' (statText pid comm tail)
      = some ((Decimal.decimal pid.toNat ++ [' ']) ++ '(' :: comm).length := by
  rw [statText_eq, ← List.cons_append, ← List.append_assoc]
  exact rfind_append_cons _ (no_close_tail h)

/-- A field is the one of the tail. -/
theorem parseStatField_statText (h : ∀ token ∈ tail, Token token) (i : Nat) :
    parseStatField (statText pid comm tail) i = parsed tail[i]? := by
  have hfields : splitWhitespace (' ' :: [' '].intercalate tail) = tail := by
    rw [splitWhitespace, fields_cons_of_pos (by decide)]
    exact fields_intercalate (by decide) tail (fun token ht => (h token ht).ne_nil)
      (fun token ht => (h token ht).no_blank)
  rw [parseStatField, rfind_statText pid comm h]
  simp only []
  rw [statText_eq, ← List.cons_append, ← List.append_assoc, drop_append_cons, hfields]
  cases tail[i]? <;> rfl

theorem parseComm_statText (h : ∀ token ∈ tail, Token token) :
    parseComm (statText pid comm tail) = some comm := by
  have hopen : find '(' (statText pid comm tail)
      = some (Decimal.decimal pid.toNat ++ [' ']).length := by
    rw [statText_eq]
    refine find_append_cons _ (fun hmem => ?_)
    rcases List.mem_append.mp hmem with hmem | hmem
    · exact absurd (Decimal.isDigit_of_mem_decimal hmem) (by decide)
    · exact absurd hmem (by decide)
  rw [parseComm, hopen, rfind_statText pid comm h, statText_eq]
  generalize Decimal.decimal pid.toNat ++ [' '] = pre
  generalize ' ' :: [' '].intercalate tail = rest
  have hlt : (pre ++ '(' :: comm).length > pre.length := by
    rw [List.length_append, List.length_cons]
    omega
  have htake : (pre ++ '(' :: (comm ++ ')' :: rest)).take (pre ++ '(' :: comm).length
      = pre ++ '(' :: comm := by
    rw [← List.cons_append, ← List.append_assoc, List.take_left]
  show (if (pre ++ '(' :: comm).length > pre.length then some (((pre ++ '(' :: (comm ++ ')' ::
    rest)).take (pre ++ '(' :: comm).length).drop (pre.length + 1)) else none) = _
  rw [if_pos hlt, htake, drop_append_cons]

end Stat

/-- **A name cannot forge the fields behind it.** Whatever the pid and the name, every field is read
from the tail and the name comes back whole; so what is computed from the fields does not depend on
the name. -/
theorem stat_unforgeable (pid : Pid) (comm : Text) (tail : List Text)
    (h : ∀ token ∈ tail, Token token) :
    (∀ i, (∀ hi : i < tail.length, parseStatField (statText pid comm tail) i = .ok tail[i]) ∧
      (tail.length ≤ i → parseStatField (statText pid comm tail) i = .error Libc.EINVAL)) ∧
    parseComm (statText pid comm tail) = some comm ∧
    ∀ (pid' : Pid) (comm' : Text),
      (∀ cmdline cmdline', (readProc pid (statText pid comm tail) cmdline).map Proc.ppid
        = (readProc pid' (statText pid' comm' tail) cmdline').map Proc.ppid) ∧
      readStatus (statText pid comm tail) = readStatus (statText pid' comm' tail) ∧
      (∀ bootUs hz, readStartTime (statText pid comm tail) bootUs hz
        = readStartTime (statText pid' comm' tail) bootUs hz) ∧
      (∀ hz, readCpuTime (statText pid comm tail) hz = readCpuTime (statText pid' comm' tail) hz) ∧
      ∀ pageSize, readRssFromStat (statText pid comm tail) pageSize
        = readRssFromStat (statText pid' comm' tail) pageSize := by
  have hfield := fun pid comm => parseStatField_statText pid comm h
  refine ⟨fun i => ⟨fun hi => ?_, fun hi => ?_⟩, parseComm_statText pid comm h,
    fun pid' comm' => ?_⟩
  · rw [hfield, List.getElem?_eq_getElem hi]
    rfl
  · rw [hfield, List.getElem?_eq_none hi]
    rfl
  -- each reader sees the record through its fields only
  refine ⟨fun cmdline cmdline' => ?_, ?_, fun bootUs hz => ?_, fun hz => ?_, fun pageSize => ?_⟩
  · unfold readProc
    simp only [hfield]
    cases parsed tail[1]? with
    | error err => rfl
    | ok value =>
        simp only [ok_bind]
        cases parsed (parseU32 value) with
        | error err => rfl
        | ok ppid => rfl
  · unfold readStatus
    simp only [hfield]
  · unfold readStartTime
    simp only [hfield]
  · unfold readCpuTime
    simp only [hfield]
  · unfold readRssFromStat
    simp only [hfield]

/-- A process named after the tail of another: `) R 1 2 3`. -/
theorem stat_unforgeable_sample :
    parseComm (statText 7 ") R 1 2 3".toList ["S".toList, "9".toList]) = some ") R 1 2 3".toList ∧
      parseStatField (statText 7 ") R 1 2 3".toList ["S".toList, "9".toList]) 1
        = .ok "9".toList := by
  have hunforged := stat_unforgeable 7 ") R 1 2 3".toList ["S".toList, "9".toList]
    (List.forall_mem_cons.mpr ⟨Token.of_all (by decide) (by decide),
      List.forall_mem_singleton.mpr (Token.of_all (by decide) (by decide))⟩)
  exact ⟨hunforged.2.1, (hunforged.1 1).1 (by decide)⟩

end Osfacts.Linux
