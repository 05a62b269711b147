import Osfacts.Client.Twins

set_option autoImplicit false

/-! # The twins agree

The readers never look at `killed`, and each of them finds the exit status, the signal and the
errno of a child in either spelling. So the twins settle every fate alike, and only the exit
status 1 hands bytes of a failed child to a parser.
-/

namespace Osfacts.Client

section Fates

variable {fate : Fate} {killed : Bool} {stdout stderr : Text}
variable {err : ExecFileError} {failure : ChildError}

/-! ## What the readers find -/

/-- The exit status of a child that has one. -/
def Fate.status : Fate → Option Int
  | .exited status => some status
  | _ => none

def Fate.signal : Fate → Option Text
  | .signalled signal => some signal
  | _ => none

def Fate.errno : Fate → Option Text
  | .unspawned errno => some errno
  | _ => none

/-- What the readers of `ChildFailure` read of an error: all of it they need. -/
structure Spells (fate : Fate) (stdout stderr : Text) (err : ChildError) : Prop where
  status : exitStatusOf err = fate.status
  signal : err.signal = fate.signal
  errno : errnoOf err = fate.errno
  stdout : err.stdout = some stdout
  stderr : err.stderr = some stderr

theorem spells_execFile (h : execFileError killed fate = some err) :
    Spells fate stdout stderr (attachStdio err stdout stderr).toChildError := by
  cases fate with
  | exited status =>
      rw [execFileError] at h
      split_ifs at h
      obtain rfl := Option.some.inj h
      exact ⟨rfl, rfl, rfl, rfl, rfl⟩
  | signalled signal =>
      obtain rfl := Option.some.inj h
      exact ⟨rfl, rfl, rfl, rfl, rfl⟩
  | unspawned errno =>
      obtain rfl := Option.some.inj h
      exact ⟨rfl, rfl, rfl, rfl, rfl⟩

theorem spells_execFileSync (h : execFileSync stdout stderr fate = .error failure) :
    Spells fate stdout stderr failure := by
  cases fate with
  | exited status =>
      rw [execFileSync] at h
      split_ifs at h
      obtain rfl := Except.error.inj h
      exact ⟨rfl, rfl, rfl, rfl, rfl⟩
  | signalled signal =>
      obtain rfl := Except.error.inj h
      exact ⟨rfl, rfl, rfl, rfl, rfl⟩
  | unspawned errno =>
      obtain rfl := Except.error.inj h
      exact ⟨rfl, rfl, rfl, rfl, rfl⟩

/-! ## What follows from it -/

/-- The document of a failed child, from its fate and its output alone. -/
def documentOfFate (fate : Fate) (stdout : Text) : Option Text :=
  if fate = .exited DOCUMENT_BEARING_EXIT ∧ "V\t".toList.isPrefixOf stdout = true then some stdout
  else none

theorem failureDocument_of_spells (h : Spells fate stdout stderr failure) :
    failureDocument failure = documentOfFate fate stdout := by
  rw [failureDocument, h.signal, h.status, h.stdout, documentOfFate]
  cases fate with
  | exited status =>
      by_cases hstatus : status = DOCUMENT_BEARING_EXIT
      · subst hstatus
        simp only [Fate.signal, Fate.status, Option.isSome_none, Bool.false_eq_true, if_false,
          ne_eq, not_true_eq_false, true_and]
      · simp [Fate.signal, Fate.status, hstatus]
  | signalled signal => simp [Fate.signal]
  | unspawned errno => simp [Fate.signal, Fate.status]

theorem spawnFailure_of_spells (bin : Text) {other : ChildError}
    (h : Spells fate stdout stderr failure) (h' : Spells fate stdout stderr other) :
    spawnFailure bin failure = spawnFailure bin other := by
  rw [spawnFailure, spawnFailure, exitDescription, exitDescription, failureDetail, failureDetail,
    h.errno, h'.errno, h.status, h'.status, h.stderr, h'.stderr]

theorem documentOfFate_iff {document : Text} : documentOfFate fate stdout = some document ↔
    document = stdout ∧ fate = .exited 1 ∧ "V\t".toList.isPrefixOf stdout = true := by
  rw [documentOfFate, Option.ite_none_right_eq_some, Option.some.injEq]
  exact ⟨fun ⟨h, hdocument⟩ => ⟨hdocument.symm, h⟩, fun ⟨hdocument, h⟩ => ⟨h, hdocument.symm⟩⟩

/-- Only the exit status 0 is no error, for either twin. -/
theorem eq_exited_zero (h : execFileError killed fate = none) : fate = .exited 0 := by
  cases fate with
  | exited status =>
      rw [execFileError] at h
      split_ifs at h with hstatus
      rw [hstatus]
  | signalled signal => cases h
  | unspawned errno => cases h

variable (stdout stderr) in
theorem exists_failure (h : fate ≠ .exited 0) :
    ∃ failure, execFileSync stdout stderr fate = .error failure := by
  cases fate with
  | exited status =>
      have hstatus : status ≠ 0 := fun hzero => h (congrArg Fate.exited hzero)
      exact ⟨_, by rw [execFileSync, if_neg hstatus]⟩
  | signalled signal => exact ⟨_, rfl⟩
  | unspawned errno => exact ⟨_, rfl⟩

theorem runOsfacts_twins (bin : Text) :
    runOsfactsAsync bin (execFileError killed fate) stdout stderr
      = runOsfactsSync bin (execFileSync stdout stderr fate) := by
  unfold runOsfactsAsync runOsfactsSync
  cases herr : execFileError killed fate with
  | none =>
      obtain rfl := eq_exited_zero herr
      rfl
  | some err =>
      have hnonzero : fate ≠ .exited 0 := by
        rintro rfl
        cases herr
      obtain ⟨failure, hran⟩ := exists_failure stdout stderr hnonzero
      have hasync : Spells fate stdout stderr (attachStdio err stdout stderr).toChildError :=
        spells_execFile herr
      have hsync := spells_execFileSync hran
      rw [hran]
      simp only [settleFailure]
      rw [failureDocument_of_spells hasync, failureDocument_of_spells hsync,
        spawnFailure_of_spells bin hasync hsync]

/-- A child that ended otherwise than by the exits 0 and 1 has nothing to parse. -/
theorem runOsfactsSync_spawn (bin : Text) (hzero : fate ≠ .exited 0) (hone : fate ≠ .exited 1) :
    ∃ message, runOsfactsSync bin (execFileSync stdout stderr fate) = .error (.spawn message) := by
  obtain ⟨failure, hran⟩ := exists_failure stdout stderr hzero
  have hdocument : failureDocument failure = none := by
    rw [failureDocument_of_spells (spells_execFileSync hran), documentOfFate]
    exact if_neg fun h => hone h.1
  have hsettle : settleFailure bin failure = .error (spawnFailure bin failure) := by
    rw [settleFailure, hdocument]
  obtain ⟨message, hmessage⟩ : ∃ message, spawnFailure bin failure = .spawn message := ⟨_, rfl⟩
  rw [hran, runOsfactsSync, assertBinPath]
  split_ifs
  · exact ⟨_, rfl⟩
  · exact ⟨message, hmessage ▸ hsettle⟩

end Fates

/-! ## The two of them -/

/-- The exit of a refused command line. -/
theorem main_usage {L : Lexopt} {J : JsonLib} {F : FloatLib} {W : JsonWriters F}
    {platform : Platform F} {args : List Bytes} {message : Text} {exit : Exit}
    (hparse : parse L args = some (.error (.usage message)))
    (h : main L J W platform args = some exit) : exit.code = 2 := by
  rw [main, hparse] at h
  obtain rfl := Option.some.inj h
  rfl

/-- **The twins agree on every fate:** on the document, on the message, and on what the caller
gets, which for a child ended by a signal or refusing its command line is the failure of its
spawn. -/
theorem twins_agree (bin : Text) (fate : Fate) (killed : Bool) (stdout stderr : Text) :
    (∀ err failure, execFileError killed fate = some err →
      execFileSync stdout stderr fate = .error failure →
      failureDocument (attachStdio err stdout stderr).toChildError = failureDocument failure ∧
      (∀ document, failureDocument failure = some document ↔
        document = stdout ∧ fate = .exited 1 ∧ "V\t".toList.isPrefixOf stdout = true) ∧
      spawnFailure bin (attachStdio err stdout stderr).toChildError = spawnFailure bin failure) ∧
    runOsfactsAsync bin (execFileError killed fate) stdout stderr
      = runOsfactsSync bin (execFileSync stdout stderr fate) ∧
    (∀ signal, fate = .signalled signal →
      ∃ message, runOsfactsSync bin (execFileSync stdout stderr fate) = .error (.spawn message)) ∧
    ∀ (L : Lexopt) (J : JsonLib) (F : FloatLib) (W : JsonWriters F) (platform : Platform F)
      (args : List Bytes) (refusal : Text) (exit : Exit),
      parse L args = some (.error (.usage refusal)) → main L J W platform args = some exit →
      fate = .exited exit.code →
      ∃ message,
        runOsfactsSync bin (execFileSync stdout stderr fate) = .error (.spawn message) := by
  refine ⟨fun err failure herr hran => ?_, runOsfacts_twins bin, ?_, ?_⟩
  · have hasync : Spells fate stdout stderr (attachStdio err stdout stderr).toChildError :=
      spells_execFile herr
    have hsync := spells_execFileSync hran
    refine ⟨?_, fun document => ?_, spawnFailure_of_spells bin hasync hsync⟩
    · rw [failureDocument_of_spells hasync, failureDocument_of_spells hsync]
    · rw [failureDocument_of_spells hsync, documentOfFate_iff]
  · rintro signal rfl
    exact runOsfactsSync_spawn bin (by simp) (by simp)
  · intro L J F W platform args refusal exit hparse hmain hfate
    have hcode := main_usage hparse hmain
    rw [hcode] at hfate
    exact runOsfactsSync_spawn bin (by simp [hfate]) (by simp [hfate])

/-- A child that exited with 1 before the deadline's signal reached it. -/
theorem twins_agree_sample :
    failureDocument
      (attachStdio ⟨⟨some (.status 1), none, none, none, none⟩, true⟩ "V\t2\n".toList
        []).toChildError
      = some "V\t2\n".toList ∧
    runOsfactsSync "osfacts".toList
      (execFileSync "V\t2\n".toList [] (.signalled "SIGKILL".toList))
      = .error (.spawn "osfacts `osfacts` failed (non-zero exit)".toList) := by
  have hone := twins_agree "osfacts".toList (.exited 1) true "V\t2\n".toList []
  have hdocument := hone.1 ⟨⟨some (.status 1), none, none, none, none⟩, true⟩
    ⟨none, some 1, none, some "V\t2\n".toList, some []⟩ rfl rfl
  refine ⟨hdocument.1.trans ((hdocument.2.1 _).mpr ⟨rfl, rfl, by decide⟩), by decide +kernel⟩

end Osfacts.Client
