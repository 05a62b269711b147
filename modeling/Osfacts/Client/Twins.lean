import Osfacts.Client.ChildFailure

set_option autoImplicit false

/-! # The two spawn twins

One child, spelled twice: `execFile` hands its callback an error with the exit status on `code`
and the streams beside it, `execFileSync` throws the raw result with the status on `status` and
the streams on it. Each twin reads its own spelling with the readers of `ChildFailure`.
-/

namespace Osfacts.Client

/-- How a child ended. -/
inductive Fate where
  | exited (status : Int)
  | signalled (signal : Text)
  /-- the spawn itself failed -/
  | unspawned (errno : Text)
  deriving DecidableEq, Repr

/-- The error of the callback. `killed` says that the runtime sent a signal, whatever ended the
child. -/
structure ExecFileError extends ChildError where
  killed : Bool
  deriving DecidableEq, Repr

/-- What the callback of `execFile` gets for an error. -/
def execFileError (killed : Bool) : Fate → Option ExecFileError
  | .exited status =>
      if status = 0 then none else some ⟨⟨some (.status status), none, none, none, none⟩, killed⟩
  | .signalled signal => some ⟨⟨none, none, some signal, none, none⟩, killed⟩
  | .unspawned errno => some ⟨⟨some (.errno errno), none, none, none, none⟩, killed⟩

/-- What `execFileSync` returns or throws. -/
def execFileSync (stdout stderr : Text) : Fate → Except ChildError Text
  | .exited status =>
      if status = 0 then .ok stdout
      else .error ⟨none, some status, none, some stdout, some stderr⟩
  | .signalled signal => .error ⟨none, none, some signal, some stdout, some stderr⟩
  | .unspawned errno => .error ⟨some (.errno errno), none, none, some stdout, some stderr⟩

/-- `failure.stdout = stdout; failure.stderr = stderr`. -/
def attachStdio (err : ExecFileError) (stdout stderr : Text) : ExecFileError :=
  { err with stdout := some stdout, stderr := some stderr }

/-- A failed child: its document, or the error of its spawn. -/
def settleFailure (bin : Text) (err : ChildError) : Except OsfactsClientError Text :=
  match failureDocument err with
  | some document => .ok document
  | none => .error (spawnFailure bin err)

/-- `runOsfacts`, with what its callback gets. -/
def runOsfactsAsync (bin : Text) (err : Option ExecFileError) (stdout stderr : Text) :
    Except OsfactsClientError Text := do
  assertBinPath bin
  match err with
  | none => pure stdout
  | some err => settleFailure bin (attachStdio err stdout stderr).toChildError

/-- With what `execFileSync` returns or throws. -/
def runOsfactsSync (bin : Text) (ran : Except ChildError Text) :
    Except OsfactsClientError Text := do
  assertBinPath bin
  match ran with
  | .ok stdout => pure stdout
  | .error err => settleFailure bin err

/-- A child that exited on its own is read as `runOsfacts` has it. -/
theorem runOsfactsAsync_exited (bin : Text) (killed : Bool) (exit : Exit) :
    runOsfactsAsync bin (execFileError killed (.exited exit.code)) (stdoutText exit.stdout)
      exit.stderr = runOsfacts bin exit := by
  by_cases hcode : exit.code = 0
  · have herr : execFileError killed (.exited exit.code) = none := if_pos (by omega)
    rw [herr, runOsfacts, childDocument, if_pos hcode]
    rfl
  · have herr : execFileError killed (.exited exit.code)
        = some ⟨⟨some (.status exit.code), none, none, none, none⟩, killed⟩ := if_neg (by omega)
    rw [herr, runOsfacts, childDocument, if_neg hcode]
    rfl

end Osfacts.Client
