import Osfacts.Client.Parse
import Osfacts.Main

set_option autoImplicit false

/-! # How a failed child is read

A child that exits with 1 still carries a document; any other failure is a spawn failure. The
error is the runtime's own object, whose `code` is an exit status or the errno of a spawn.
-/

namespace Osfacts.Client

inductive ChildCode where
  | status (code : Int)
  | errno (name : Text)
  deriving DecidableEq, Repr

/-- The fields of the error that are read. -/
structure ChildError where
  code : Option ChildCode
  status : Option Int
  signal : Option Text
  stdout : Option Text
  stderr : Option Text
  deriving DecidableEq, Repr

def exitStatusOf (err : ChildError) : Option Int :=
  match err.code with
  | some (.status code) => some code
  | _ => err.status

def errnoOf (err : ChildError) : Option Text :=
  match err.code with
  | some (.errno name) => some name
  | _ => none

/-- The one exit status that still carries a document. -/
def DOCUMENT_BEARING_EXIT : Int := 1

def failureDocument (err : ChildError) : Option Text :=
  if err.signal.isSome then none
  else if exitStatusOf err ≠ some DOCUMENT_BEARING_EXIT then none
  else
    match err.stdout with
    | none => none
    | some stdout => if "V\t".toList.isPrefixOf stdout then some stdout else none

def exitDescription (err : ChildError) : Text :=
  match exitStatusOf err with
  | none => "non-zero exit".toList
  | some status => "exit ".toList ++ Decimal.signedDecimal status

/-- White space as `String.prototype.trim` has it: without U+0085, and with U+FEFF. -/
def isJsSpace (c : Char) : Bool := (isWhitespace c && c.toNat != 0x85) || c.toNat == 0xFEFF

def jsTrim (t : Text) : Text := (t.dropWhile isJsSpace).rdropWhile isJsSpace

/-- The first line of the child's stderr. -/
def failureDetail (err : ChildError) : Text :=
  let text := jsTrim (err.stderr.getD [])
  if text = [] then [] else " — ".toList ++ (text.splitOn '\n').headD []

def spawnFailure (bin : Text) (err : ChildError) : OsfactsClientError :=
  .spawn ("osfacts `".toList ++ bin ++ "` failed (".toList
    ++ (errnoOf err).getD (exitDescription err) ++ ")".toList ++ failureDetail err)

def assertBinPath (bin : Text) : Except OsfactsClientError Unit :=
  if bin = [] then
    .error (.spawn
      "osfacts binary path is empty — the caller must supply an absolute path".toList)
  else .ok ()

/-- What the client makes of the bytes of the child's standard output. -/
def stdoutText (bytes : Bytes) : Text := fromUtf8Lossy bytes

/-- The error of a child that exited on its own with a status other than 0. -/
def exitError (exit : Exit) : ChildError where
  code := some (.status exit.code)
  status := none
  signal := none
  stdout := some (stdoutText exit.stdout)
  stderr := some exit.stderr

/-- The callback of `execFile`, on a child that exited on its own. -/
def childDocument (bin : Text) (exit : Exit) : Except OsfactsClientError Text :=
  if exit.code = 0 then .ok (stdoutText exit.stdout)
  else
    match failureDocument (exitError exit) with
    | some document => .ok document
    | none => .error (spawnFailure bin (exitError exit))

/-- A child that ran to its exit. -/
def runOsfacts (bin : Text) (exit : Exit) : Except OsfactsClientError Text := do
  assertBinPath bin
  childDocument bin exit

/-! ## What survives -/

/-- Exit 1 carries a document when the output starts like one, whatever it is. -/
theorem childDocument_exit_one (bin : Text) {exit : Exit} (hcode : exit.code = 1) :
    childDocument bin exit =
      if "V\t".toList.isPrefixOf (stdoutText exit.stdout) = true then .ok (stdoutText exit.stdout)
      else .error (spawnFailure bin (exitError exit)) := by
  have hdocument : failureDocument (exitError exit) =
      if "V\t".toList.isPrefixOf (stdoutText exit.stdout) = true then
        some (stdoutText exit.stdout)
      else none := by
    have hstatus : exitStatusOf (exitError exit) = some DOCUMENT_BEARING_EXIT := by
      show some (exit.code : Int) = some 1
      rw [hcode]
      rfl
    have hsignal : ¬ (exitError exit).signal.isSome = true := Bool.false_ne_true
    unfold failureDocument
    rw [if_neg hsignal, if_neg (not_not.mpr hstatus)]
    rfl
  unfold childDocument
  rw [if_neg (by omega), hdocument]
  split_ifs <;> rfl

/-- A document that starts with the version line survives the exits 0 and 1. -/
theorem childDocument_of_version (bin : Text) {exit : Exit} (hcode : exit.code = 0 ∨ exit.code = 1)
    (hversion : "V\t".toList.isPrefixOf (stdoutText exit.stdout) = true) :
    childDocument bin exit = .ok (stdoutText exit.stdout) := by
  rcases hcode with hcode | hcode
  · rw [childDocument, if_pos hcode]
  · rw [childDocument_exit_one bin hcode, if_pos hversion]

theorem stdoutText_encode (t : Text) : stdoutText (Utf8.encode t) = t := lossy_of_text t

theorem exitCode_cases {D : Type} [Document D] (doc : D) : exitCode doc = 0 ∨ exitCode doc = 1 := by
  unfold exitCode
  split_ifs
  · exact Or.inl rfl
  · exact Or.inr rfl

/-- Whatever its exit status, the client gets the document the sensor wrote. -/
theorem childDocument_emit {D : Type} [Document D] {J : JsonLib} (bin : Text)
    (writeJson : D → Text) {doc : D} (hversion : "V\t".toList.isPrefixOf (writeTsv J doc) = true) :
    childDocument bin (emit J writeJson doc false) = .ok (writeTsv J doc) := by
  have hstdout : stdoutText (emit J writeJson doc false).stdout = writeTsv J doc :=
    stdoutText_encode (writeTsv J doc)
  have hchild := childDocument_of_version bin (exitCode_cases doc) (hstdout ▸ hversion)
  rw [hchild, hstdout]

end Osfacts.Client
