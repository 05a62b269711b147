import Osfacts.Cli.Parse
import Osfacts.Schema.Document

set_option autoImplicit false

/-! # The program

Parse the command line, run the sensor of the verb, put its document in order, write it, and
exit with a code that tells a blind document from an answer. `emit` is the path on which the
write succeeds, `emitBroken` the one on which it fails.
-/

namespace Osfacts

/-- What a run leaves behind. -/
structure Exit where
  stdout : Bytes
  stderr : Text
  code : Nat
  deriving DecidableEq, Repr

/-- Success, unless the document has nothing but blindness in it. -/
def exitCode {D : Type} [Document D] (doc : D) : Nat :=
  if (Document.errors doc).isEmpty || hasFacts doc then 0 else 1

/-- `writeJson` is the derived serializer of the document's type. -/
def emit {D : Type} [Document D] (J : JsonLib) (writeJson : D → Text) (doc : D) (json : Bool) :
    Exit where
  stdout := Utf8.encode (if json then writeJson doc else writeTsv J doc)
  stderr := []
  code := exitCode doc

/-- `emit` where the write fails with `e` after the first `reached` bytes have left. -/
def emitBroken {D : Type} [Document D] (J : JsonLib) (writeJson : D → Text) (doc : D) (json : Bool)
    (reached : Nat) (e : Text) : Exit where
  stdout := (emit J writeJson doc json).stdout.take reached
  stderr := "osfacts: write failed: ".toList ++ e ++ "\n".toList
  code := 1

/-- Take a sensor's reading and put it in document order. -/
def take {D : Type} [Document D] (doc : D) : D := normalize doc

def writeVersionOnly (J : JsonLib) : Bytes := Utf8.encode (writeTsv J Snapshot.new)

/-- The sensors of the host platform. -/
structure Platform (F : FloatLib) where
  snapshot : SnapshotArgs → Snapshot
  socketHolders : SocketHoldersArgs → SocketHolders
  host : HostArgs → HostSnapshot F

/-- The derived serializers. -/
structure JsonWriters (F : FloatLib) where
  snapshot : Snapshot → Text
  socketHolders : SocketHolders → Text
  host : HostSnapshot F → Text

section Program

variable (L : Lexopt) (J : JsonLib) {F : FloatLib} (W : JsonWriters F) (platform : Platform F)

/-- What the program does with a parsed command line. The version line is written on the error
paths too. -/
def run : Except CliError Command → Exit
  | .ok (.snapshot args) => emit J W.snapshot (take (platform.snapshot args)) args.json
  | .ok (.socketHolders args) =>
      emit J W.socketHolders (take (platform.socketHolders args)) args.json
  | .ok (.host args) => emit J W.host (take (platform.host args)) args.json
  | .error (.help msg) => ⟨writeVersionOnly J, msg ++ "\n".toList, 0⟩
  | .error (.usage msg) => ⟨writeVersionOnly J, "osfacts: ".toList ++ msg ++ "\n".toList, 2⟩

def main (args : List Bytes) : Option Exit := (parse L args).map (run J W platform)

end Program

end Osfacts
