import Osfacts.Cli.Args
import Osfacts.Cli.Lexopt

set_option autoImplicit false

/-! # The flag surface

`parse` and the parsers of the three verbs. Each verb is a loop over the arguments that the
argument parser presents, with one step for one argument. The loops are given fuel; an
argument vector is never longer than the fuel `parse` computes from it.
-/

namespace Osfacts

inductive CliError where
  | usage (message : Text)
  | help (message : Text)
  deriving DecidableEq, Repr

def HELP : Text :=
  ("osfacts — scoped, honest OS process & socket facts\n\nUsage:\n"
    ++ "  osfacts snapshot [--roots PIDS|--pids PIDS] [--procs] [--ports] [--mem] [--start-time] "
    ++ "[--cpu-time] [--uid] [--cwd] [--status] [--argv] [--json]\n"
    ++ "  osfacts socket-holders PATH [--procs] [--json]\n"
    ++ "  osfacts host [--load] [--mem] [--cpu] [--net] [--disk] [--json]\n").toList

/-- A message, an empty line, and the help text. -/
def withHelp (message : Text) : Text := message ++ "\n\n".toList ++ HELP

def lex (e : Text) : CliError := .usage e

/-! ## Pid lists -/

def parsePid (part : Text) : Except CliError Pid :=
  let part := trim part
  match parseU32 part with
  | none => .error (.usage ("not a pid: '".toList ++ part ++ "'".toList))
  | some pid => if pid = 0 then .error (.usage "pid 0 is not a process".toList) else .ok pid

def parsePidList (raw : Bytes) : Except CliError (List Pid) :=
  let s := fromUtf8Lossy raw
  if s = [] then .error (.usage "pid list must not be empty".toList)
  else (s.splitOn ',').mapM parsePid

section Parser

variable (L : Lexopt)

/-- `while let Some(arg) = parser.next()?`, with one step for one argument. -/
def parseLoop {σ : Type} (step : σ → Arg → L.Parser → Except CliError σ × L.Parser) :
    Nat → L.Parser → σ → Option (Except CliError σ)
  | 0, _, _ => none
  | fuel + 1, p, acc =>
      match L.next p with
      | (.error e, _) => some (.error (lex e))
      | (.ok none, _) => some (.ok acc)
      | (.ok (some arg), p) =>
          match step acc arg p with
          | (.error e, _) => some (.error e)
          | (.ok acc, p) => parseLoop step fuel p acc

/-- `parser.value()?`, then a list of pids. -/
def pidListValue (p : L.Parser) : Except CliError (List Pid) × L.Parser :=
  match L.value p with
  | (.error e, p) => (.error (lex e), p)
  | (.ok raw, p) => (parsePidList raw, p)

def unexpectedArgument {α : Type} : Except CliError α :=
  .error (.usage (withHelp "unexpected argument".toList))

/-! ## `snapshot` -/

structure SnapshotAcc where
  roots : Option (List Pid)
  pids : Option (List Pid)
  out : SnapshotArgs

def exclusiveScopes : CliError := .usage "--roots and --pids are mutually exclusive".toList

def snapshotStep (acc : SnapshotAcc) (arg : Arg) (p : L.Parser) :
    Except CliError SnapshotAcc × L.Parser :=
  match arg with
  | .long name =>
      if name = "roots".toList then
        if acc.pids.isSome then (.error exclusiveScopes, p)
        else
          let (pids, p) := pidListValue L p
          (pids.map (fun pids => { acc with roots := some pids }), p)
      else if name = "pids".toList then
        if acc.roots.isSome then (.error exclusiveScopes, p)
        else
          let (pids, p) := pidListValue L p
          (pids.map (fun pids => { acc with pids := some pids }), p)
      else if name = "procs".toList then (.ok { acc with out := { acc.out with procs := true } }, p)
      else if name = "ports".toList then (.ok { acc with out := { acc.out with ports := true } }, p)
      else if name = "mem".toList then (.ok { acc with out := { acc.out with mem := true } }, p)
      else if name = "start-time".toList then
        (.ok { acc with out := { acc.out with startTime := true } }, p)
      else if name = "cpu-time".toList then
        (.ok { acc with out := { acc.out with cpuTime := true } }, p)
      else if name = "uid".toList then (.ok { acc with out := { acc.out with uid := true } }, p)
      else if name = "cwd".toList then (.ok { acc with out := { acc.out with cwd := true } }, p)
      else if name = "status".toList then
        (.ok { acc with out := { acc.out with status := true } }, p)
      else if name = "argv".toList then (.ok { acc with out := { acc.out with argv := true } }, p)
      else if name = "json".toList then (.ok { acc with out := { acc.out with json := true } }, p)
      else if name = "help".toList then (.error (.help HELP), p)
      else (unexpectedArgument, p)
  | .short 'h' => (.error (.help HELP), p)
  | _ => (unexpectedArgument, p)

/-- The scope flags, after the loop. Both cannot be there. -/
def scopeOf (roots pids : Option (List Pid)) : Scope :=
  match roots, pids with
  | some v, _ => .roots v
  | none, some v => .pids v
  | none, none => .host

def finishSnapshot (acc : SnapshotAcc) : Except CliError SnapshotArgs :=
  if !acc.out.procs && !acc.out.ports && !acc.out.mem && !acc.out.startTime && !acc.out.cpuTime
      && !acc.out.uid && !acc.out.cwd && !acc.out.status && !acc.out.argv then
    .error (.usage (withHelp "at least one snapshot facet required".toList))
  else .ok { acc.out with scope := scopeOf acc.roots acc.pids }

def parseSnapshot (fuel : Nat) (p : L.Parser) : Option (Except CliError SnapshotArgs) :=
  (parseLoop L (snapshotStep L) fuel p ⟨none, none, SnapshotArgs.default⟩).map
    (fun r => r.bind finishSnapshot)

/-! ## `socket-holders` -/

structure SocketHoldersAcc where
  path : Option Bytes
  procs : Bool
  json : Bool

def socketHoldersStep (acc : SocketHoldersAcc) (arg : Arg) (p : L.Parser) :
    Except CliError SocketHoldersAcc × L.Parser :=
  match arg with
  | .value v =>
      -- a second path is refused, never taken in place of the first
      if acc.path.isNone then (.ok { acc with path := some v }, p)
      else (.error (.usage (withHelp "socket-holders takes exactly one PATH".toList)), p)
  | .long name =>
      if name = "procs".toList then (.ok { acc with procs := true }, p)
      else if name = "json".toList then (.ok { acc with json := true }, p)
      else if name = "help".toList then (.error (.help HELP), p)
      else (unexpectedArgument, p)
  | .short 'h' => (.error (.help HELP), p)
  | .short _ => (unexpectedArgument, p)

def finishSocketHolders (acc : SocketHoldersAcc) : Except CliError SocketHoldersArgs :=
  match acc.path with
  | none => .error (.usage (withHelp "socket-holders needs a PATH".toList))
  | some path =>
      if path = [] then .error (.usage "socket path must not be empty".toList)
      else .ok ⟨path, acc.procs, acc.json⟩

def parseSocketHolders (fuel : Nat) (p : L.Parser) : Option (Except CliError SocketHoldersArgs) :=
  (parseLoop L (socketHoldersStep L) fuel p ⟨none, false, false⟩).map
    (fun r => r.bind finishSocketHolders)

/-! ## `host` -/

def hostStep (acc : HostArgs) (arg : Arg) (p : L.Parser) : Except CliError HostArgs × L.Parser :=
  match arg with
  | .long name =>
      if name = "load".toList then (.ok { acc with load := true }, p)
      else if name = "mem".toList then (.ok { acc with mem := true }, p)
      else if name = "cpu".toList then (.ok { acc with cpu := true }, p)
      else if name = "net".toList then (.ok { acc with net := true }, p)
      else if name = "disk".toList then (.ok { acc with disk := true }, p)
      else if name = "json".toList then (.ok { acc with json := true }, p)
      else if name = "help".toList then (.error (.help HELP), p)
      else (unexpectedArgument, p)
  | .short 'h' => (.error (.help HELP), p)
  | _ => (unexpectedArgument, p)

def finishHost (acc : HostArgs) : Except CliError HostArgs :=
  if !acc.load && !acc.mem && !acc.cpu && !acc.net && !acc.disk then
    .error (.usage (withHelp "at least one host facet required".toList))
  else .ok acc

def parseHost (fuel : Nat) (p : L.Parser) : Option (Except CliError HostArgs) :=
  (parseLoop L (hostStep L) fuel p ⟨false, false, false, false, false, false⟩).map
    (fun r => r.bind finishHost)

/-! ## The verb -/

/-- No argument vector takes more calls of `next`: one for each argument, one for each
character of a cluster, one for the end. -/
def parseFuel (args : List Bytes) : Nat := (args.map List.length).sum + args.length + 1

def parse (args : List Bytes) : Option (Except CliError Command) :=
  match L.next (L.fromArgs args) with
  | (.error e, _) => some (.error (lex e))
  | (.ok (some (.value v)), p) =>
      if v = ascii "snapshot" then
        (parseSnapshot L (parseFuel args) p).map (fun r => r.map .snapshot)
      else if v = ascii "socket-holders" then
        (parseSocketHolders L (parseFuel args) p).map (fun r => r.map .socketHolders)
      else if v = ascii "host" then
        (parseHost L (parseFuel args) p).map (fun r => r.map .host)
      else if v = ascii "help" ∨ v = ascii "--help" ∨ v = ascii "-h" then
        some (.error (.help HELP))
      else
        some (.error (.usage
          (withHelp ("unknown command '".toList ++ fromUtf8Lossy v ++ "'".toList))))
  | (.ok (some (.short 'h')), _) => some (.error (.help HELP))
  | (.ok (some (.long name)), _) =>
      if name = "help".toList then some (.error (.help HELP))
      else
        some (.error (.usage
          (withHelp ("unexpected ".toList ++ L.debugArg (.long name)))))
  | (.ok (some other), _) =>
      some (.error (.usage (withHelp ("unexpected ".toList ++ L.debugArg other))))
  | (.ok none, _) => some (.error (.help HELP))

end Parser

end Osfacts
