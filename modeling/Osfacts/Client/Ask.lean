import Osfacts.Cli.Args

set_option autoImplicit false

/-! # The asks the client makes

What the client puts on the command line, and which facets the rows that answer an ask can be
reported against. One table translates the flags both ways.
-/

namespace Osfacts.Client

/-- Which flags an ask sets, under the names the client's interface gives them. -/
abbrev SnapshotFacets := Flag → Bool

/-- The ask of a single flag. -/
def SnapshotFacets.only (f : Flag) : SnapshotFacets := fun g => g == f

/-- What one flag is spelled as, and the facets of the `U` and `E` rows it is answered with. -/
structure FacetNames where
  arg : Text
  unreadable : List Text
  source : List Text

def SNAPSHOT_FACET_NAMES : Flag → FacetNames
  | .procs => ⟨"--procs".toList, ["proc".toList], ["proc".toList]⟩
  | .ports =>
      ⟨"--ports".toList, ["ports".toList],
        ["ports".toList, "ports_unclaimed".toList, "ports_uid".toList]⟩
  | .mem => ⟨"--mem".toList, ["mem".toList], ["mem".toList]⟩
  | .startTime => ⟨"--start-time".toList, ["start_time".toList], ["start_time".toList]⟩
  | .cpuTime => ⟨"--cpu-time".toList, ["cpu_time".toList], ["cpu_time".toList]⟩
  | .uid => ⟨"--uid".toList, ["uid".toList], ["uid".toList]⟩
  | .cwd => ⟨"--cwd".toList, ["cwd".toList], ["cwd".toList]⟩
  | .status =>
      ⟨"--status".toList, ["status".toList, "status_threads".toList], ["status".toList]⟩
  | .argv => ⟨"--argv".toList, ["argv".toList], ["argv".toList]⟩

/-- The `U` and `E` facet names a given ask can be answered with. -/
structure AnswerNames where
  unreadable : List Text
  source : List Text

def snapshotFacetNames (facets : SnapshotFacets) : AnswerNames where
  unreadable := (Flag.all.filter facets).flatMap (fun f => (SNAPSHOT_FACET_NAMES f).unreadable)
  source := (Flag.all.filter facets).flatMap (fun f => (SNAPSHOT_FACET_NAMES f).source)

def appendSnapshotFacets (args : List Text) (facets : SnapshotFacets) : List Text :=
  args ++ (Flag.all.filter facets).map (fun f => (SNAPSHOT_FACET_NAMES f).arg)

/-- `pids.join(",")`. -/
def joinPids (pids : List Nat) : Text := [','].intercalate (pids.map Decimal.decimal)

def snapshotArgs (scopeFlag : Text) (pids : List Nat) (facets : SnapshotFacets) : List Text :=
  appendSnapshotFacets ["snapshot".toList, scopeFlag, joinPids pids] facets

/-- The command line of `socketHolders`. -/
def socketHoldersArgs (socketPath : Text) (procs : Bool) : List Text :=
  ["socket-holders".toList, socketPath] ++ if procs then ["--procs".toList] else []

/-! ## The answers of a single flag -/

theorem filter_only (f : Flag) : Flag.all.filter (SnapshotFacets.only f) = [f] := by
  cases f <;> decide

theorem snapshotFacetNames_only (f : Flag) :
    snapshotFacetNames (.only f)
      = ⟨(SNAPSHOT_FACET_NAMES f).unreadable, (SNAPSHOT_FACET_NAMES f).source⟩ := by
  simp [snapshotFacetNames, filter_only]

/-- A flag is answered by rows of its own facet, and by those of no other flag. -/
theorem facet_mem_unreadable {f g : Flag} :
    g.facet.asStr ∈ (snapshotFacetNames (.only f)).unreadable ↔ g = f := by
  rw [snapshotFacetNames_only]
  cases f <;> cases g <;> decide

theorem facet_mem_source {f g : Flag} :
    g.facet.asStr ∈ (snapshotFacetNames (.only f)).source ↔ g = f := by
  rw [snapshotFacetNames_only]
  cases f <;> cases g <;> decide

end Osfacts.Client
