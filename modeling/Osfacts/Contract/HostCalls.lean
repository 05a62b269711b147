import Osfacts.Contract.HostAccount
import Osfacts.Contract.HostVerdict
import Osfacts.Contract.Verbs
import Osfacts.Contract.VerbsApart

set_option autoImplicit false

/-! # The host verb, end to end

A host call of the client reads off one child the whole document of the platform, or a parse
error. A call that asks for less is answered with the part of the larger answer that it is about.
-/

namespace Osfacts

open Client

/-! ## The flags of a host ask -/

/-- The loop on long options that take no value. -/
theorem loop_longs {L : Lexopt} {ready finished : L.Parser → List Bytes → Prop}
    {pending : L.Parser → Prop} (hL : L.Lawful ready finished pending) {σ Φ : Type}
    {step : σ → Arg → L.Parser → Except CliError σ × L.Parser} {name : Φ → Text} {set : σ → Φ → σ}
    (hname : ∀ f, name f ≠ [] ∧ '=' ∉ name f)
    (hstep : ∀ acc f p, step acc (.long (name f)) p = (.ok (set acc f), p)) (fs : List Φ)
    {p : L.Parser} (hp : ready p (fs.map (fun f => Utf8.encode ("--".toList ++ name f))))
    (fuel : Nat) (acc : σ) :
    parseLoop L step (fuel + fs.length + 1) p acc = some (.ok (fs.foldl set acc)) := by
  induction fs generalizing p acc with
  | nil => exact parseLoop_end fuel acc (hL.next_end p hp)
  | cons f fs ih =>
      obtain ⟨hne, heq⟩ := hname f
      obtain ⟨hnext, hready⟩ := hL.next_long p (name f) _ hne heq hp
      rw [List.length_cons, List.foldl_cons, ← Nat.add_assoc,
        parseLoop_step _ hnext (hstep acc f _)]
      exact ih hready (set acc f)

/-- The name of a flag, after its two dashes. -/
def HostFlag.name : HostFlag → Text
  | load => "load".toList
  | mem => "mem".toList
  | cpu => "cpu".toList
  | net => "net".toList
  | disk => "disk".toList

namespace HostArgs

/-- Nothing, asked. -/
def nothing : HostArgs := ⟨false, false, false, false, false, false⟩

/-- The flag, set. -/
def set (args : HostArgs) : HostFlag → HostArgs
  | .load => { args with load := true }
  | .mem => { args with mem := true }
  | .cpu => { args with cpu := true }
  | .net => { args with net := true }
  | .disk => { args with disk := true }

/-- The ask for some facets, as the program is to perform it. -/
def ofFacets (facets : HostFacets) : HostArgs :=
  ⟨facets.load, facets.mem, facets.cpu, facets.net, facets.disk, false⟩

theorem foldl_set (facets : HostFacets) :
    (HostFlag.all.filter (ofFacets facets).asks).foldl set nothing = ofFacets facets := by
  obtain ⟨load, mem, cpu, net, disk⟩ := facets
  cases load <;> cases mem <;> cases cpu <;> cases net <;> cases disk <;> rfl

end HostArgs

theorem hostArgs_eq (facets : HostFacets) : hostArgs facets = "host".toList ::
    (HostFlag.all.filter (HostArgs.ofFacets facets).asks).map (fun f => "--".toList ++ f.name) := by
  obtain ⟨load, mem, cpu, net, disk⟩ := facets
  cases load <;> cases mem <;> cases cpu <;> cases net <;> cases disk <;> rfl

theorem finishHost_asked {args : HostArgs} {f : HostFlag} (h : args.asks f = true) :
    finishHost args = .ok args := by
  refine if_neg ?_
  cases f <;> simp [HostArgs.asks] at h <;> simp [h]

theorem finishHost_nothing {args : HostArgs} (h : ∀ f, args.asks f = false) :
    finishHost args
      = .error (.usage (withHelp "at least one host facet required".toList)) := by
  refine if_pos ?_
  simp only [Bool.and_eq_true, Bool.not_eq_true']
  exact ⟨⟨⟨⟨h .load, h .mem⟩, h .cpu⟩, h .net⟩, h .disk⟩

section Parse

variable {L : Lexopt} {ready finished : L.Parser → List Bytes → Prop} {pending : L.Parser → Prop}

theorem parse_host (hL : L.Lawful ready finished pending) (rest : List Bytes) :
    ∃ p, ready p rest ∧ parse L (Utf8.encode "host".toList :: rest)
      = (parseHost L (parseFuel (Utf8.encode "host".toList :: rest)) p).map
          (fun r => r.map .host) := by
  obtain ⟨hnext, hready⟩ := hL.next_value _ "host".toList rest (by decide) (hL.fromArgs _)
  refine ⟨_, hready, ?_⟩
  rw [parse, Prod.ext (y := (_, _)) hnext rfl]
  show (if _ then _ else if _ then _ else if _ then _ else _) = _
  rw [if_neg (by decide), if_neg (by decide), if_pos (by decide)]

/-- What `parse` makes of the command line of a host ask. -/
theorem parse_hostArgs (hL : L.Lawful ready finished pending) (facets : HostFacets) :
    parse L ((hostArgs facets).map Utf8.encode)
      = some ((finishHost (.ofFacets facets)).map .host) := by
  have hargs : (hostArgs facets).map Utf8.encode = Utf8.encode "host".toList ::
      (HostFlag.all.filter (HostArgs.ofFacets facets).asks).map
        (fun f => Utf8.encode ("--".toList ++ f.name)) := by
    rw [hostArgs_eq, List.map_cons, List.map_map]
    rfl
  obtain ⟨p, hready, hparse⟩ := parse_host hL
    ((HostFlag.all.filter (HostArgs.ofFacets facets).asks).map
      (fun f => Utf8.encode ("--".toList ++ f.name)))
  obtain ⟨fuel, hfuel⟩ := exists_parseFuel (Utf8.encode "host".toList ::
    (HostFlag.all.filter (HostArgs.ofFacets facets).asks).map
      (fun f => Utf8.encode ("--".toList ++ f.name)))
    (n := (HostFlag.all.filter (HostArgs.ofFacets facets).asks).length + 1) (by simp)
  have hname : ∀ f : HostFlag, f.name ≠ [] ∧ '=' ∉ f.name := by
    intro f
    cases f <;> decide
  have hstep : ∀ (acc : HostArgs) (f : HostFlag) (p : L.Parser),
      hostStep L acc (.long f.name) p = (.ok (acc.set f), p) := by
    intro acc f p
    cases f <;> rfl
  have hloop := loop_longs hL hname hstep _ hready fuel HostArgs.nothing
  rw [HostArgs.foldl_set] at hloop
  rw [hargs, hparse, hfuel, ← Nat.add_assoc, parseHost]
  show Option.map _ (Option.map _ (parseLoop L (hostStep L) _ p HostArgs.nothing)) = _
  rw [hloop]
  rfl

end Parse

/-! ## The answer of a host call -/

section Answers

variable {L : Lexopt} {ready finished : L.Parser → List Bytes → Prop} {pending : L.Parser → Prop}
variable {J : JsonLib} {F : FloatLib} {W : JsonWriters F} {rt : Runtime} {bin : Text}

theorem host_of_asked {platform : Platform F} (hL : L.Lawful ready finished pending)
    {facets : HostFacets} (h : rt.Serves bin L J W platform (hostArgs facets)) {f : HostFlag}
    (hf : (HostArgs.ofFacets facets).asks f = true) :
    rt.host J F bin facets = ⟨[(bin, hostArgs facets)],
      parseHostOutput J F (writeTsv J (platform.host (.ofFacets facets)))⟩ := by
  have hmain : main L J W platform ((hostArgs facets).map Utf8.encode)
      = some (emit J W.host (platform.host (.ofFacets facets)) false) := by
    rw [main, parse_hostArgs hL, finishHost_asked hf]
    rfl
  rw [Runtime.host, runOsfacts_emit h hmain rfl, Call.andThen_ok]

theorem host_of_nothing {platform : Platform F} (hL : L.Lawful ready finished pending)
    {facets : HostFacets} (h : rt.Serves bin L J W platform (hostArgs facets))
    (hfacets : ∀ f, (HostArgs.ofFacets facets).asks f = false) :
    ∃ failure, rt.host J F bin facets = ⟨[(bin, hostArgs facets)], .error (.spawn failure)⟩ := by
  have hparse : parse L ((hostArgs facets).map Utf8.encode)
      = some (.error (.usage (withHelp "at least one host facet required".toList))) := by
    rw [parse_hostArgs hL, finishHost_nothing hfacets]
    rfl
  obtain ⟨failure, hfailure⟩ := runOsfacts_usage h hparse
  refine ⟨failure, ?_⟩
  rw [Runtime.host, hfailure, Call.andThen_error]

/-- The document of a system is framed, where load numbers are plain text. -/
theorem System.host_framed (hdisplay : ∀ x, Plain (F.display x)) (system : System F)
    (args : HostArgs) : (system.platform.host args).Framed := by
  cases system with
  | linux E os =>
      show (Linux.host E os args).Framed
      rw [Linux.host_eq]
      exact HostReadings.document_framed hdisplay _ args
  | darwin os =>
      show (Darwin.host os args).Framed
      rw [Darwin.host_eq]
      exact HostReadings.document_framed hdisplay _ args
  | unsupported =>
      exact ⟨rfl, nofun, List.forall_mem_nil _, List.forall_mem_nil _, List.forall_mem_nil _,
        List.forall_mem_nil _⟩

/-- **All of a host, or an error.** On every system, whatever its sources answer, a host call
spawns one child, and this is what it is if the child runs to its exit. For no facet it is the
failure of that child. Otherwise it is the whole document
of the platform, row for row, if the client can hold every count and every load number in it, and
a parse error if not: never a part of the document. -/
theorem host_call_verdict (hL : L.Lawful ready finished pending) (hJ : J.Lawful)
    {system : System F} {facets : HostFacets}
    (h : rt.Serves bin L J W system.platform (hostArgs facets))
    (hdisplay : ∀ x, Plain (F.display x)) :
    ((∀ f, (HostArgs.ofFacets facets).asks f = false) → ∃ failure, rt.host J F bin facets
      = ⟨[(bin, hostArgs facets)], .error (.spawn failure)⟩) ∧
    ((∃ f, (HostArgs.ofFacets facets).asks f = true) →
      ((system.platform.host (.ofFacets facets)).Holdable ∧ rt.host J F bin facets
        = ⟨[(bin, hostArgs facets)], .ok (system.platform.host (.ofFacets facets)).view⟩) ∨
      ¬ (system.platform.host (.ofFacets facets)).Holdable ∧ ∃ message, rt.host J F bin facets
        = ⟨[(bin, hostArgs facets)], .error (.parse message)⟩) := by
  refine ⟨fun hnothing => host_of_nothing hL h hnothing, fun ⟨f, hf⟩ => ?_⟩
  rw [host_of_asked hL h hf]
  rcases host_verdict_of_framed hJ (system.host_framed hdisplay (.ofFacets facets))
    with ⟨hhold, hparse⟩ | ⟨hhold, message, hparse⟩
  · exact Or.inl ⟨hhold, by rw [hparse]⟩
  · exact Or.inr ⟨hhold, message, by rw [hparse]⟩

end Answers

/-! ## A host to call -/

/-- A Linux machine with an uptime and a root file system, and without a load. -/
def bareHost : System naturalFloats :=
  .linux naturalF64
    { Linux.singleOs [("/proc/uptime".toList, ascii "5.25 3.00")] with
      statvfsRoot := .ok ⟨4096, 100, 40, 50⟩ }

def bareRuntime : Runtime :=
  .of "osfacts".toList .standard .standard (noWriters naturalFloats) bareHost.platform

/-- The root file system and the load, of which there is none. -/
def loadAndDisk : HostFacets := ⟨true, false, false, false, true⟩

theorem bareRuntime_serves : bareRuntime.Serves "osfacts".toList .standard .standard
    (noWriters naturalFloats) bareHost.platform (hostArgs loadAndDisk) :=
  runtime_of_serves (by decide) _ _ _ _ (by decide)

theorem plain_natural (n : Nat) : Plain (naturalFloats.display n) := plain_decimal n

theorem bareHost_holdable : (bareHost.platform.host (.ofFacets loadAndDisk)).Holdable := by
  have hcounts : (bareHost.platform.host (.ofFacets loadAndDisk)).counts
      = [5250000, 409600, 163840, 204800] := rfl
  have hload : (bareHost.platform.host (.ofFacets loadAndDisk)).load = none := rfl
  refine ⟨?_, fun v hv => ?_⟩
  · rw [hcounts]
    simp [SafeInteger, MAX_SAFE_INTEGER]
  · rw [hload] at hv
    cases hv

theorem host_call_verdict_sample :
    bareRuntime.host .standard naturalFloats "osfacts".toList loadAndDisk
      = ⟨[("osfacts".toList, ["host".toList, "--load".toList, "--disk".toList])],
          .ok (bareHost.platform.host (.ofFacets loadAndDisk)).view⟩ := by
  rcases (host_call_verdict Lexopt.standard_lawful JsonLib.standard_lawful bareRuntime_serves
    plain_natural).2 ⟨.load, rfl⟩ with ⟨-, hcall⟩ | ⟨hrefused, -⟩
  · exact hcall
  · exact absurd bareHost_holdable hrefused

/-! ## Asking for less -/

/-- Whether a row of an answer is about an ask: about the uptime, or about a facet it names. -/
def Client.HostFacets.tells (facets : HostFacets) (facet : Text) : Bool :=
  facet = "uptime".toList ||
    HostFlag.all.any (fun f => (HostArgs.ofFacets facets).asks f && facet = f.name)

/-- The part of an answer that is about an ask. -/
def Client.HostReading.part {F : FloatLib} (facets : HostFacets) (reading : HostReading F) :
    HostReading F :=
  { reading with
    load := if facets.load then reading.load else none
    memory := if facets.mem then reading.memory else none
    swap := if facets.mem then reading.swap else none
    cpus := if facets.cpu then reading.cpus else []
    networks := if facets.net then reading.networks else []
    disks := if facets.disk then reading.disks else []
    errors := reading.errors.filter (fun e => facets.tells e.facet) }

/-- The facet of a row is read back from its name. -/
theorem tells_asStr (facets : HostFacets) (facet : Facet) :
    facets.tells facet.asStr = (HostArgs.ofFacets facets).tells facet := by
  have hname : ∀ f : HostFlag, f.name = f.facet.asStr := by
    intro f
    cases f <;> rfl
  have huptime : "uptime".toList = Facet.uptime.asStr := rfl
  simp only [HostFacets.tells, huptime, hname, asStr_injective.eq_iff]
  cases facet <;> simp [HostArgs.tells, HostFlag.all, HostFlag.facet, HostArgs.asks]

section Part

variable {F : FloatLib} {s : HostSnapshot F}

theorem HostSnapshot.view_restrict (facets : HostFacets) :
    (s.restrict (.ofFacets facets)).view = s.view.part facets := by
  have herrors : ∀ rows : List SourceError,
      (rows.filter (fun e => (HostArgs.ofFacets facets).tells e.facet)).map SourceError.view
        = (rows.map SourceError.view).filter (fun e => facets.tells e.facet) := by
    intro rows
    rw [List.filter_map]
    refine congrArg (List.map SourceError.view) (List.filter_congr fun e _ => ?_)
    exact (tells_asStr facets e.facet).symm
  have hoption : ∀ {α β : Type} (f : α → β) (asked : Bool) (o : Option α),
      (if asked then o else none).map f = if asked then o.map f else none := by
    intro α β f asked o
    cases asked <;> rfl
  have hlist : ∀ {α β : Type} (f : α → β) (asked : Bool) (l : List α),
      (if asked then l else []).map f = if asked then l.map f else [] := by
    intro α β f asked l
    cases asked <;> rfl
  simp only [HostSnapshot.view, HostSnapshot.restrict, HostReading.part, herrors, hoption, hlist]
  rfl

theorem HostSnapshot.Holdable.restrict (h : s.Holdable) (args : HostArgs) :
    (s.restrict args).Holdable := by
  have hsome : ∀ {α : Type} {asked : Bool} {o : Option α} {a : α},
      (if asked then o else none) = some a → o = some a := by
    intro α asked o a hite
    cases asked
    · cases hite
    · exact hite
  have hmem : ∀ {α : Type} {asked : Bool} {l : List α} {a : α},
      (a ∈ if asked then l else []) → a ∈ l := by
    intro α asked l a hite
    cases asked
    · cases hite
    · exact hite
  obtain ⟨hmemory, hswap, huptime, hcpus, hnetworks, hdisks⟩ :=
    HostSnapshot.forall_mem_counts.mp h.counts
  refine ⟨HostSnapshot.forall_mem_counts.mpr ⟨fun v hv => hmemory v (hsome hv),
    fun v hv => hswap v (hsome hv), huptime, fun v hv => hcpus v (hmem hv),
    fun v hv => hnetworks v (hmem hv), fun v hv => hdisks v (hmem hv)⟩,
    fun v hv => h.load v (hsome hv)⟩

end Part

section Less

variable {L : Lexopt} {ready finished : L.Parser → List Bytes → Prop} {pending : L.Parser → Prop}
variable {J : JsonLib} {F : FloatLib} {W : JsonWriters F} {rt : Runtime} {bin : Text}

/-- **Asking for less loses nothing.** Where a host call is answered, a call for fewer facets, but
for some, whose child runs to its exit is answered too, and its answer is the part of the larger
answer that it is about: the same rows, and the same blind sources. -/
theorem host_call_part (hL : L.Lawful ready finished pending) (hJ : J.Lawful)
    {system : System F} {facets facets' : HostFacets}
    (h : rt.Serves bin L J W system.platform (hostArgs facets))
    (h' : rt.Serves bin L J W system.platform (hostArgs facets'))
    (hdisplay : ∀ x, Plain (F.display x))
    (hwithin : (HostArgs.ofFacets facets).Within (.ofFacets facets'))
    (hasked : ∃ f, (HostArgs.ofFacets facets).asks f = true) {reading : HostReading F}
    (hanswer : (rt.host J F bin facets').answer = .ok reading) :
    rt.host J F bin facets = ⟨[(bin, hostArgs facets)], .ok (reading.part facets)⟩ := by
  obtain ⟨f, hf⟩ := hasked
  have hframed := fun args => system.host_framed hdisplay args
  rw [host_of_asked hL h' (hwithin f hf)] at hanswer
  rw [host_of_asked hL h hf, system.host_restrict hwithin]
  -- the larger document was held, so its part is
  rcases host_verdict_of_framed hJ (hframed (.ofFacets facets'))
    with ⟨hhold, hparse⟩ | ⟨-, message, hparse⟩
  · obtain rfl := Except.ok.inj (hparse.symm.trans hanswer)
    have hpart : ((system.platform.host (.ofFacets facets')).restrict (.ofFacets facets)).Framed :=
      system.host_restrict hwithin ▸ hframed (.ofFacets facets)
    rw [parseHostOutput_writeTsv hJ ((hhold.restrict _).wire hpart), HostSnapshot.view_restrict]
  · rw [hparse] at hanswer
    cases hanswer

end Less

/-- The root file system alone. -/
def diskAlone : HostFacets := ⟨false, false, false, false, true⟩

theorem host_call_part_sample :
    bareRuntime.host .standard naturalFloats "osfacts".toList diskAlone
      = ⟨[("osfacts".toList, ["host".toList, "--disk".toList])],
          .ok ((bareHost.platform.host (.ofFacets loadAndDisk)).view.part diskAlone)⟩ := by
  have hwithin : (HostArgs.ofFacets diskAlone).Within (.ofFacets loadAndDisk) := by
    intro f
    cases f <;> decide
  have hanswer : (bareRuntime.host .standard naturalFloats "osfacts".toList loadAndDisk).answer
      = .ok (bareHost.platform.host (.ofFacets loadAndDisk)).view := by
    rw [host_of_asked Lexopt.standard_lawful bareRuntime_serves
      (show (HostArgs.ofFacets loadAndDisk).asks .load = true from rfl)]
    exact parseHostOutput_writeTsv JsonLib.standard_lawful
      (bareHost_holdable.wire (bareHost.host_framed plain_natural _))
  have hserves : bareRuntime.Serves "osfacts".toList .standard .standard
      (noWriters naturalFloats) bareHost.platform (hostArgs diskAlone) :=
    runtime_of_serves (by decide) _ _ _ _ (by decide)
  exact host_call_part Lexopt.standard_lawful JsonLib.standard_lawful hserves bareRuntime_serves
    plain_natural hwithin ⟨.disk, rfl⟩ hanswer

end Osfacts
