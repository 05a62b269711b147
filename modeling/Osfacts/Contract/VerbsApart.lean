import Osfacts.Contract.Account
import Osfacts.Contract.DarwinListeners
import Osfacts.Contract.Occupancy
import Osfacts.Contract.Refusals
import Osfacts.Contract.SharedRows
import Osfacts.Darwin.Host
import Osfacts.Linux.Host

set_option autoImplicit false

/-! # One verb's document, another verb's parser

The three parsers share the rows of identity and of blindness, and one facet name. A parser of
another verb refuses a document for a tag it does not know, or for a facet that is not its own;
it accepts what has neither.
-/

namespace Osfacts

open Client Linux

/-! ## What the three readers know -/

/-- The tags a host reader knows. -/
def HOST_TAGS : List Text :=
  ["HLOAD".toList, "HMEM".toList, "HSWAP".toList, "HUP".toList, "HCPU".toList, "HNET".toList,
    "HDISK".toList, ['E']]

theorem hostRow_tag {J : JsonLib} {L : FloatLib} {out out' : HostReading L} {line : Text}
    (h : hostRow J L out line = .ok out') : tagOf line ∈ HOST_TAGS := by
  unfold hostRow at h
  unfold tagOf
  simp only [] at h
  split at h
  case h_9 => cases h
  all_goals
    rename_i htag
    rw [htag]
    decide

section Unknown

variable {line tag : Text}

theorem snapshotRow_unknown {J : JsonLib} (htag : tagOf line = tag)
    (h : tag ∉ SNAPSHOT_ARITY.map Prod.fst) (out : SnapshotReading) :
    snapshotRow J emptySnapshotReading line ≠ .ok out := by
  intro hout
  exact h (htag ▸ List.mem_map_of_mem (snapshotRow_arity hout))

theorem socketHoldersRow_unknown (htag : tagOf line = tag)
    (h : tag ∉ SOCKET_HOLDERS_ARITY.map Prod.fst) (out : SocketHoldersReading) :
    socketHoldersRow emptySocketHoldersReading line ≠ .ok out := by
  intro hout
  exact h (htag ▸ List.mem_map_of_mem (socketHoldersRow_arity hout))

theorem hostRow_unknown {J : JsonLib} {L : FloatLib} (htag : tagOf line = tag) (h : tag ∉ HOST_TAGS)
    (out : HostReading L) : hostRow J L emptyHostReading line ≠ .ok out := by
  intro hout
  exact h (htag ▸ hostRow_tag hout)

end Unknown

theorem asStr_injective : Function.Injective Facet.asStr := by
  intro f g h
  cases f <;> cases g <;> first | rfl | exact absurd h (by decide)

section Errors

variable {e : SourceError} {facets : List Facet}

/-- An `E` row is read where its facet is one of the reader's own. -/
theorem sourceErrorRow_ok_iff {allowed : List Facet} (h : e.Wire facets) (line : Text) :
    (∃ row, sourceErrorRow e.row line (allowed.map Facet.asStr) = .ok row) ↔ e.facet ∈ allowed := by
  constructor
  · rintro ⟨row, hrow⟩
    obtain ⟨hfacet, hmem⟩ := sourceErrorRow_facet hrow
    rw [hfacet] at hmem
    obtain ⟨facet, hallowed, hstr⟩ := List.mem_map.mp hmem
    rwa [asStr_injective hstr] at hallowed
  · intro hmem
    have hwire : e.Wire allowed :=
      ⟨hmem, h.source_ne_nil, h.source_plain, h.code_ne_nil, h.code_plain⟩
    exact ⟨_, sourceErrorRow_row rfl hwire line⟩

theorem snapshotRow_error_iff {J : JsonLib} (h : e.Wire facets) :
    (∃ out, snapshotRow J emptySnapshotReading (tsvLine e.row) = .ok out) ↔
      e.facet ∈ Facet.SNAPSHOT_SOURCE := by
  rw [← sourceErrorRow_ok_iff h (tsvLine e.row), snapshotRow,
    splitOn_tsvLine (SourceError.rowOk h)]
  exact exists_bind_ok fun row => ⟨_, rfl⟩

theorem socketHoldersRow_error_iff (h : e.Wire facets) :
    (∃ out, socketHoldersRow emptySocketHoldersReading (tsvLine e.row) = .ok out) ↔
      e.facet ∈ Facet.SOCKET_HOLDERS_SOURCE := by
  rw [← sourceErrorRow_ok_iff h (tsvLine e.row), socketHoldersRow,
    splitOn_tsvLine (SourceError.rowOk h)]
  exact exists_bind_ok fun row => ⟨_, rfl⟩

theorem hostRow_error_iff {J : JsonLib} {L : FloatLib} (h : e.Wire facets) :
    (∃ out, hostRow J L emptyHostReading (tsvLine e.row) = .ok out) ↔
      e.facet ∈ Facet.HOST_SOURCE := by
  rw [← sourceErrorRow_ok_iff h (tsvLine e.row), hostRow, splitOn_tsvLine (SourceError.rowOk h)]
  exact exists_bind_ok fun row => ⟨_, rfl⟩

end Errors

/-! ## Documents of another verb -/

/-- What a reader of rows knows: the tags of the rows, and the facets of the errors. -/
structure Knows {R : Type} (reader : R → Text → Except OsfactsClientError R) (empty : R)
    (tags : List Text) (allowed : List Facet) : Prop where
  uniform : ∀ line, Uniform (fun out => reader out line)
  parseOnly : ∀ out line, ParseOnly (reader out line)
  unknown : ∀ {line tag : Text}, tagOf line = tag → tag ∉ tags → ∀ out, reader empty line ≠ .ok out
  error_iff : ∀ {e : SourceError} {facets : List Facet}, e.Wire facets →
    ((∃ out, reader empty (tsvLine e.row) = .ok out) ↔ e.facet ∈ allowed)

theorem snapshotRow_knows (J : JsonLib) : Knows (snapshotRow J) emptySnapshotReading
    (SNAPSHOT_ARITY.map Prod.fst) Facet.SNAPSHOT_SOURCE :=
  ⟨snapshotRow_uniform J, snapshotRow_parseOnly, snapshotRow_unknown, snapshotRow_error_iff⟩

theorem socketHoldersRow_knows : Knows socketHoldersRow emptySocketHoldersReading
    (SOCKET_HOLDERS_ARITY.map Prod.fst) Facet.SOCKET_HOLDERS_SOURCE :=
  ⟨socketHoldersRow_uniform, socketHoldersRow_parseOnly, socketHoldersRow_unknown,
    socketHoldersRow_error_iff⟩

theorem hostRow_knows (J : JsonLib) (L : FloatLib) :
    Knows (hostRow J L) emptyHostReading HOST_TAGS Facet.HOST_SOURCE :=
  ⟨hostRow_uniform J L, hostRow_parseOnly, hostRow_unknown, hostRow_error_iff⟩

/-- A row with this tag, or an error about one of these facets. -/
def OwnRow (tag : Text) (facets : List Facet) (rows : List (List Text)) : Prop :=
  (∃ column columns, tag :: column :: columns ∈ rows) ∨
  ∃ e : SourceError, e.row ∈ rows ∧ e.Wire facets

namespace Knows

variable {R : Type} {reader : R → Text → Except OsfactsClientError R} {empty : R}
  {tags : List Text} {allowed facets : List Facet} {rows : List (List Text)}

theorem tag_refused (h : Knows reader empty tags allowed) {tag column : Text} {columns : List Text}
    (hrow : tag :: column :: columns ∈ rows) (hplain : Plain tag) (htag : tag ∉ tags) :
    ParseRefused (parseRows reader empty (documentOf rows)) :=
  refused_of_tag h.uniform h.parseOnly hrow hplain (fun _ heq => h.unknown heq htag)

theorem error_refused (h : Knows reader empty tags allowed) {e : SourceError}
    (hrow : e.row ∈ rows) (hwire : e.Wire facets) (hfacet : e.facet ∉ allowed) :
    ParseRefused (parseRows reader empty (documentOf rows)) :=
  refused_of_row h.uniform h.parseOnly hrow (SourceError.rowOk hwire)
    (fun out hout => hfacet ((h.error_iff hwire).mp ⟨out, hout⟩))

/-- A reader that knows neither the tag nor the facets refuses the document. -/
theorem own_refused (h : Knows reader empty tags allowed) {tag : Text}
    (hown : OwnRow tag facets rows) (hplain : Plain tag) (htag : tag ∉ tags)
    (hapart : ∀ f ∈ facets, f ∉ allowed) :
    ParseRefused (parseRows reader empty (documentOf rows)) := by
  rcases hown with ⟨column, columns, hrow⟩ | ⟨e, hrow, hwire⟩
  · exact h.tag_refused hrow hplain htag
  · exact h.error_refused hrow hwire (hapart _ hwire.facet_mem)

/-- A document is refused for the rows that are not read. -/
theorem refused_iff (h : Knows reader empty tags allowed) {known : List Text → Prop}
    (hread : ∀ row ∈ rows, known row → RowOk row ∧ ∃ out, reader empty (tsvLine row) = .ok out)
    (hrefuse : ∀ row ∈ rows, ¬ known row →
      ParseRefused (parseRows reader empty (documentOf rows))) :
    ParseRefused (parseRows reader empty (documentOf rows)) ↔ ∃ row ∈ rows, ¬ known row := by
  constructor
  · intro hrefused
    by_contra hnone
    refine not_refused h.uniform (fun row hrow => hread row hrow ?_) hrefused
    by_contra hno
    exact hnone ⟨row, hrow, hno⟩
  · rintro ⟨row, hrow, hno⟩
    exact hrefuse row hrow hno

end Knows

/-! ## Snapshots -/

/-- The tags of the rows that only a snapshot has. -/
def SNAPSHOT_TAGS : List Text :=
  [['M'], ['S'], ['C'], "UID".toList, "CWD".toList, "STAT".toList, "ARGV".toList, ['L']]

/-- A row of a snapshot is one of the three shared kinds, or has a tag of its own. -/
theorem bodyRows_cases {J : JsonLib} {s : Snapshot} {row : List Text} (h : row ∈ s.bodyRows J) :
    (∃ p ∈ s.procs, row = p.row) ∨ (∃ u ∈ s.unreadable, row = u.row) ∨
    (∃ e ∈ s.errors, row = e.row) ∨
    ∃ tag ∈ SNAPSHOT_TAGS, ∃ column columns, row = tag :: column :: columns := by
  simp only [Snapshot.bodyRows, List.mem_append, List.mem_map] at h
  rcases h with (((((((((h | h) | h) | h) | h) | h) | h) | h) | h) | h) | h
  all_goals obtain ⟨x, hx, rfl⟩ := h
  · exact Or.inl ⟨x, hx, rfl⟩
  case inl.inr => exact Or.inr (Or.inl ⟨x, hx, rfl⟩)
  case inr => exact Or.inr (Or.inr (Or.inl ⟨x, hx, rfl⟩))
  case inl.inl.inr =>
    refine Or.inr (Or.inr (Or.inr ⟨['L'], by decide, ?_⟩))
    rw [Port.row]
    cases x.attribution <;> exact ⟨_, _, rfl⟩
  · exact Or.inr (Or.inr (Or.inr ⟨['M'], by decide, _, _, rfl⟩))
  · exact Or.inr (Or.inr (Or.inr ⟨['S'], by decide, _, _, rfl⟩))
  · exact Or.inr (Or.inr (Or.inr ⟨['C'], by decide, _, _, rfl⟩))
  · exact Or.inr (Or.inr (Or.inr ⟨"UID".toList, by decide, _, _, rfl⟩))
  · exact Or.inr (Or.inr (Or.inr ⟨"CWD".toList, by decide, _, _, rfl⟩))
  · exact Or.inr (Or.inr (Or.inr ⟨"STAT".toList, by decide, _, _, rfl⟩))
  · exact Or.inr (Or.inr (Or.inr ⟨"ARGV".toList, by decide, _, _, rfl⟩))

/-- A row that says who a process is, or that it could not be asked. -/
def IdentityRow (row : List Text) : Prop := row.headD [] = ['P'] ∨ row.headD [] = ['U']

/-- A row that blames a source for a memory facet. -/
def MemErrorRow (row : List Text) : Prop :=
  row.headD [] = ['E'] ∧ row.getD 2 [] = Facet.mem.asStr

theorem writeTsv_snapshot {J : JsonLib} {s : Snapshot} (h : s.Shared) :
    writeTsv J s = documentOf (s.bodyRows J) := by
  rw [writeTsv, Snapshot.tsvRows_eq, h.version_eq]
  rfl

/-- A row of a snapshot is read by the parser of holders if it is about identity. -/
theorem snapshot_holders_iff {J : JsonLib} {s : Snapshot} (h : s.Shared) :
    ParseRefused (parseSocketHoldersOutput (writeTsv J s)) ↔
      ∃ row ∈ s.bodyRows J, ¬ IdentityRow row := by
  rw [writeTsv_snapshot h]
  refine socketHoldersRow_knows.refused_iff (fun row hrow hidentity => ?_)
    (fun row hrow hidentity => ?_)
  · rcases bodyRows_cases hrow with ⟨p, hp, rfl⟩ | ⟨u, hu, rfl⟩ | ⟨e, -, rfl⟩ |
      ⟨tag, htag, column, columns, rfl⟩
    · exact ⟨Proc.rowOk (h.procs p hp), _, socketHoldersRow_proc (h.procs p hp) _⟩
    · exact ⟨Unreadable.rowOk (h.unreadable u hu), _,
        socketHoldersRow_unreadable (h.unreadable u hu) _⟩
    · rcases hidentity with hhead | hhead
      · exact absurd hhead (show ¬ ['E'] = ['P'] by decide)
      · exact absurd hhead (show ¬ ['E'] = ['U'] by decide)
    · have hother : ∀ tag ∈ SNAPSHOT_TAGS, ¬ (tag = ['P'] ∨ tag = ['U']) := by decide
      exact absurd hidentity (hother tag htag)
  · rcases bodyRows_cases hrow with ⟨p, -, rfl⟩ | ⟨u, -, rfl⟩ | ⟨e, he, rfl⟩ |
      ⟨tag, htag, column, columns, rfl⟩
    · exact absurd (Or.inl rfl) hidentity
    · exact absurd (Or.inr rfl) hidentity
    · have hwire := h.errors e he
      have hapart : ∀ f ∈ Facet.SNAPSHOT_SOURCE, f ∉ Facet.SOCKET_HOLDERS_SOURCE := by decide
      exact socketHoldersRow_knows.error_refused hrow hwire (hapart _ hwire.facet_mem)
    · have hplain : ∀ tag ∈ SNAPSHOT_TAGS, Plain tag := by decide
      have hunknown : ∀ tag ∈ SNAPSHOT_TAGS, tag ∉ SOCKET_HOLDERS_ARITY.map Prod.fst := by decide
      exact socketHoldersRow_knows.tag_refused hrow (hplain tag htag) (hunknown tag htag)

theorem memErrorRow_iff (e : SourceError) : MemErrorRow e.row ↔ e.facet = .mem := by
  rw [MemErrorRow, and_iff_right (show e.row.headD [] = ['E'] from rfl)]
  exact asStr_injective.eq_iff

/-- Of the rows of a snapshot the parser of a host reads the errors about memory, and no others. -/
theorem snapshot_host_iff {J : JsonLib} {L : FloatLib} {s : Snapshot} (h : s.Shared) :
    ParseRefused (parseHostOutput J L (writeTsv J s)) ↔
      ∃ row ∈ s.bodyRows J, ¬ MemErrorRow row := by
  have hmem : ∀ f ∈ Facet.SNAPSHOT_SOURCE, f ∈ Facet.HOST_SOURCE ↔ f = .mem := by decide
  have hknows := hostRow_knows J L
  rw [writeTsv_snapshot h]
  -- of a snapshot's rows only an `E` row of the memory means anything to a host
  refine hknows.refused_iff (fun row hrow herror => ?_) (fun row hrow herror => ?_)
  · rcases bodyRows_cases hrow with ⟨p, -, rfl⟩ | ⟨u, -, rfl⟩ | ⟨e, he, rfl⟩ |
      ⟨tag, htag, column, columns, rfl⟩
    · exact absurd herror.1 (show ¬ ['P'] = ['E'] by decide)
    · exact absurd herror.1 (show ¬ ['U'] = ['E'] by decide)
    · have hwire := h.errors e he
      refine ⟨SourceError.rowOk hwire, (hknows.error_iff hwire).mpr ?_⟩
      exact (hmem _ hwire.facet_mem).mpr ((memErrorRow_iff e).mp herror)
    · have hother : ∀ tag ∈ SNAPSHOT_TAGS, tag ≠ ['E'] := by decide
      exact absurd herror.1 (hother tag htag)
  · rcases bodyRows_cases hrow with ⟨p, -, rfl⟩ | ⟨u, -, rfl⟩ | ⟨e, he, rfl⟩ |
      ⟨tag, htag, column, columns, rfl⟩
    · exact hknows.tag_refused hrow (by decide) (by decide)
    · exact hknows.tag_refused hrow (by decide) (by decide)
    · have hwire := h.errors e he
      refine hknows.error_refused hrow hwire (fun hfacet => herror ((memErrorRow_iff e).mpr ?_))
      exact (hmem _ hwire.facet_mem).mp hfacet
    · have hplain : ∀ tag ∈ SNAPSHOT_TAGS, Plain tag := by decide
      have hunknown : ∀ tag ∈ SNAPSHOT_TAGS, tag ∉ HOST_TAGS := by decide
      exact hknows.tag_refused hrow (hplain tag htag) (hunknown tag htag)

/-! ## Holders -/

/-- A row of the holders' own: a holder, or an error of their source. -/
structure SocketHolders.Marked (s : SocketHolders) : Prop where
  version_eq : s.version = SCHEMA_VERSION
  own : s.holders ≠ [] ∨ ∃ e ∈ s.errors, e.Wire Facet.SOCKET_HOLDERS_SOURCE

theorem SocketHolders.Marked.take {s : SocketHolders} (h : s.Marked) : (take s).Marked where
  version_eq := h.version_eq
  own := h.own.imp_left (fun hholders hnil =>
    hholders (sortByKey_eq_nil.mp (dedupByKey_eq_nil.mp hnil)))

theorem blindHolders_marked {s : SocketHolders} (hversion : s.version = SCHEMA_VERSION)
    {e : SourceError} (herrors : s.errors = [e]) (he : e.Wire Facet.SOCKET_HOLDERS_SOURCE) :
    s.Marked :=
  ⟨hversion, Or.inr ⟨e, by rw [herrors]; exact List.mem_singleton_self e, he⟩⟩

/-- Every document of holders that is not empty has a row of its own. -/
theorem Linux.socketHolders_marked (os : Os) (args : SocketHoldersArgs) :
    socketHolders os args = SocketHolders.new ∨ (socketHolders os args).Marked := by
  rcases socketHolders_cases os args.path args.procs with
    ⟨source, err, hsource, hblind, -⟩ | ⟨hnew, -⟩ | ⟨inodes, pids, -, -, hfound⟩
  · have hdoc : socketHolders os args = holdersBlind source err := hblind
    rw [hdoc]
    refine Or.inr (blindHolders_marked rfl rfl (sourceError_wire (by decide) ?_ ?_))
    · rcases hsource with rfl | rfl <;> decide
    · rcases hsource with rfl | rfl <;> decide
  · exact Or.inl hnew
  · refine Or.inr ⟨hfound.version_eq, Or.inl ?_⟩
    show (socketHolders os ⟨args.path, args.procs, false⟩).holders ≠ []
    rw [hfound.holders_eq, holderRows]
    split_ifs with hnone
    · exact List.cons_ne_nil _ _
    · exact fun hnil => hnone (List.map_eq_nil_iff.mp hnil)

theorem Darwin.socketHolders_marked (os : Darwin.Os) (args : SocketHoldersArgs) :
    (Darwin.socketHolders os args).Marked := by
  unfold Darwin.socketHolders
  cases readProcessTable os with
  | error err =>
      exact blindHolders_marked rfl rfl (sourceError_wire (by decide) (by decide) (by decide))
  | ok table =>
      simp only []
      split
      · exact blindHolders_marked rfl rfl ⟨by decide, by decide, by decide, by decide, by decide⟩
      case isFalse hnone =>
          refine ⟨rfl, Or.inl (fun hnil => hnone ?_)⟩
          rw [List.map_eq_nil_iff.mp hnil]
          rfl

section Marked

variable {J : JsonLib} {L : FloatLib} {s : SocketHolders}

theorem SocketHolders.Marked.writeTsv_eq (hs : s.Marked) :
    writeTsv J s = documentOf s.bodyRows := by
  rw [writeTsv, SocketHolders.tsvRows_eq, hs.version_eq]
  rfl

theorem SocketHolders.Marked.ownRow (hs : s.Marked) :
    OwnRow ['H'] Facet.SOCKET_HOLDERS_SOURCE s.bodyRows := by
  unfold SocketHolders.bodyRows
  rcases hs.own with hholders | ⟨e, he, hwire⟩
  · obtain ⟨holder, hmem⟩ := List.exists_mem_of_ne_nil _ hholders
    left
    simp only [List.mem_append]
    cases holder with
    | claimed pid => exact ⟨_, _, Or.inl (Or.inl (Or.inl (List.mem_map_of_mem hmem)))⟩
    | unclaimed => exact ⟨_, _, Or.inl (Or.inl (Or.inl (List.mem_map_of_mem hmem)))⟩
  · refine Or.inr ⟨e, ?_, hwire⟩
    simp only [List.mem_append]
    exact Or.inr (List.mem_map_of_mem he)

theorem holders_snapshot_refused (hs : s.Marked) :
    ParseRefused (parseSnapshotOutput J (writeTsv J s)) := by
  rw [hs.writeTsv_eq]
  exact (snapshotRow_knows J).own_refused hs.ownRow (by decide) (by decide) (by decide)

theorem holders_host_refused (hs : s.Marked) :
    ParseRefused (parseHostOutput J L (writeTsv J s)) := by
  rw [hs.writeTsv_eq]
  exact (hostRow_knows J L).own_refused hs.ownRow (by decide) (by decide) (by decide)

end Marked

/-! ## Hosts -/

section Host

variable {J : JsonLib} {L : FloatLib} {s : HostSnapshot L}

/-- The uptime is always asked: it is there, or its source is blamed. -/
structure HostSnapshot.Marked (s : HostSnapshot L) : Prop where
  version_eq : s.version = SCHEMA_VERSION
  own : s.uptimeUs ≠ none ∨ ∃ e ∈ s.errors, e.Wire [.uptime]

namespace HostSnapshot.Marked

theorem pushError (h : s.Marked) (e : SourceError) : (s.pushError e).Marked where
  version_eq := h.version_eq
  own := h.own.imp_right (fun ⟨e', he', hwire⟩ => ⟨e', List.mem_append_left _ he', hwire⟩)

theorem uptime [Libc] (source : String) (read : Except Errno UInt64) (hne : source.toList ≠ [])
    (hplain : Plain source.toList) :
    (HostSnapshot.new.record true .uptime HostSnapshot.setUptime (blamed source read) :
      HostSnapshot L).Marked := by
  cases read with
  | ok value => exact ⟨rfl, Or.inl (Option.some_ne_none value)⟩
  | error err =>
      exact ⟨rfl, Or.inr ⟨_, List.mem_singleton_self _, sourceError_wire (by decide) hne hplain⟩⟩

/-- A later facet leaves the uptime and the errors before it. -/
theorem record [Libc] {α : Type} (h : s.Marked) (asked : Bool) (facet : Facet)
    {set : HostSnapshot L → α → HostSnapshot L} (read : Except (String × Errno) α)
    (hset : ∀ value, (set s value).version = s.version ∧ (set s value).uptimeUs = s.uptimeUs ∧
      (set s value).errors = s.errors) : (s.record asked facet set read).Marked := by
  unfold HostSnapshot.record
  cases asked with
  | false => exact h
  | true =>
      cases read with
      | ok value =>
          obtain ⟨hversion, huptime, herrors⟩ := hset value
          exact ⟨hversion.trans h.version_eq, by rw [if_pos rfl, huptime, herrors]; exact h.own⟩
      | error err => exact h.pushError _

theorem linux_networks (h : s.Marked) (asked : Bool) (read : Except Errno (List Network)) :
    (Linux.recordNetworks asked read s).Marked := by
  unfold Linux.recordNetworks
  split_ifs
  · split
    · exact h.pushError _
    · exact ⟨h.version_eq, h.own⟩
    · exact h.pushError _
  · exact h

theorem darwin_networks (h : s.Marked) (asked : Bool) (networks : List Network) :
    (Darwin.recordNetworks asked networks s).Marked := by
  unfold Darwin.recordNetworks
  split_ifs
  · exact ⟨h.version_eq, (h.pushError _).own⟩
  · exact ⟨h.version_eq, h.own⟩
  · exact h

theorem linux (F : Linux.F64Lib L) (os : Linux.HostOs) (args : HostArgs) :
    (Linux.host F os args).Marked := by
  have h := HostSnapshot.Marked.uptime (L := L) "proc_uptime" (Linux.uptimeUs os.toOs)
    (by decide) (by decide)
  unfold Linux.host
  refine HostSnapshot.Marked.record (linux_networks ?_ _ _) _ _ _ fun _ => ⟨rfl, rfl, rfl⟩
  refine HostSnapshot.Marked.record ?_ _ _ _ fun _ => ⟨rfl, rfl, rfl⟩
  refine HostSnapshot.Marked.record ?_ _ _ _ fun _ => ⟨rfl, rfl, rfl⟩
  exact h.record _ _ _ fun _ => ⟨rfl, rfl, rfl⟩

open Darwin in
theorem darwin (os : Darwin.HostOs L) (args : HostArgs) : (Darwin.host os args).Marked := by
  have h := HostSnapshot.Marked.uptime (L := L) "kern_boottime" (Darwin.uptimeUs os)
    (by decide) (by decide)
  unfold Darwin.host
  refine HostSnapshot.Marked.record (darwin_networks ?_ _ _) _ _ _ fun _ => ⟨rfl, rfl, rfl⟩
  refine HostSnapshot.Marked.record ?_ _ _ _ fun _ => ⟨rfl, rfl, rfl⟩
  refine HostSnapshot.Marked.record ?_ _ _ _ fun _ => ⟨rfl, rfl, rfl⟩
  exact h.record _ _ _ fun _ => ⟨rfl, rfl, rfl⟩

theorem writeTsv_eq (hs : s.Marked) : writeTsv J s = documentOf (tsvRows J s).tail := by
  rw [documentOf, ← hs.version_eq]
  rfl

theorem ownRow (hs : s.Marked) : OwnRow "HUP".toList [.uptime] (tsvRows J s).tail := by
  rcases hs.own with huptime | ⟨e, he, hwire⟩
  · obtain ⟨us, hus⟩ := Option.ne_none_iff_exists'.mp huptime
    have hrow : uptimeRow us ∈ (tsvRows J s).tail := by
      simp only [tsvRows, List.cons_append, List.tail_cons, List.mem_append, hus]
      simp
    exact Or.inl ⟨_, _, hrow⟩
  · refine Or.inr ⟨e, ?_, hwire⟩
    simp only [tsvRows, List.cons_append, List.tail_cons, List.mem_append]
    exact Or.inr (List.mem_map_of_mem he)

end HostSnapshot.Marked

theorem host_snapshot_refused (hs : s.Marked) :
    ParseRefused (parseSnapshotOutput J (writeTsv J s)) := by
  rw [hs.writeTsv_eq]
  exact (snapshotRow_knows J).own_refused hs.ownRow (by decide) (by decide) (by decide)

theorem host_holders_refused (hs : s.Marked) :
    ParseRefused (parseSocketHoldersOutput (writeTsv J s)) := by
  rw [hs.writeTsv_eq]
  exact socketHoldersRow_knows.own_refused (hs.ownRow (J := J)) (by decide) (by decide) (by decide)

end Host

/-! ## The verbs apart -/

/-- The documents of the snapshot verb, on either platform. -/
inductive SnapshotDocument : Snapshot → Prop
  | linux (os : Os) (args : SnapshotArgs) : SnapshotDocument (take (Linux.snapshot os args))
  | darwin (os : Darwin.Os) (args : SnapshotArgs) :
      SnapshotDocument (take (Darwin.snapshot os args))

/-- The documents of the verb that looks for holders, on either platform. -/
inductive SocketHoldersDocument : SocketHolders → Prop
  | linux (os : Os) (args : SocketHoldersArgs) :
      SocketHoldersDocument (take (Linux.socketHolders os args))
  | darwin (os : Darwin.Os) (args : SocketHoldersArgs) :
      SocketHoldersDocument (take (Darwin.socketHolders os args))

/-- The documents of the host verb, on either platform. -/
inductive HostDocument {L : FloatLib} : HostSnapshot L → Prop
  | linux (F : Linux.F64Lib L) (os : Linux.HostOs) (args : HostArgs) :
      HostDocument (take (Linux.host F os args))
  | darwin (os : Darwin.HostOs L) (args : HostArgs) : HostDocument (take (Darwin.host os args))

theorem SnapshotDocument.shared {s : Snapshot} (h : SnapshotDocument s) : s.Shared := by
  cases h with
  | linux os args => exact Linux.snapshot_shared os args
  | darwin os args => exact (Darwin.snapshot_shared os args).normalize

theorem SocketHoldersDocument.marked {s : SocketHolders} (h : SocketHoldersDocument s)
    (hne : s.bodyRows ≠ []) : s.Marked := by
  cases h with
  | linux os args =>
      rcases Linux.socketHolders_marked os args with hnew | hmarked
      · rw [hnew] at hne
        exact absurd rfl hne
      · exact hmarked.take
  | darwin os args => exact (Darwin.socketHolders_marked os args).take

theorem HostDocument.marked {L : FloatLib} {s : HostSnapshot L} (h : HostDocument s) :
    s.Marked := by
  cases h with
  | linux F os args => exact HostSnapshot.Marked.linux F os args
  | darwin os args => exact HostSnapshot.Marked.darwin os args

/-- **When the verbs are kept apart.** The documents of holders and of hosts always are. That of a
snapshot is refused by the parser of holders unless all its rows are about identity, and by the
parser of a host unless all of them are errors about memory. -/
theorem verbs_apart_iff (J : JsonLib) (L : FloatLib) :
    (∀ s, SnapshotDocument s →
      (ParseRefused (parseSocketHoldersOutput (writeTsv J s)) ↔
        ∃ row ∈ s.bodyRows J, ¬ IdentityRow row) ∧
      (ParseRefused (parseHostOutput J L (writeTsv J s)) ↔
        ∃ row ∈ s.bodyRows J, ¬ MemErrorRow row)) ∧
    (∀ s : SocketHolders, SocketHoldersDocument s → s.bodyRows ≠ [] →
      ParseRefused (parseSnapshotOutput J (writeTsv J s)) ∧
      ParseRefused (parseHostOutput J L (writeTsv J s))) ∧
    (∀ s : HostSnapshot L, HostDocument s →
      ParseRefused (parseSnapshotOutput J (writeTsv J s)) ∧
      ParseRefused (parseSocketHoldersOutput (writeTsv J s))) := by
  refine ⟨fun s h => ?_, fun s h hne => ?_, fun s h => ?_⟩
  · exact ⟨snapshot_holders_iff h.shared, snapshot_host_iff h.shared⟩
  · exact ⟨holders_snapshot_refused (h.marked hne), holders_host_refused (h.marked hne)⟩
  · exact ⟨host_snapshot_refused h.marked, host_holders_refused h.marked⟩

/-- A host whose process table may not be read. -/
def refusingOs : Darwin.Os := .blind Libc.EPERM

/-- What it answers when it is asked for the memory of a process. -/
def refusedMemory : Snapshot :=
  take (Darwin.snapshot refusingOs { SnapshotArgs.default with scope := .pids [7], mem := true })

/-- What a host says of the identity of a process that is gone. -/
def goneIdentity : Snapshot :=
  take (Linux.snapshot sampleOs { SnapshotArgs.default with scope := .pids [9], procs := true })

theorem verbs_apart_sample :
    (ParseRefused (parseSocketHoldersOutput (writeTsv .standard refusedMemory)) ↔
      ∃ row ∈ refusedMemory.bodyRows .standard, ¬ IdentityRow row) ∧
    ParseRefused (parseSnapshotOutput .standard (writeTsv .standard
      (take (Darwin.socketHolders refusingOs ⟨ascii "/s", false, false⟩)))) := by
  have hapart := verbs_apart_iff .standard naturalFloats
  refine ⟨(hapart.1 refusedMemory (.darwin ..)).1, (hapart.2.1 _ (.darwin ..) ?_).1⟩
  decide +kernel

/-- An error about the memory of a process is read as one about the memory of the host, and a
process that is gone as one that was asked about a socket. -/
theorem verbs_mixed :
    SnapshotDocument refusedMemory ∧ refusedMemory.bodyRows .standard ≠ [] ∧
    (parseHostOutput .standard naturalFloats (writeTsv .standard refusedMemory)).map
      (fun reading => reading.errors)
        = .ok [⟨"kern_proc_all".toList, "mem".toList, "EPERM".toList⟩] ∧
    SnapshotDocument goneIdentity ∧ goneIdentity.bodyRows .standard ≠ [] ∧
    (parseSocketHoldersOutput (writeTsv .standard goneIdentity)).map
      (fun reading => reading.unreadable)
        = .ok [⟨9, "proc".toList, "ENOENT".toList⟩] := by
  refine ⟨.darwin .., ?_, ?_, .linux .., ?_, ?_⟩
  · decide +kernel
  · decide +kernel
  · decide +kernel
  · decide +kernel

end Osfacts
