import Osfacts.Contract.LinuxSurvey
import Osfacts.Contract.PidSets
import Osfacts.Linux.SocketHolders

set_option autoImplicit false

/-! # The order of a directory, on Linux

A directory lists its entries in an order of its own, and two listings of the same directory may
differ in it. No reader passes that order on, except that a walk below a list of roots may find the
pids in another order, and then a socket that two of them hold may go to the other one.
-/

namespace Osfacts.Linux

open Os

/-! ## Two listings of the same directories -/

/-- The two listings fail alike, or have the same entries, all of which were read. -/
def Reordered (r r' : Except Errno (List (Except Errno Bytes))) : Prop :=
  (∃ err, r = .error err ∧ r' = .error err) ∨
    ∃ names names' : List Bytes, r = .ok (names.map .ok) ∧ r' = .ok (names'.map .ok) ∧
      names.Perm names'

/-- The two states of the system differ in the order of directory entries alone. -/
structure SameButOrder (os os' : Os) : Prop where
  readFile : os.readFile = os'.readFile
  readLink : os.readLink = os'.readLink
  pathExists : os.pathExists = os'.pathExists
  pagesize : os.pagesize = os'.pagesize
  clkTck : os.clkTck = os'.clkTck
  readDir : ∀ path, Reordered (os.readDir path) (os'.readDir path)

/-! ## The readers of directories -/

/-- A loop that appends what each entry gives. -/
theorem foldlM_append {ε α β : Type} {step : List β → Except ε α → Except ε (List β)}
    {g : α → List β} (hstep : ∀ out a, step out (.ok a) = .ok (out ++ g a)) (l : List α)
    (out : List β) : (l.map .ok).foldlM step out = .ok (out ++ l.flatMap g) := by
  induction l generalizing out with
  | nil =>
      rw [List.flatMap_nil, List.append_nil]
      rfl
  | cons a l ih =>
      rw [List.map_cons, List.foldlM_cons, hstep, ok_bind, ih, List.flatMap_cons, List.append_assoc]

theorem readDirNames_eq {os : Os} {path : Text} {names : List Bytes}
    (h : os.readDir path = .ok (names.map .ok)) :
    os.readDirNames path = .ok (names.map fromUtf8Lossy) := by
  rw [readDirNames, h, ok_bind, mapM_id_ok]
  rfl

/-- The children that one task lists. A task that has ended has none. -/
def childrenOfTask (os : Os) (pid : Pid) (name : Bytes) : List Pid :=
  match os.readString (childrenPath pid (fromUtf8Lossy name)) with
  | .ok body => (splitWhitespace body).filterMap parseU32
  | .error _ => []

theorem childrenOf_eq {os : Os} {pid : Pid} {names : List Bytes}
    (h : os.readDir (procPath pid "task") = .ok (names.map .ok)) :
    childrenOf os pid = .ok (names.flatMap (childrenOfTask os pid)) := by
  unfold childrenOf
  rw [h]
  refine foldlM_append (fun out name => ?_) names []
  rw [ok_bind, childrenOfTask]
  cases os.readString (childrenPath pid (fromUtf8Lossy name)) with
  | ok body => rfl
  | error err =>
      rw [List.append_nil]
      rfl

/-- A loop that adds to a set what each element gives. -/
theorem mem_foldl_of_step {α β : Type} (p : α → β → Prop) {step : List β → α → List β}
    (hstep : ∀ out a b, b ∈ step out a ↔ b ∈ out ∨ p a b) {l : List α} {out : List β} {b : β} :
    b ∈ l.foldl step out ↔ b ∈ out ∨ ∃ a ∈ l, p a b := by
  induction l generalizing out with
  | nil => simp
  | cons a l ih =>
      rw [List.foldl_cons, ih, hstep, or_assoc]
      simp

/-- The inodes of the descriptors that are sockets. -/
theorem socketInodes_ok {os : Os} {pid : Pid} {names : List Text}
    (h : os.readDirNames (procPath pid "fd") = .ok names) :
    ∃ inodes, socketInodes os pid = .ok inodes ∧ ∀ inode, inode ∈ inodes ↔
      ∃ name ∈ names, ∃ target, os.readLink (fdPath pid name) = .ok target ∧
        socketInode target = some inode := by
  unfold socketInodes
  rw [h, ok_bind]
  refine ⟨_, rfl, fun inode => (mem_foldl_of_step (fun name inode => ∃ target,
    os.readLink (fdPath pid name) = .ok target ∧ socketInode target = some inode)
    (fun out name inode => ?_)).trans (by rw [List.mem_nil_iff, false_or])⟩
  cases os.readLink (fdPath pid name) with
  | error err => simp
  | ok target =>
      cases hinode : socketInode target with
      | none => simp [hinode]
      | some i => simp [hinode, mem_pushNew, eq_comm]

section Readers

variable {os os' : Os} (h : SameButOrder os os')

include h

theorem SameButOrder.hostPids_eq : hostPids os = hostPids os' := by
  unfold hostPids
  rcases h.readDir "/proc".toList with ⟨err, hr, hr'⟩ | ⟨names, names', hr, hr', hperm⟩
  · rw [hr, hr']
  · rw [hr, hr']
    simp only [ok_bind, mapM_id_ok]
    exact congrArg _ (sortByKey_eq_of_injective (fun _ _ => UInt32.toNat_inj.mp)
      (hperm.filterMap pidOfName))

/-- The children of a process are the same, and listing them does not fail. -/
theorem SameButOrder.childrenOf_perm (pid : Pid) :
    ∃ cs cs', childrenOf os pid = .ok cs ∧ childrenOf os' pid = .ok cs' ∧ cs.Perm cs' := by
  rcases h.readDir (procPath pid "task") with ⟨err, hr, hr'⟩ | ⟨names, names', hr, hr', hperm⟩
  · refine ⟨[], [], ?_, ?_, .nil⟩
    · rw [childrenOf, hr]
    · rw [childrenOf, hr']
  · refine ⟨_, _, childrenOf_eq hr, childrenOf_eq hr', ?_⟩
    have htask : childrenOfTask os' pid = childrenOfTask os pid := by
      funext name
      rw [childrenOfTask, childrenOfTask, Os.readString, Os.readString, h.readFile]
    rw [htask]
    exact hperm.flatMap_right _

/-- The walk over the descriptors fails alike, or finds the same sockets. -/
theorem SameButOrder.socketInodes_iff (pid : Pid) :
    (∃ err, socketInodes os pid = .error err ∧ socketInodes os' pid = .error err) ∨
      ∃ inodes inodes', socketInodes os pid = .ok inodes ∧ socketInodes os' pid = .ok inodes' ∧
        ∀ inode, inode ∈ inodes ↔ inode ∈ inodes' := by
  rcases h.readDir (procPath pid "fd") with ⟨err, hr, hr'⟩ | ⟨names, names', hr, hr', hperm⟩
  · unfold socketInodes readDirNames
    rw [hr, hr']
    exact Or.inl ⟨err, rfl, rfl⟩
  · obtain ⟨inodes, hok, hmem⟩ := socketInodes_ok (readDirNames_eq hr)
    obtain ⟨inodes', hok', hmem'⟩ := socketInodes_ok (readDirNames_eq hr')
    refine Or.inr ⟨inodes, inodes', hok, hok', fun inode => ?_⟩
    rw [hmem, hmem', h.readLink]
    simp only [(hperm.map fromUtf8Lossy).mem_iff]

end Readers

/-! ## The walk below the roots -/

/-- Two graphs with the same nodes and edges, in which children can be listed. -/
structure SameGraph (g g' : ProcGraph) : Prop where
  pathExists : g.pathExists = g'.pathExists
  children : ∀ pid, ∃ cs cs', g.childrenOf pid = .ok cs ∧ g'.childrenOf pid = .ok cs' ∧
    ∀ x, x ∈ cs ↔ x ∈ cs'

section Graph

variable {g g' : ProcGraph} (h : SameGraph g g')

include h

theorem SameGraph.lists_iff (a x : Pid) : g.Lists a x ↔ g'.Lists a x := by
  obtain ⟨cs, cs', hcs, hcs', hmem⟩ := h.children a
  rw [ProcGraph.Lists, ProcGraph.Lists, Walk.lists_iff hcs, Walk.lists_iff hcs', hmem]

theorem SameGraph.symm : SameGraph g' g where
  pathExists := h.pathExists.symm
  children pid := by
    obtain ⟨cs, cs', hcs, hcs', hmem⟩ := h.children pid
    exact ⟨cs', cs, hcs', hcs, fun x => (hmem x).symm⟩

theorem SameGraph.total (pid : Pid) : ∃ cs, g.childrenOf pid = .ok cs := by
  obtain ⟨cs, -, hcs, -⟩ := h.children pid
  exact ⟨cs, hcs⟩

theorem SameGraph.mem_seen_walkFrom {c : Collected} {r x : Pid} (hr : r ∉ c.seen)
    (hout : ∀ a ∈ c.out, a ∈ c.seen) :
    x ∈ (walkFrom g c r).2.seen ↔ x ∈ c.seen ∨
      Relation.ReflTransGen (fun a b => g.Lists a b ∧ b ∉ c.seen) r x :=
  Walk.mem_seen_walk_of_total h.total hr hout

/-- One root: the same pids are seen and found, and nothing is blamed but a root that is not
there. -/
theorem SameGraph.collectRoot {c c' : Collected} (r : Pid) (hseen : c.seen = c'.seen)
    (hout : ∀ x, x ∈ c.out ↔ x ∈ c'.out) (hblame : c.unreadable = c'.unreadable)
    (hkept : ∀ a ∈ c.out, a ∈ c.seen) :
    (Linux.collectRoot g c r).seen = (Linux.collectRoot g' c' r).seen ∧
    (∀ x, x ∈ (Linux.collectRoot g c r).out ↔ x ∈ (Linux.collectRoot g' c' r).out) ∧
    (Linux.collectRoot g c r).unreadable = (Linux.collectRoot g' c' r).unreadable := by
  by_cases hr : r ∈ c.seen
  · rw [collectRoot_seen hr, collectRoot_seen (hseen ▸ hr)]
    exact ⟨hseen, hout, hblame⟩
  · have hr' : r ∉ c'.seen := hseen ▸ hr
    cases hexists : g.pathExists r with
    | false =>
        have hexists' : g'.pathExists r = false := by rw [← h.pathExists, hexists]
        rw [collectRoot_missing hr hexists, collectRoot_missing hr' hexists', hseen, hblame]
        exact ⟨rfl, hout, rfl⟩
    | true =>
        have hexists' : g'.pathExists r = true := by rw [← h.pathExists, hexists]
        have hkept' : ∀ a ∈ c'.out, a ∈ c'.seen := by
          intro a ha
          rw [← hseen]
          exact hkept a ((hout a).mpr ha)
        have hwalk : ∀ x, x ∈ (walkFrom g c r).2.seen ↔ x ∈ (walkFrom g' c' r).2.seen := by
          intro x
          rw [h.mem_seen_walkFrom hr hkept, h.symm.mem_seen_walkFrom hr' hkept', hseen]
          simp only [h.lists_iff]
        -- neither walk fails, so neither leaves a queue that the order could show in
        have hok : (walkFrom g c r).1 = .ok () := Walk.walk_ok_of_total h.total _
        have hok' : (walkFrom g' c' r).1 = .ok () := Walk.walk_ok_of_total h.symm.total _
        rw [collectRoot_walk hr hexists, collectRoot_walk hr' hexists', hok, hok', hblame]
        refine ⟨Finset.ext hwalk, fun x => ?_, rfl⟩
        rw [mem_out_walkFrom, mem_out_walkFrom, hout, hseen, hwalk]

/-- **The order of the children is not seen**, but in the order of what is found. -/
theorem SameGraph.collectRoots (roots : List Pid) :
    (Linux.collectRoots g roots []).seen = (Linux.collectRoots g' roots []).seen ∧
    (Linux.collectRoots g roots []).out.Perm (Linux.collectRoots g' roots []).out ∧
    (Linux.collectRoots g roots []).unreadable = (Linux.collectRoots g' roots []).unreadable := by
  have hboth : (Linux.collectRoots g roots []).seen = (Linux.collectRoots g' roots []).seen ∧
      (∀ x, x ∈ (Linux.collectRoots g roots []).out ↔
        x ∈ (Linux.collectRoots g' roots []).out) ∧
      (Linux.collectRoots g roots []).unreadable
        = (Linux.collectRoots g' roots []).unreadable := by
    induction roots using List.reverseRecOn with
    | nil => exact ⟨rfl, fun _ => Iff.rfl, rfl⟩
    | append_singleton roots r ih =>
        rw [collectRoots_concat, collectRoots_concat]
        refine h.collectRoot r ih.1 ih.2.1 ih.2.2 ?_
        exact (finds_collectRoots (p := fun _ => True) (fun _ _ _ _ => trivial)
          (fun _ _ _ => trivial)).seen
  exact ⟨hboth.1, (List.perm_ext_iff_of_nodup (nodup_collectRoots roots)
    (nodup_collectRoots roots)).mpr hboth.2.1, hboth.2.2⟩

end Graph

/-! ## The snapshot -/

section Snapshot

variable {os os' : Os} (h : SameButOrder os os')

include h

theorem SameButOrder.graph : SameGraph (graphOf os) (graphOf os') where
  pathExists := by
    funext pid
    show os.pathExists _ = os'.pathExists _
    rw [h.pathExists]
  children pid := by
    obtain ⟨cs, cs', hcs, hcs', hperm⟩ := h.childrenOf_perm pid
    exact ⟨cs, cs', hcs, hcs', fun x => hperm.mem_iff⟩

/-- What does not look at a directory is the same. -/
theorem SameButOrder.files (args : SnapshotArgs) :
    reading os args (constants os args) = reading os' args (constants os' args) ∧
      constantErrors os args = constantErrors os' args ∧
      loadListeners os = loadListeners os' := by
  obtain ⟨hfile, hlink, hexists, hpage, htck, -⟩ := h
  cases os
  cases os'
  simp only at hfile hlink hexists hpage htck
  subst hfile hlink hexists hpage htck
  refine ⟨?_, rfl, rfl⟩
  funext pid f
  cases f <;> rfl

theorem SameButOrder.walkErrno_eq (args : SnapshotArgs) (pid : Pid) :
    walkErrno os args pid = walkErrno os' args pid := by
  have herror : ∀ err, socketInodes os pid = .error err ↔ socketInodes os' pid = .error err := by
    intro err
    rcases h.socketInodes_iff pid with ⟨err', hr, hr'⟩ | ⟨inodes, inodes', hr, hr', -⟩
    · rw [hr, hr']
    · rw [hr, hr']
      exact iff_of_false (by simp) (by simp)
  refine Option.ext fun err => ?_
  rw [walkErrno_eq_some, walkErrno_eq_some, (h.files args).2.2, herror]

theorem SameButOrder.mem_heldInodes (pid : Pid) (inode : UInt64) :
    inode ∈ heldInodes os pid ↔ inode ∈ heldInodes os' pid := by
  unfold heldInodes
  rcases h.socketInodes_iff pid with ⟨err, hr, hr'⟩ | ⟨inodes, inodes', hr, hr', hmem⟩
  · rw [hr, hr']
  · rw [hr, hr']
    exact hmem inode

theorem SameButOrder.portRows_eq (args : SnapshotArgs) (pids : List Pid) :
    portRows os args pids = portRows os' args pids := by
  have hholder : holder os pids = holder os' pids := by
    funext inode
    simp only [holder, h.mem_heldInodes]
  unfold portRows
  rw [(h.files args).2.2]
  cases args.ports with
  | false => rfl
  | true =>
      cases loadListeners os' with
      | error e => rfl
      | ok listeners =>
          apply List.map_congr_left
          intro listener _
          rw [portOfListener, portOfListener, lookup_claimsOf, lookup_claimsOf, hholder]

/-- The selection: the listing fails alike, or the same pids come, in the same order unless roots
were asked. -/
theorem SameButOrder.selected (args : SnapshotArgs) :
    ((∃ err, Linux.selected os args = .error err ∧ Linux.selected os' args = .error err) ∨
      ∃ P P', Linux.selected os args = .ok P ∧ Linux.selected os' args = .ok P' ∧ P.Perm P' ∧
        ((∀ roots, args.scope ≠ .roots roots) → P = P')) ∧
    collectionRows os args = collectionRows os' args := by
  unfold Linux.selected collectionRows
  cases hscope : args.scope with
  | host =>
      refine ⟨?_, rfl⟩
      show (∃ err, hostPids os = _ ∧ hostPids os' = _) ∨
        ∃ P P', hostPids os = _ ∧ hostPids os' = _ ∧ _
      rw [h.hostPids_eq]
      cases hostPids os' with
      | error err => exact Or.inl ⟨err, rfl, rfl⟩
      | ok pids => exact Or.inr ⟨pids, pids, rfl, rfl, .refl _, fun _ => rfl⟩
  | pids list => exact ⟨Or.inr ⟨list, list, rfl, rfl, .refl _, fun _ => rfl⟩, rfl⟩
  | roots roots =>
      obtain ⟨-, hperm, hblame⟩ := h.graph.collectRoots roots
      exact ⟨Or.inr ⟨_, _, rfl, rfl, hperm, fun hno => absurd rfl (hno roots)⟩, hblame⟩

/-- A root is blamed where it does not exist, and then it is not selected. -/
theorem SameButOrder.apart {args : SnapshotArgs} {P : List Pid}
    (hsel : Linux.selected os args = .ok P) : (survey os args P).Apart := by
  refine survey_apart hsel fun u hu hpid => ?_
  cases hscope : args.scope with
  | host =>
      rw [collectionRows, hscope] at hu
      cases hu
  | pids list =>
      rw [collectionRows, hscope] at hu
      cases hu
  | roots roots =>
      rw [collectionRows, hscope] at hu
      rw [Linux.selected, hscope] at hsel
      obtain rfl : (Linux.collectRoots (graphOf os) roots []).out = P := Except.ok.inj hsel
      rcases mem_unreadable_collectRoots.mp hu with ⟨r, hmissing, rfl⟩ | ⟨r, err, hfailed, rfl⟩
      · exact mem_seen_iff_out.2 hmissing hpid
      · -- no walk fails where children can be listed
        obtain ⟨c, -, -, hwalk⟩ := hfailed
        have hok : (walkFrom (graphOf os) c r).1 = .ok () := Walk.walk_ok_of_total h.graph.total _
        rw [hok] at hwalk
        cases hwalk

theorem SameButOrder.socketHolders_eq (ask : SocketHoldersArgs) :
    socketHolders os ask = socketHolders os' ask := by
  have hbytes : os.readBytes = os'.readBytes := h.readFile
  have hstring : os.readString = os'.readString := by
    funext path
    rw [Os.readString, Os.readString, h.readFile]
  have hname : nameHolder os = nameHolder os' := by
    funext out pid
    rw [nameHolder, nameHolder, hbytes, hstring]
  have hholds : ∀ inodes pid,
      holdsOne inodes (socketInodes os pid) = holdsOne inodes (socketInodes os' pid) := by
    intro inodes pid
    rcases h.socketInodes_iff pid with ⟨err, hr, hr'⟩ | ⟨held, held', hr, hr', hmem⟩
    · rw [hr, hr']
    · rw [hr, hr', holdsOne, holdsOne, Bool.eq_iff_iff, List.any_eq_true, List.any_eq_true]
      simp only [List.contains_iff_mem, hmem]
  have hclaimed : claimed os = claimed os' := by
    funext inodes pids
    simp only [claimed_eq, hholds]
  unfold socketHolders
  rw [hbytes, h.hostPids_eq, hclaimed, hname]

end Snapshot

/-- A system with the processes 7 and 9, listed in the order given. -/
def listedOs (pids : List Pid) (hnodup : pids.Nodup) (hzero : 0 ∉ pids) : Os :=
  Os.ofTables [("/proc/7/statm".toList, ascii "300 25 9 0 0 0 0")] [] [] pids hnodup hzero

theorem reordered_of_perm {pids pids' : List Pid} (hperm : pids.Perm pids') {hnodup : pids.Nodup}
    {hzero : 0 ∉ pids} {hnodup' : pids'.Nodup} {hzero' : 0 ∉ pids'} :
    SameButOrder (listedOs pids hnodup hzero) (listedOs pids' hnodup' hzero') where
  readFile := rfl
  readLink := rfl
  pathExists := by
    funext path
    show pids.any _ = pids'.any _
    exact hperm.any_eq
  pagesize := rfl
  clkTck := rfl
  readDir path := by
    by_cases hpath : path = "/proc".toList
    · refine Or.inr ⟨_, _, if_pos hpath, if_pos hpath, hperm.map _⟩
    · exact Or.inl ⟨Libc.ENOENT, if_neg hpath, if_neg hpath⟩

end Osfacts.Linux
