import Osfacts.Contract.PcblistRows

set_option autoImplicit false

/-! # Layout drift in the listener table

A socket's address stands in the record before its state. The loop skips a record that is too
short for its kind and keeps the half-read socket it has: behind a short address record the next
state record completes the socket before it. Where no record is too short, each row is read from
the address record nearest before the state that ended it.
-/

namespace Osfacts.Pcblist

/-! ## What the rows should be -/

/-- Every record is long enough for the fields of its kind. -/
def Sized (frames : List Frame) : Prop :=
  ∀ f ∈ frames, (f.kind = XSO_INPCB → 84 ≤ f.len) ∧ (f.kind = XSO_TCPCB → 40 ≤ f.len)

/-- The last address record of a list. -/
def nearestInpcb (frames : List Frame) : Option Frame :=
  frames.reverse.find? (fun f => f.kind = XSO_INPCB)

/-- A listening state record `ended`, and the address record `inpcb` nearest before it. -/
structure Ends (bytes : Bytes) (frames : List Frame) (inpcb ended : Frame) : Prop where
  nearest : ∃ before after, frames = before ++ ended :: after ∧ nearestInpcb before = some inpcb
  kind : ended.kind = XSO_TCPCB
  listens : readTcpcbState bytes ended.offset = .ok TCP_STATE_LISTEN

/-- The rows, in order, are those of listening state records, each read from the address record
nearest before. -/
def Paired (bytes : Bytes) (frames : List Frame) (rows : List HostListener) : Prop :=
  ∃ pairs : List (Frame × Frame), (pairs.map Prod.snd).Sublist frames ∧
    pairs.map (fun p => readInpcb bytes p.1.offset) = rows.map .ok ∧
    ∀ p ∈ pairs, Ends bytes frames p.1 p.2

/-! ## Its rules -/

section Rules

variable {bytes : Bytes} {frames : List Frame} {f : Frame}

theorem nearestInpcb_append (hkind : f.kind = XSO_INPCB) :
    nearestInpcb (frames ++ [f]) = some f := by
  rw [nearestInpcb, List.reverse_append, List.reverse_singleton, List.singleton_append,
    List.find?_cons_of_pos (by simpa using hkind)]

theorem nearestInpcb_skip (hkind : f.kind ≠ XSO_INPCB) :
    nearestInpcb (frames ++ [f]) = nearestInpcb frames := by
  rw [nearestInpcb, List.reverse_append, List.reverse_singleton, List.singleton_append,
    List.find?_cons_of_neg (by simpa using hkind), nearestInpcb]

theorem Ends.append {inpcb ended : Frame} (h : Ends bytes frames inpcb ended) :
    Ends bytes (frames ++ [f]) inpcb ended := by
  obtain ⟨before, after, rfl, hnearest⟩ := h.nearest
  refine ⟨⟨before, after ++ [f], ?_, hnearest⟩, h.kind, h.listens⟩
  rw [List.append_assoc, List.cons_append]

theorem Paired.append {rows : List HostListener} (h : Paired bytes frames rows) :
    Paired bytes (frames ++ [f]) rows := by
  obtain ⟨pairs, hsub, hrows, hends⟩ := h
  exact ⟨pairs, hsub.trans (List.sublist_append_left _ _), hrows, fun p hp => (hends p hp).append⟩

/-- A listening state record adds the row of the address record nearest before it. -/
theorem Paired.emit {rows : List HostListener} (h : Paired bytes frames rows) {inpcb : Frame}
    {row : HostListener} (hnearest : nearestInpcb frames = some inpcb)
    (hrow : readInpcb bytes inpcb.offset = .ok row) (hkind : f.kind = XSO_TCPCB)
    (hlistens : readTcpcbState bytes f.offset = .ok TCP_STATE_LISTEN) :
    Paired bytes (frames ++ [f]) (rows ++ [row]) := by
  obtain ⟨pairs, hsub, hrows, hends⟩ := h
  refine ⟨pairs ++ [(inpcb, f)], ?_, ?_, ?_⟩
  · rw [List.map_append]
    exact hsub.append (List.Sublist.refl _)
  · rw [List.map_append, List.map_append, hrows, List.map_singleton, List.map_singleton, hrow]
  · refine List.forall_mem_append.mpr ⟨fun p hp => (hends p hp).append, ?_⟩
    exact List.forall_mem_singleton.mpr ⟨⟨frames, [], rfl, hnearest⟩, hkind, hlistens⟩

theorem Sized.of_append (h : Sized (frames ++ [f])) : Sized frames ∧ Sized [f] :=
  List.forall_mem_append.mp h

end Rules

/-! ## The loop keeps them -/

/-- The invariant: the half-read socket is that of the nearest address record, and the rows are
paired. -/
structure Tracks (bytes : Bytes) (frames : List Frame)
    (s : Option HostListener × List HostListener) : Prop where
  pending : ∀ row ∈ s.1, ∃ f, nearestInpcb frames = some f ∧ readInpcb bytes f.offset = .ok row
  paired : Paired bytes frames s.2

theorem Tracks.begin (bytes : Bytes) : Tracks bytes [] (none, []) :=
  ⟨fun _ hrow => absurd hrow (by simp), [], List.Sublist.refl _, rfl, List.forall_mem_nil _⟩

/-- A state record ends the socket it stands behind, if any. -/
theorem Tracks.emit {bytes : Bytes} {frames : List Frame} {f : Frame}
    {s : Option HostListener × List HostListener} (h : Tracks bytes frames s)
    (hkind : f.kind = XSO_TCPCB)
    (hlistens : readTcpcbState bytes f.offset = .ok TCP_STATE_LISTEN) :
    Paired bytes (frames ++ [f]) (emitPending s.1 s.2) := by
  obtain ⟨pending, rows⟩ := s
  cases pending with
  | none => exact h.paired.append
  | some row =>
      obtain ⟨inpcb, hnearest, hrow⟩ := h.pending row rfl
      rw [emitPending]
      split_ifs
      · exact h.paired.emit hnearest hrow hkind hlistens
      · exact h.paired.append

theorem Tracks.step {bytes : Bytes} (hfits : bytes.length < 2 ^ 63) {frames : List Frame}
    {f : Frame} {s : Option HostListener × List HostListener}
    (hinside : f.offset + f.len ≤ bytes.length)
    (hinpcb : f.kind = XSO_INPCB → 84 ≤ f.len) (h : Tracks bytes frames s) :
    Tracks bytes (frames ++ [f]) (effectAt bytes s f) := by
  rcases effectAt_cases (s := s) hfits hinside with
    ⟨hkind, -, row, hrow, -, heffect⟩ | ⟨hkind, -, state, hstate, heffect⟩ | ⟨hnone, -, heffect⟩
  · rw [heffect]
    refine ⟨?_, h.paired.append⟩
    rintro r hr
    obtain rfl := Option.some.inj hr
    exact ⟨f, nearestInpcb_append hkind, hrow⟩
  · rw [heffect]
    refine ⟨fun _ hr => absurd hr (by simp), ?_⟩
    split_ifs with hlisten
    · exact h.emit hkind (hlisten ▸ hstate)
    · exact h.paired.append
  · -- a record the loop skips is no address record, for those are long enough
    have hkind : f.kind ≠ XSO_INPCB := fun hkind => hnone ⟨hkind, hinpcb hkind⟩
    rw [heffect]
    refine ⟨fun row hr => ?_, h.paired.append⟩
    rw [nearestInpcb_skip hkind]
    exact h.pending row hr

theorem tracks_frames {bytes : Bytes} (hfits : bytes.length < 2 ^ 63) (frames : List Frame)
    (hinside : ∀ f ∈ frames, f.offset + f.len ≤ bytes.length) (hsized : Sized frames) :
    Tracks bytes frames (frames.foldl (effectAt bytes) (none, [])) := by
  induction frames using List.reverseRecOn with
  | nil => exact Tracks.begin bytes
  | append_singleton frames f ih =>
      obtain ⟨hbefore, hlast⟩ := hsized.of_append
      rw [List.foldl_append]
      refine Tracks.step hfits (hinside f (by simp)) (hlast f (List.mem_singleton_self f)).1 ?_
      exact ih (fun g hg => hinside g (List.mem_append_left _ hg)) hbefore

/-! ## Drift is loud -/

/-- The table's rule: a buffer with a short record is refused, and the rows of the others are each
read from the address record nearest before the state that ended them. -/
structure Loud (buffer : Buffer) : Prop where
  refused : ¬ Sized (framing buffer.bytes).frames →
    decodeHostListeners buffer = .error (.errno Libc.EINVAL)
  sized : ∀ rows, decodeHostListeners buffer = .ok rows → Sized (framing buffer.bytes).frames
  paired : ∀ rows, decodeHostListeners buffer = .ok rows →
    Paired buffer.bytes (framing buffer.bytes).frames rows

/-- **Drift is loud where the framing fails or no record is too short,** and nowhere else. -/
theorem loud_iff (buffer : Buffer) :
    Loud buffer ↔
      ((framing buffer.bytes).complete = false ∨ Sized (framing buffer.bytes).frames) := by
  have hdecode := decode_eq buffer
  constructor
  · intro hloud
    by_cases hcomplete : (framing buffer.bytes).complete = true
    · rw [if_pos hcomplete] at hdecode
      exact Or.inr (hloud.sized _ hdecode)
    · exact Or.inl (Bool.not_eq_true _ ▸ hcomplete)
  · rintro (hrefused | hsized)
    · rw [hrefused, if_neg Bool.false_ne_true] at hdecode
      have hnone : ∀ rows, decodeHostListeners buffer ≠ .ok rows := by
        intro rows hrows
        rw [hdecode] at hrows
        cases hrows
      exact ⟨fun _ => hdecode, fun rows h => absurd h (hnone rows),
        fun rows h => absurd h (hnone rows)⟩
    · refine ⟨fun hshort => absurd hsized hshort, fun _ _ => hsized, fun rows hrows => ?_⟩
      rw [hdecode] at hrows
      split_ifs at hrows
      obtain rfl := Except.ok.inj hrows
      exact (tracks_frames buffer.fits _ (fun f hf => (frames_inside f hf).2) hsized).paired

/-! ## Two sockets mixed -/

def loopback : Bytes := List.replicate 12 0 ++ [127, 0, 0, 1]

theorem length_loopback : loopback.length = 16 := rfl

def shortBody : Bytes := (soloSocket 8080 1 loopback length_loopback).inpcb.body.take 72

theorem length_shortBody : shortBody.length = 72 := by decide +kernel

/-- An address record of port 8080 that ends behind its address: four bytes too short. -/
def shortRecord : Record where
  kind := XSO_INPCB
  body := shortBody
  padding := []
  long := by rw [length_shortBody]; decide
  short := by rw [length_shortBody]; decide
  padded := by rw [length_shortBody]; rfl

def driftRecords : List Record := [sshSocket.inpcb.record, shortRecord, sshSocket.tcpcb.record]

theorem length_driftRecords : (encodeAll driftRecords).length = 208 := by decide +kernel

/-- The address half of port 22, whose state record is missing, and behind it a listening socket
with a short address record. -/
def driftTable : Table :=
  { sshTable with
    records := driftRecords
    fits := by
      rw [length_driftRecords]
      show ceil8 (4 + 20) + 208 + 24 < 2 ^ 63
      norm_num [ceil8] }

/-- The state of the second socket emits the first: the row is not that of the address record
nearest before. -/
theorem drift_mixes :
    decodeHostListeners driftTable.buffer = .ok [(22, "7f000001".toList)] ∧
    (framing driftTable.buffer.bytes).frames
      = [⟨24, XSO_INPCB, 84⟩, ⟨112, XSO_INPCB, 80⟩, ⟨192, XSO_TCPCB, 40⟩] ∧
    readInpcb driftTable.buffer.bytes 112 = .ok (8080, "7f000001".toList) ∧
    ¬ Loud driftTable.buffer := by
  have hdecode : decodeHostListeners driftTable.buffer = .ok [(22, "7f000001".toList)] := by
    rw [decode_records]
    decide +kernel
  have hframes : (framing driftTable.buffer.bytes).frames
      = [⟨24, XSO_INPCB, 84⟩, ⟨112, XSO_INPCB, 80⟩, ⟨192, XSO_TCPCB, 40⟩] := by
    rw [framing_buffer]
    decide +kernel
  refine ⟨hdecode, hframes, by decide +kernel, fun hloud => ?_⟩
  have hsized := hloud.sized _ hdecode
  rw [hframes] at hsized
  exact absurd ((hsized ⟨112, XSO_INPCB, 80⟩ (by simp)).1 rfl) (by decide)

end Osfacts.Pcblist
