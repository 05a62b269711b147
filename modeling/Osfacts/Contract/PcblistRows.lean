import Osfacts.Contract.Acceptance
import Osfacts.Contract.PcblistFrames
import Osfacts.Contract.PcblistSockets

set_option autoImplicit false

/-! # The rows of an arbitrary buffer

Every field the loop reads lies inside its frame, and every row costs two frames of its own, of 88
and of 40 bytes. So the walk of any buffer ends without a panic, in rows that can be printed and
that are few.
-/

namespace Osfacts.Pcblist

/-- What the client demands of a listener: a TCP port, and a hexadecimal address of four or of
sixteen bytes. -/
structure Printable (row : HostListener) : Prop where
  port : Client.isTcpPort row.1.toNat = true
  address_length : row.2.length = 8 ∨ row.2.length = 32
  address_hex : Client.isLowerHex row.2 = true

/-- The address of a listener that may have no port. -/
structure PrintableAddress (address : Text) : Prop where
  length_eq : address.length = 8 ∨ address.length = 32
  hex : Client.isLowerHex address = true

/-! ## What a frame does -/

section Effect

variable {bytes : Bytes} {f : Frame} {s : Option HostListener × List HostListener}

theorem printableAddress_hexBytes {field : Bytes} (h : field.length = 4 ∨ field.length = 16) :
    PrintableAddress (hexBytes field) := by
  have hne : field ≠ [] := by
    rintro rfl
    rcases h with h | h <;> cases h
  refine ⟨?_, isLowerHex_hexBytes hne⟩
  rw [hexBytes_length]
  omega

/-- What a frame can do: begin a socket, end one, or nothing. -/
theorem effectAt_cases (hfits : bytes.length < 2 ^ 63)
    (hinside : f.offset + f.len ≤ bytes.length) :
    (f.kind = XSO_INPCB ∧ 84 ≤ f.len ∧ ∃ row, readInpcb bytes f.offset = .ok row ∧
      PrintableAddress row.2 ∧ effectAt bytes s f = (some row, s.2)) ∨
    (f.kind = XSO_TCPCB ∧ 40 ≤ f.len ∧ ∃ state, readTcpcbState bytes f.offset = .ok state ∧
      effectAt bytes s f = (none, if state = TCP_STATE_LISTEN then emitPending s.1 s.2 else s.2)) ∨
    (¬(f.kind = XSO_INPCB ∧ 84 ≤ f.len) ∧ ¬(f.kind = XSO_TCPCB ∧ 40 ≤ f.len) ∧
      effectAt bytes s f = s) := by
  unfold effectAt readRecord
  by_cases hin : f.kind = XSO_INPCB ∧ f.len ≥ 84
  · obtain ⟨port, field, hrow, hfield⟩ := exists_readInpcb bytes f.offset (by omega) hfits
    refine Or.inl ⟨hin.1, hin.2, _, hrow, printableAddress_hexBytes hfield, ?_⟩
    rw [if_pos hin, hrow]
    rfl
  by_cases htcp : f.kind = XSO_TCPCB ∧ f.len ≥ 40
  · obtain ⟨state, hstate⟩ := exists_readTcpcbState bytes f.offset (by omega) hfits
    refine Or.inr (Or.inl ⟨htcp.1, htcp.2, state, hstate, ?_⟩)
    rw [if_neg hin, if_pos htcp, hstate, ok_bind]
    split_ifs <;> rfl
  · refine Or.inr (Or.inr ⟨hin, htcp, ?_⟩)
    rw [if_neg hin, if_neg htcp]
    rfl

end Effect

/-! ## The rows and their room -/

/-- The invariant: the rows can be printed, and they and the half-read socket fit into what the
cursor has passed. -/
structure Roomy (bytes : Bytes) (offset : Nat) (s : Option HostListener × List HostListener) :
    Prop where
  taken : 128 * s.2.length + (if s.1.isSome then 88 else 0) ≤ offset
  fits : 128 * s.2.length ≤ bytes.length
  pending : ∀ row ∈ s.1, PrintableAddress row.2
  printable : ∀ row ∈ s.2, Printable row

theorem Roomy.begin {bytes : Bytes} (offset : Nat) : Roomy bytes offset (none, []) :=
  ⟨by simp, by simp, fun _ hrow => absurd hrow (by simp), List.forall_mem_nil _⟩

theorem printable_of_port {row : HostListener} (hport : row.1 ≠ 0)
    (haddress : PrintableAddress row.2) : Printable row := by
  refine ⟨?_, haddress.length_eq, haddress.hex⟩
  have hpos : row.1.toNat ≠ 0 := fun hzero => hport (UInt16.toNat_inj.mp hzero)
  have hlt := row.1.toNat_lt
  simp only [Client.isTcpPort, Bool.and_eq_true, decide_eq_true_eq]
  omega

/-- A socket that ends pays for its row with the 88 bytes of its address half and the 40 of its
state. -/
theorem Roomy.emit {bytes : Bytes} {offset next : Nat}
    {s : Option HostListener × List HostListener} (h : Roomy bytes offset s)
    (hnext : offset + 40 ≤ next) (hinside : offset + 40 ≤ bytes.length) :
    Roomy bytes next (none, emitPending s.1 s.2) := by
  obtain ⟨pending, rows⟩ := s
  have htaken := h.taken
  have hkeep : Roomy bytes next (none, rows) := by
    refine ⟨?_, h.fits, fun _ hr => absurd hr (by simp), h.printable⟩
    show 128 * rows.length + 0 ≤ next
    simp only at htaken
    omega
  cases pending with
  | none => exact hkeep
  | some row =>
      rw [emitPending]
      split_ifs with hport
      · simp only [Option.isSome_some, if_true] at htaken
        have hlength : (rows ++ [row]).length = rows.length + 1 := by simp
        refine ⟨?_, ?_, fun _ hr => absurd hr (by simp), ?_⟩
        · show 128 * (rows ++ [row]).length + 0 ≤ next
          omega
        · show 128 * (rows ++ [row]).length ≤ bytes.length
          omega
        · refine List.forall_mem_append.mpr ⟨h.printable, List.forall_mem_singleton.mpr ?_⟩
          exact printable_of_port hport (h.pending row rfl)
      · exact hkeep

theorem Roomy.step {bytes : Bytes} (hfits : bytes.length < 2 ^ 63) {f : Frame}
    {s : Option HostListener × List HostListener} (halign : 8 ∣ f.offset)
    (hinside : f.offset + f.len ≤ bytes.length) (h : Roomy bytes f.offset s) :
    Roomy bytes (ceil8 (f.offset + f.len)) (effectAt bytes s f) := by
  have hnext := le_ceil8 (f.offset + f.len)
  have htaken := h.taken
  rcases effectAt_cases (s := s) hfits hinside with
    ⟨-, hlen, row, -, haddress, heffect⟩ | ⟨-, hlen, state, -, heffect⟩ | ⟨-, -, heffect⟩
  · -- 84 bytes from a multiple of eight end behind the 88th
    have hround : f.offset + 88 ≤ ceil8 (f.offset + f.len) := by
      rw [ceil8_add halign]
      have := le_ceil8 f.len
      unfold ceil8
      omega
    rw [heffect]
    refine ⟨?_, h.fits, ?_, h.printable⟩
    · show 128 * s.2.length + 88 ≤ _
      omega
    · rintro r hr
      obtain rfl := Option.some.inj hr
      exact haddress
  · rw [heffect]
    have hround : f.offset + 40 ≤ ceil8 (f.offset + f.len) := by omega
    split_ifs
    · exact h.emit (by omega) (by omega)
    · refine ⟨?_, h.fits, fun _ hr => absurd hr (by simp), h.printable⟩
      show 128 * s.2.length + 0 ≤ _
      omega
  · rw [heffect]
    exact ⟨by omega, h.fits, h.pending, h.printable⟩

/-! ## Every read is inside its frame -/

/-- The reads of a frame that is long enough for them: what they slice is as wide as what it is
converted to, and no address they form wraps. -/
structure Guarded (bytes : Bytes) (f : Frame) : Prop where
  inside : f.offset + f.len ≤ bytes.length
  no_wrap : f.offset + f.len + 7 < 2 ^ 64
  port : f.kind = XSO_INPCB → 84 ≤ f.len →
    ∃ field, fieldAt bytes f.offset XINPCB_LPORT_OFFSET 2 = .ok field ∧ field.length = 2
  vflag : f.kind = XSO_INPCB → 84 ≤ f.len →
    ∃ field, fieldAt bytes f.offset XINPCB_VFLAG_OFFSET 1 = .ok field ∧ field.length = 1
  laddr : f.kind = XSO_INPCB → 84 ≤ f.len →
    ∃ field, fieldAt bytes f.offset XINPCB_LADDR_OFFSET 16 = .ok field ∧ field.length = 16
  state : f.kind = XSO_TCPCB → 40 ≤ f.len →
    ∃ field, fieldAt bytes f.offset XTCPCB_STATE_OFFSET 4 = .ok field ∧ field.length = 4

theorem guarded_of_inside {bytes : Bytes} {f : Frame} (hfits : bytes.length < 2 ^ 63)
    (hinside : f.offset + f.len ≤ bytes.length) : Guarded bytes f where
  inside := hinside
  no_wrap := by omega
  port _ _ := exists_fieldAt f.offset 18 2 (by omega) hfits
  vflag _ _ := exists_fieldAt f.offset 44 1 (by omega) hfits
  laddr _ _ := exists_fieldAt f.offset 64 16 (by omega) hfits
  state _ _ := exists_fieldAt f.offset 36 4 (by omega) hfits

/-! ## Every buffer -/

theorem roomy_rows (buffer : Buffer) : ∃ stop, Roomy buffer.bytes stop
    ((framing buffer.bytes).frames.foldl (effectAt buffer.bytes) (none, [])) :=
  framing_induct (Roomy buffer.bytes)
    (fun _ _ halign _ hinside h => Roomy.step buffer.fits halign hinside h)
    Roomy.begin

/-- **The walk of any buffer ends with rows or with `EINVAL`,** reads inside the buffer on its
way, and has only rows to return that the client accepts, one for each 128 bytes at most. -/
theorem decode_total (buffer : Buffer) :
    (decodeHostListeners buffer = .error (.errno Libc.EINVAL) ∨
      ∃ rows, decodeHostListeners buffer = .ok rows) ∧
    (∀ f ∈ (framing buffer.bytes).frames, Guarded buffer.bytes f) ∧
    ∀ rows, decodeHostListeners buffer = .ok rows →
      (∀ row ∈ rows, Printable row) ∧ rows.length * 128 ≤ buffer.bytes.length := by
  refine ⟨?_, fun f hf => guarded_of_inside buffer.fits (frames_inside f hf).2, ?_⟩
  · rw [decode_eq]
    split_ifs
    · exact Or.inr ⟨_, rfl⟩
    · exact Or.inl rfl
  · intro rows hrows
    rw [decode_eq] at hrows
    split_ifs at hrows
    obtain rfl := Except.ok.inj hrows
    obtain ⟨stop, hroomy⟩ := roomy_rows buffer
    refine ⟨hroomy.printable, ?_⟩
    have hfits := hroomy.fits
    omega

/-- A table of one socket: its row can be printed, and its bytes are more than 128. -/
theorem decode_total_sample :
    decodeHostListeners sshTable.buffer = .ok [(22, "7f000001".toList)] ∧
    (∀ row ∈ [((22 : UInt16), "7f000001".toList)], Printable row) ∧
    1 * 128 ≤ sshTable.buffer.bytes.length := by
  have hdecode : decodeHostListeners sshTable.buffer = .ok [(22, "7f000001".toList)] := by
    rw [decode_records]
    decide +kernel
  exact ⟨hdecode, (decode_total sshTable.buffer).2.2 _ hdecode⟩

end Osfacts.Pcblist
