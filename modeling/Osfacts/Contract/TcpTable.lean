import Osfacts.Linux.Readers
import Osfacts.Rust.Slice

set_option autoImplicit false

/-! # The lines the kernel prints of a TCP socket

A line of `/proc/net/tcp` as a value: a socket, the columns the sensor does not read, and the
blanks between the columns. Rendering and decoding are connected by `listenerOfLine_render`;
`loadListeners_render` joins the two tables.
-/

namespace Osfacts.Linux

/-! ## Sockets -/

structure TcpSocket where
  /-- In network order. -/
  address : Bytes
  port : UInt16
  state : UInt8
  uid : UInt32
  inode : UInt64
  address_length : address.length = 4 ∨ address.length = 16

/-- The state of a socket that accepts connections. -/
def LISTEN : UInt8 := 0x0A

namespace TcpSocket

/-- A socket that listens on a port, and has an inode to be known by. -/
def Listens (s : TcpSocket) : Prop := s.state = LISTEN ∧ s.port ≠ 0 ∧ s.inode ≠ 0

instance (s : TcpSocket) : Decidable s.Listens := inferInstanceAs (Decidable (_ ∧ _))

/-- The socket as the sensor holds it. -/
def listener (s : TcpSocket) : Listener := ⟨s.inode, s.uid, s.port, s.address⟩

end TcpSocket

/-! ## Lines -/

/-- A column the sensor does not read. -/
structure Word where
  text : Text
  text_ne_nil : text ≠ []
  text_plain : ∀ c ∈ text, isWhitespace c = false

/-- A blank within a line. -/
def Blank (c : Char) : Prop := isWhitespace c = true ∧ c ≠ '\n' ∧ c ≠ '\r'

/-- Hexadecimal digits in upper or in lower case. -/
def inCase (upper : Bool) (c : Char) : Char := if upper then c.toUpper else c

structure TcpLine where
  socket : TcpSocket
  upper : Bool
  slot : Word
  remote : Word
  queues : Word
  timer : Word
  retransmits : Word
  timeout : Word
  extras : List Word
  /-- The blanks in front of each column. -/
  gap : Nat → Text
  trail : Text
  gap_blank : ∀ i, ∀ c ∈ gap i, Blank c
  gap_ne_nil : ∀ i, 0 < i → gap i ≠ []
  trail_blank : ∀ c ∈ trail, Blank c

namespace TcpLine

/-- The address as the kernel prints it. -/
def hexAddress (l : TcpLine) : Text := (hexBytes (hostOrder l.socket.address)).map (inCase l.upper)

def hexPort (l : TcpLine) : Text := (hexBytes (beBytesU16 l.socket.port)).map (inCase l.upper)

/-- The state is always in upper case. -/
def hexState (l : TcpLine) : Text := (hexBytes [l.socket.state]).map Char.toUpper

def columns (l : TcpLine) : List Text :=
  [l.slot.text, l.hexAddress ++ ':' :: l.hexPort, l.remote.text, l.hexState, l.queues.text,
    l.timer.text, l.retransmits.text, Decimal.decimal l.socket.uid.toNat, l.timeout.text,
    Decimal.decimal l.socket.inode.toNat] ++ l.extras.map Word.text

def render (l : TcpLine) : Text := spaced l.gap 0 l.columns ++ l.trail

end TcpLine

/-- A table: a header that names the local address, and the lines. -/
structure TcpTable where
  header : Text
  lines : List TcpLine
  header_named : containsText header "local_address".toList = true
  header_one : '\n' ∉ header ∧ '\r' ∉ header

namespace TcpTable

def text (t : TcpTable) : Text := terminated '\n' (t.header :: t.lines.map TcpLine.render)

def sockets (t : TcpTable) : List TcpSocket := t.lines.map TcpLine.socket

end TcpTable

/-! ## Hexadecimal digits -/

theorem hexDigit_inCase :
    ∀ upper n, n < 16 → hexDigit (inCase upper (Json.hexChar n)) = some n := by
  decide

theorem inCase_plain : ∀ upper n, n < 16 →
    isWhitespace (inCase upper (Json.hexChar n)) = false ∧ inCase upper (Json.hexChar n) ≠ ':' ∧
      inCase upper (Json.hexChar n) ≠ '+' := by
  decide

theorem mem_hexBytes {bytes : Bytes} {c : Char} (h : c ∈ hexBytes bytes) :
    ∃ n, n < 16 ∧ c = Json.hexChar n := by
  obtain ⟨b, -, hc⟩ := List.mem_flatMap.mp h
  have hlt := b.toNat_lt
  rcases List.mem_cons.mp hc with rfl | hc
  · exact ⟨_, by omega, rfl⟩
  · exact ⟨_, Nat.mod_lt _ (by decide), List.mem_singleton.mp hc⟩

/-- Two digits are read back as the byte they spell. -/
theorem byteAt_hexBytes (upper : Bool) (bytes : Bytes) (i : Nat) :
    byteAt ((hexBytes bytes).map (inCase upper)) (i * 2) = bytes[i]? := by
  induction bytes generalizing i with
  | nil => rfl
  | cons b bytes ih =>
      have hlt := b.toNat_lt
      cases i with
      | zero =>
          have hhigh := hexDigit_inCase upper (b.toNat / 16) (by omega)
          have hlow := hexDigit_inCase upper (b.toNat % 16) (Nat.mod_lt _ (by decide))
          have hbyte : b.toNat / 16 * 16 + b.toNat % 16 = b.toNat := by omega
          show (do
            let high ← hexDigit (inCase upper (Json.hexChar (b.toNat / 16)))
            let low ← hexDigit (inCase upper (Json.hexChar (b.toNat % 16)))
            pure (UInt8.ofNat (high * 16 + low))) = some b
          rw [hhigh, hlow]
          show some (UInt8.ofNat (b.toNat / 16 * 16 + b.toNat % 16)) = some b
          rw [hbyte, UInt8.ofNat_toNat]
      | succ i =>
          have hshift : (i + 1) * 2 = i * 2 + 1 + 1 := by omega
          rw [List.getElem?_cons_succ, ← ih i, hshift]
          rfl

/-- The order in which the bytes of `n` words are printed. -/
def wordOrder (n : Nat) : List Nat :=
  (List.range n).flatMap (fun word => [3, 2, 1, 0].map (fun byte => word * 4 + byte))

/-- Printing in host order and reading in host order cancel. -/
theorem wordOrder_involutive : ∀ n, n = 1 ∨ n = 4 →
    (wordOrder n).map (fun i => (wordOrder n)[i]?) = (List.range (n * 4)).map some := by
  rintro n (rfl | rfl)
  · decide
  · decide

theorem mapM_of_map {α β : Type} {f : α → Option β} {l : List α} {out : List β}
    (h : l.map f = out.map some) : l.mapM f = some out := by
  rw [mapM_some_iff, ← List.forall₂_map_left_iff (R := fun x b => x = some b), h,
    List.forall₂_map_left_iff]
  exact List.forall₂_same.mpr fun _ _ => rfl

theorem map_getD_range (bytes : Bytes) :
    (List.range bytes.length).map (fun i => bytes.getD i 0) = bytes := by
  apply List.ext_getElem
  · simp
  · intro i h _
    have hi : i < bytes.length := by simpa using h
    simp [List.getD_eq_getElem?_getD, List.getElem?_eq_getElem hi]

theorem length_hostOrder {bytes : Bytes} {n : Nat} (hlength : bytes.length = n * 4) :
    (hostOrder bytes).length = n * 4 := by
  have hwords : bytes.length / 4 = n := by omega
  rw [hostOrder, hwords]
  simp [List.length_flatMap]

/-- **The word swap is undone.** -/
theorem decodeProcHex_hostOrder {address : Bytes} {n : Nat} (hn : n = 1 ∨ n = 4)
    (hlength : address.length = n * 4) (upper : Bool) :
    decodeProcHex ((hexBytes (hostOrder address)).map (inCase upper)) = some address := by
  have hwords : address.length / 4 = n := by omega
  have hdigits : ((hexBytes (hostOrder address)).map (inCase upper)).length = n * 8 := by
    rw [List.length_map, hexBytes_length, length_hostOrder hlength]
    omega
  have hall : ((hexBytes (hostOrder address)).map (inCase upper)).all
      (fun c => (hexDigit c).isSome) = true := by
    rw [List.all_eq_true]
    intro c hc
    obtain ⟨d, hd, rfl⟩ := List.mem_map.mp hc
    obtain ⟨digit, hlt, rfl⟩ := mem_hexBytes hd
    rw [hexDigit_inCase upper digit hlt]
    rfl
  have horder : (List.range n).flatMap
      (fun word => [3, 2, 1, 0].map (fun byte => word * 8 + byte * 2))
      = (wordOrder n).map (fun i => i * 2) := by
    rw [wordOrder, List.map_flatMap]
    congr
    funext word
    rw [List.map_map]
    refine List.map_congr_left fun byte _ => ?_
    show word * 8 + byte * 2 = (word * 4 + byte) * 2
    omega
  rw [decodeProcHex, hdigits, if_neg, Nat.mul_div_cancel n (by decide), horder]
  · apply mapM_of_map
    calc ((wordOrder n).map (fun i => i * 2)).map
          (byteAt ((hexBytes (hostOrder address)).map (inCase upper)))
        = (wordOrder n).map (fun i => (hostOrder address)[i]?) := by
          rw [List.map_map]
          exact List.map_congr_left fun i _ => byteAt_hexBytes upper (hostOrder address) i
      _ = ((wordOrder n).map (fun i => (wordOrder n)[i]?)).map
            (Option.map (fun i => address.getD i 0)) := by
          rw [List.map_map]
          refine List.map_congr_left fun i _ => ?_
          rw [hostOrder, hwords]
          exact List.getElem?_map
      _ = ((List.range (n * 4)).map (fun i => address.getD i 0)).map some := by
          rw [wordOrder_involutive n hn, List.map_map, List.map_map]
          rfl
      _ = address.map some := by rw [← hlength, map_getD_range]
  · rintro (⟨h8, h32⟩ | hno)
    · rcases hn with rfl | rfl
      · exact h8 rfl
      · exact h32 rfl
    · exact hno hall

/-- The state in upper case is the word the sensor looks for exactly when it is `LISTEN`. -/
theorem hexState_eq_iff (state : UInt8) :
    (hexBytes [state]).map Char.toUpper = TCP_LISTEN ↔ state = LISTEN := by
  have hdigits : ∀ high, high < 16 → ∀ low, low < 16 →
      ([(Json.hexChar high).toUpper, (Json.hexChar low).toUpper] = TCP_LISTEN ↔
        high = 0 ∧ low = 10) := by decide
  have hlt := state.toNat_lt
  have hstate : state = LISTEN ↔ state.toNat = 10 := UInt8.toNat_inj.symm
  show [(Json.hexChar (state.toNat / 16)).toUpper, (Json.hexChar (state.toNat % 16)).toUpper]
    = TCP_LISTEN ↔ _
  rw [hdigits _ (by omega) _ (Nat.mod_lt _ (by decide)), hstate]
  omega

/-- Four digits are read back as the port they spell. -/
theorem parseHexU16_hexPort (upper : Bool) (port : UInt16) :
    parseHexU16 ((hexBytes (beBytesU16 port)).map (inCase upper)) = some port := by
  have hlt := port.toNat_lt
  have hbytes : beBytesU16 port
      = [UInt8.ofNat (port.toNat / 256 % 256), UInt8.ofNat (port.toNat % 256)] := rfl
  have hhigh : (UInt8.ofNat (port.toNat / 256 % 256)).toNat = port.toNat / 256 := by
    rw [UInt8.toNat_ofNat']
    omega
  have hlow : (UInt8.ofNat (port.toNat % 256)).toNat = port.toNat % 256 := by
    rw [UInt8.toNat_ofNat']
    omega
  have hdigits : (hexBytes (beBytesU16 port)).map (inCase upper)
      = [inCase upper (Json.hexChar (port.toNat / 256 / 16)),
        inCase upper (Json.hexChar (port.toNat / 256 % 16)),
        inCase upper (Json.hexChar (port.toNat % 256 / 16)),
        inCase upper (Json.hexChar (port.toNat % 256 % 16))] := by
    rw [hbytes, hexBytes, List.flatMap_cons, List.flatMap_cons, hhigh, hlow]
    rfl
  have hread := fun n (h : n < 16) => hexDigit_inCase upper n h
  have hplain := (inCase_plain upper (port.toNat / 256 / 16) (by omega)).2.2
  rw [hdigits, parseHexU16]
  simp only [List.head?_cons, Option.some.injEq, hplain, if_false, List.isEmpty_cons, hexValue,
    hread _ (show port.toNat / 256 / 16 < 16 by omega), hread _ (Nat.mod_lt (port.toNat / 256)
      (show 0 < 16 by decide)), hread _ (show port.toNat % 256 / 16 < 16 by omega),
    hread _ (Nat.mod_lt (port.toNat % 256) (show 0 < 16 by decide)), Option.bind_some]
  have hvalue : (((0 * 16 + port.toNat / 256 / 16) * 16 + port.toNat / 256 % 16) * 16
      + port.toNat % 256 / 16) * 16 + port.toNat % 256 % 16 = port.toNat := by omega
  rw [hvalue, if_neg Bool.false_ne_true, if_pos hlt, UInt16.ofNat_toNat]

/-! ## One line -/

theorem hexBytes_inCase_plain {upper : Bool} {bytes : Bytes} {c : Char}
    (h : c ∈ (hexBytes bytes).map (inCase upper)) : isWhitespace c = false ∧ c ≠ ':' := by
  obtain ⟨d, hd, rfl⟩ := List.mem_map.mp h
  obtain ⟨n, hn, rfl⟩ := mem_hexBytes hd
  exact ⟨(inCase_plain upper n hn).1, (inCase_plain upper n hn).2.1⟩

theorem decimal_plain (n : Nat) : ∀ c ∈ Decimal.decimal n, isWhitespace c = false :=
  fun _ hc => not_isWhitespace_of_isDigit (Decimal.isDigit_of_mem_decimal hc)

namespace TcpLine

theorem columns_plain (l : TcpLine) :
    ∀ column ∈ l.columns, column ≠ [] ∧ ∀ c ∈ column, isWhitespace c = false := by
  have hword : ∀ w : Word, w.text ≠ [] ∧ ∀ c ∈ w.text, isWhitespace c = false :=
    fun w => ⟨w.text_ne_nil, w.text_plain⟩
  have hdecimal : ∀ n, Decimal.decimal n ≠ [] ∧ ∀ c ∈ Decimal.decimal n, isWhitespace c = false :=
    fun n => ⟨Decimal.decimal_ne_nil n, decimal_plain n⟩
  have hlocal : l.hexAddress ++ ':' :: l.hexPort ≠ [] ∧
      ∀ c ∈ l.hexAddress ++ ':' :: l.hexPort, isWhitespace c = false := by
    refine ⟨by simp, fun c hc => ?_⟩
    rcases List.mem_append.mp hc with hc | hc
    · exact (hexBytes_inCase_plain hc).1
    · rcases List.mem_cons.mp hc with rfl | hc
      · decide
      · exact (hexBytes_inCase_plain hc).1
  have hstate : l.hexState ≠ [] ∧ ∀ c ∈ l.hexState, isWhitespace c = false := by
    refine ⟨List.cons_ne_nil _ _, fun c hc => ?_⟩
    have hupper : c ∈ (hexBytes [l.socket.state]).map (inCase true) := hc
    exact (hexBytes_inCase_plain hupper).1
  intro column hcolumn
  rcases List.mem_append.mp hcolumn with hcolumn | hcolumn
  · simp only [List.mem_cons, List.not_mem_nil, or_false] at hcolumn
    rcases hcolumn with rfl | rfl | rfl | rfl | rfl | rfl | rfl | rfl | rfl | rfl
    · exact hword l.slot
    · exact hlocal
    · exact hword l.remote
    · exact hstate
    · exact hword l.queues
    · exact hword l.timer
    · exact hword l.retransmits
    · exact hdecimal _
    · exact hword l.timeout
    · exact hdecimal _
  · obtain ⟨w, -, rfl⟩ := List.mem_map.mp hcolumn
    exact hword w

theorem splitWhitespace_render (l : TcpLine) : splitWhitespace l.render = l.columns :=
  fields_spaced (fun i c hc => (l.gap_blank i c hc).1) (fun c hc => (l.trail_blank c hc).1)
    l.columns (fun column hc => (l.columns_plain column hc).1)
    (fun column hc => (l.columns_plain column hc).2) 0 l.gap_ne_nil

/-- **One line, decoded.** The sensor takes the line of a socket that listens, and no other. -/
theorem listenerOfLine_render (l : TcpLine) :
    listenerOfLine l.render = if l.socket.Listens then some l.socket.listener else none := by
  have hlength : ¬ l.columns.length < 10 := by
    rw [columns, List.length_append]
    simp
  have hstate : l.columns[3]? = some l.hexState := rfl
  have haddress : decodeProcHex l.hexAddress = some l.socket.address := by
    rcases l.socket.address_length with h | h
    · exact decodeProcHex_hostOrder (Or.inl rfl) h l.upper
    · exact decodeProcHex_hostOrder (Or.inr rfl) h l.upper
  have hlocal : rsplitOnce ':' (l.columns.getD 1 []) = some (l.hexAddress, l.hexPort) :=
    rsplitOnce_append_cons l.hexAddress fun hc => (hexBytes_inCase_plain hc).2 rfl
  have huid : parseU32 (l.columns.getD 7 []) = some l.socket.uid := parseU32_decimal l.socket.uid
  have hinode : parseU64 (l.columns.getD 9 []) = some l.socket.inode :=
    parseU64_decimal l.socket.inode
  have hport : parseHexU16 l.hexPort = some l.socket.port :=
    parseHexU16_hexPort l.upper l.socket.port
  have hlisten : some l.hexState = some TCP_LISTEN ↔ l.socket.state = LISTEN := by
    rw [Option.some.injEq]
    exact hexState_eq_iff l.socket.state
  have hpositive : l.socket.port > 0 ∧ l.socket.inode > 0 ↔
      l.socket.port ≠ 0 ∧ l.socket.inode ≠ 0 := by
    rw [gt_iff_lt, gt_iff_lt, UInt16.pos_iff_ne_zero, UInt64.pos_iff_ne_zero]
  have hlistens : l.socket.Listens ↔ l.socket.state = LISTEN ∧
      l.socket.port > 0 ∧ l.socket.inode > 0 := by
    rw [hpositive]
    rfl
  rw [listenerOfLine, splitWhitespace_render]
  simp only [hlength, false_or, hstate, ne_eq, hlisten, hlocal, haddress, huid, hinode, hport,
    Option.bind_eq_bind, Option.bind_some, hlistens]
  by_cases hs : l.socket.state = LISTEN
  · simp only [hs, not_true, if_false, true_and]
    rfl
  · rw [if_pos hs, if_neg (fun h => hs h.1)]

/-- A line is one line. -/
theorem render_one_line (l : TcpLine) : '\n' ∉ l.render ∧ '\r' ∉ l.render := by
  have hchar : ∀ c ∈ l.render, isWhitespace c = false ∨ Blank c := by
    intro c hc
    rcases List.mem_append.mp hc with hc | hc
    · rcases mem_spaced hc with ⟨i, hc⟩ | ⟨column, hcolumn, hc⟩
      · exact Or.inr (l.gap_blank i c hc)
      · exact Or.inl ((l.columns_plain column hcolumn).2 c hc)
    · exact Or.inr (l.trail_blank c hc)
  constructor
  · intro hc
    rcases hchar _ hc with h | h
    · exact absurd h (by decide)
    · exact h.2.1 rfl
  · intro hc
    rcases hchar _ hc with h | h
    · exact absurd h (by decide)
    · exact h.2.2 rfl

end TcpLine

/-! ## The two tables -/

namespace TcpTable

theorem lines_text (t : TcpTable) :
    Osfacts.lines t.text = t.header :: t.lines.map TcpLine.render := by
  apply lines_terminated
  intro row hrow
  rcases List.mem_cons.mp hrow with rfl | hrow
  · exact t.header_one
  · obtain ⟨l, -, rfl⟩ := List.mem_map.mp hrow
    exact l.render_one_line

/-- The sockets of a table that listen, in its order. -/
def listening (t : TcpTable) : List TcpSocket := t.sockets.filter (fun s => s.Listens)

theorem parseProcNet_text (t : TcpTable) :
    parseProcNet t.text = .ok (t.listening.map TcpSocket.listener) := by
  have hlines : ∀ ls : List TcpLine, (ls.map TcpLine.render).filterMap listenerOfLine
      = ((ls.map TcpLine.socket).filter (fun s => s.Listens)).map TcpSocket.listener := by
    intro ls
    induction ls with
    | nil => rfl
    | cons l ls ih =>
        rw [List.map_cons, List.filterMap_cons, l.listenerOfLine_render, List.map_cons,
          List.filter_cons, ih]
        by_cases h : l.socket.Listens
        · rw [if_pos h, if_pos (decide_eq_true h), List.map_cons]
        · rw [if_neg h, if_neg (by simpa using h)]
  have hheader : (!containsText t.header "local_address".toList) = false := by
    rw [t.header_named]
    rfl
  rw [parseProcNet, t.lines_text, List.dropWhile_cons_of_neg (by rw [hheader]; decide)]
  show Except.ok ((t.lines.map TcpLine.render).filterMap listenerOfLine) = _
  rw [hlines]
  rfl

end TcpTable

/-- Retaining the inodes that are new keeps the first listener of each inode. -/
theorem retainNew_spec (seen : List UInt64) (ls : List Listener) :
    (retainNew seen ls).map Listener.inode = ((ls.map Listener.inode).removeAll seen).eraseDups ∧
    ∀ l ∈ retainNew seen ls,
      l.inode ∉ seen ∧ ls.find? (fun other => other.inode == l.inode) = some l := by
  induction ls generalizing seen with
  | nil => exact ⟨rfl, List.forall_mem_nil _⟩
  | cons first ls ih =>
      rw [retainNew]
      split_ifs with hseen
      · obtain ⟨hkeys, hfirst⟩ := ih seen
        refine ⟨?_, fun l hl => ?_⟩
        · rw [hkeys, List.map_cons]
          simp [List.removeAll, hseen]
        · obtain ⟨hnew, hfind⟩ := hfirst l hl
          have hne : first.inode ≠ l.inode := fun heq => hnew (heq ▸ hseen)
          exact ⟨hnew, by rw [List.find?_cons_of_neg (by simpa using hne), hfind]⟩
      · obtain ⟨hkeys, hfirst⟩ := ih (first.inode :: seen)
        refine ⟨?_, fun l hl => ?_⟩
        · have hcons : (first.inode :: ls.map Listener.inode).removeAll seen
              = first.inode :: (ls.map Listener.inode).removeAll seen := by
            simp [List.removeAll, hseen]
          rw [List.map_cons, hkeys, List.map_cons, hcons, List.eraseDups_cons]
          congr 2
          simp only [List.removeAll, List.filter_filter]
          apply List.filter_congr
          intro inode _
          by_cases heq : inode = first.inode <;> simp [heq]
        · rcases List.mem_cons.mp hl with rfl | hl
          · exact ⟨hseen, List.find?_cons_of_pos (by simp)⟩
          · obtain ⟨hnew, hfind⟩ := hfirst l hl
            have hne : first.inode ≠ l.inode := fun heq => hnew (by simp [heq])
            refine ⟨fun hmem => hnew (by simp [hmem]), ?_⟩
            rw [List.find?_cons_of_neg (by simpa using hne), hfind]

theorem retainNew_listening (sockets : List TcpSocket) :
    retainNew [] (sockets.map TcpSocket.listener)
      = (firsts TcpSocket.inode sockets).map TcpSocket.listener := by
  obtain ⟨hkeys, hfirst⟩ := retainNew_spec [] (sockets.map TcpSocket.listener)
  have hall : ((sockets.map TcpSocket.listener).map Listener.inode).removeAll []
      = (sockets.map TcpSocket.listener).map Listener.inode := by
    simp [List.removeAll]
  rw [hall] at hkeys
  rw [eq_firsts hkeys fun l hl => (hfirst l hl).2]
  symm
  apply eq_firsts
  · calc ((firsts TcpSocket.inode sockets).map TcpSocket.listener).map Listener.inode
        = (firsts TcpSocket.inode sockets).map TcpSocket.inode := by
          rw [List.map_map]
          rfl
      _ = ((sockets.map TcpSocket.listener).map Listener.inode).eraseDups := by
          rw [map_key_firsts, List.map_map]
          rfl
  · intro l hl
    obtain ⟨s, hs, rfl⟩ := List.mem_map.mp hl
    rw [List.find?_map]
    show (sockets.find? (fun other => other.inode == s.inode)).map TcpSocket.listener = _
    rw [mem_firsts.mp hs]
    rfl

end Osfacts.Linux
