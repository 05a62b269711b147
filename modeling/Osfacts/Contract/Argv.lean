import Osfacts.Darwin.Readers
import Osfacts.Linux.Readers

set_option autoImplicit false

/-! # The argument vector

Both systems hand out the arguments as one block of bytes in which a NUL follows every argument.
On Linux the block is all there is; on darwin the number of arguments and the path of the program
stand before it, an unmarked run of NULs between the path and the first argument, and the
environment behind it. An empty argument is a lone NUL: one reader drops it, the other takes it
for padding if it comes first.
-/

namespace Osfacts

/-- Arguments that an argument block can hold. -/
def NulFree (args : List Text) : Prop := ∀ arg ∈ args, '\x00' ∉ arg

instance (args : List Text) : Decidable (NulFree args) :=
  inferInstanceAs (Decidable (∀ arg ∈ args, '\x00' ∉ arg))

/-- Every argument followed by a NUL: all of `/proc/<pid>/cmdline`. -/
def argBlock (args : List Text) : Bytes := terminated 0 (args.map Utf8.encode)

theorem argBlock_cons (arg : Text) (args : List Text) :
    argBlock (arg :: args) = Utf8.encode arg ++ 0 :: argBlock args := by
  rw [argBlock, List.map_cons, terminated_cons]
  rfl

theorem zero_not_mem_encode {args : List Text} (h : NulFree args) :
    ∀ row ∈ args.map Utf8.encode, (0 : UInt8) ∉ row := by
  intro row hrow
  obtain ⟨arg, harg, rfl⟩ := List.mem_map.mp hrow
  exact fun hzero => h arg harg ((Utf8.mem_encode_ascii (c := '\x00') (by decide) arg).mp hzero)

theorem encode_eq_nil_iff {t : Text} : Utf8.encode t = [] ↔ t = [] := by
  constructor
  · intro h
    rw [← lossy_of_text t, h]
    rfl
  · rintro rfl
    rfl

/-! ## Linux -/

namespace Linux

/-- The arguments that are not empty, in order. -/
theorem readArgv_argBlock {args : List Text} (h : NulFree args) :
    readArgv (argBlock args) = args.filter (fun arg => !arg.isEmpty) := by
  have hempty : (fun bytes : Bytes => !bytes.isEmpty) ∘ Utf8.encode
      = fun arg : Text => !arg.isEmpty := by
    funext arg
    rw [Function.comp_apply, Bool.eq_iff_iff, Bool.not_eq_true', Bool.not_eq_true',
      List.isEmpty_eq_false_iff, List.isEmpty_eq_false_iff, ne_eq, encode_eq_nil_iff]
  have hlossy : fromUtf8Lossy ∘ Utf8.encode = id := funext lossy_of_text
  -- the split leaves one more piece behind the last NUL, and it is empty
  rw [readArgv, argBlock, splitOn_terminated (zero_not_mem_encode h), List.filter_append,
    List.filter_map, hempty, List.map_append, List.map_map, hlossy, List.map_id]
  exact List.append_nil _

/-- **The whole argument vector.** It is returned exactly when no argument is empty. -/
theorem readArgv_exact_iff (args : List Text) (h : NulFree args) :
    readArgv (argBlock args) = args ↔ [] ∉ args := by
  rw [readArgv_argBlock h, List.filter_eq_self]
  constructor
  · intro hall hmem
    exact absurd (hall [] hmem) (by decide)
  · intro hnone arg harg
    cases arg with
    | nil => exact absurd harg hnone
    | cons c arg => rfl

theorem readArgv_exact_sample :
    readArgv (argBlock ["sh".toList, "-c".toList]) = ["sh".toList, "-c".toList] :=
  (readArgv_exact_iff ["sh".toList, "-c".toList] (by decide)).mpr (by decide)

/-- `printf "" x`: the empty argument is dropped. -/
theorem readArgv_empty_lost :
    NulFree ["printf".toList, [], "x".toList] ∧
      readArgv (argBlock ["printf".toList, [], "x".toList]) = ["printf".toList, "x".toList] := by
  decide

end Linux

/-! ## Darwin -/

namespace Darwin

/-- What `KERN_PROCARGS2` hands out. -/
def procargs2Of (args : List Text) (path : Bytes) (padding : Nat) (env : List Bytes) : Bytes :=
  neBytesI32 (Int32.ofNat args.length) ++ (path ++ (0 :: (List.replicate padding 0 ++
    (argBlock args ++ terminated 0 env))))

theorem untilNul_append {field rest : Bytes} (h : 0 ∉ field) :
    untilNul (field ++ 0 :: rest) = field := by
  have hall : ∀ b ∈ field, (b != 0) = true := by
    intro b hb
    exact bne_iff_ne.mpr (fun heq => h (heq ▸ hb))
  rw [untilNul, List.takeWhile_append_of_pos hall, List.takeWhile_cons_of_neg (by decide),
    List.append_nil]

/-- As many arguments as were announced, whatever follows them. -/
theorem takeArgs_terminated {args : List Text} (h : NulFree args) (rest : Bytes) :
    takeArgs args.length (argBlock args ++ rest) = .ok args := by
  induction args with
  | nil => rfl
  | cons arg args ih =>
      have harg : (0 : UInt8) ∉ Utf8.encode arg :=
        zero_not_mem_encode h _ (List.mem_map_of_mem (List.mem_cons_self ..))
      have htail : NulFree args := fun a ha => h a (List.mem_cons_of_mem _ ha)
      rw [argBlock_cons, List.append_assoc, List.cons_append, List.length_cons, takeArgs,
        if_neg (by simp), untilNul_append harg, ← List.drop_drop, List.drop_left,
        List.drop_one, List.tail_cons, ih htail, lossy_of_text]
      rfl

/-- The first argument read begins where the NULs end, so it is not empty. -/
theorem takeArgs_dropWhile_head {n : Nat} {bytes : Bytes} {args : List Text}
    (h : takeArgs (n + 1) (bytes.dropWhile (fun b => b == 0)) = .ok args) :
    args.head? ≠ some [] := by
  rw [takeArgs] at h
  by_cases hzero : 0 ∉ bytes.dropWhile (fun b => b == 0)
  · rw [if_pos hzero] at h
    cases h
  rw [if_neg hzero] at h
  obtain ⟨rest, -, h⟩ := bind_ok_iff.mp h
  obtain rfl := Except.ok.inj h
  rw [List.head?_cons, ne_eq, Option.some.injEq]
  refine Utf8.decodeLossy_ne_nil ?_
  -- behind the padding stands a byte that is no NUL
  cases hdrop : bytes.dropWhile (fun b => b == 0) with
  | nil => exact absurd (hdrop ▸ not_not.mp hzero) List.not_mem_nil
  | cons b tail =>
      have hb := List.head?_dropWhile_not (fun b : UInt8 => b == 0) bytes
      rw [hdrop] at hb
      rw [untilNul, List.takeWhile_cons_of_pos]
      · exact List.cons_ne_nil _ _
      · simpa using hb

theorem parseProcargs2_eq {args : List Text} (hlength : args.length < 2 ^ 31) {path : Bytes}
    (hpath : 0 ∉ path) (padding : Nat) (env : List Bytes) :
    parseProcargs2 (procargs2Of args path padding env) =
      takeArgs args.length ((argBlock args ++ terminated 0 env).dropWhile (fun b => b == 0)) := by
  have hwide : (neBytesI32 (Int32.ofNat args.length)).length = 4 := by
    rw [neBytesI32, neBytesU32, length_leBytes]
  have hargc : (Int32.ofNat args.length).toInt = args.length := by
    rw [Int32.toInt_ofNat_of_lt hlength]
  have hslice := slice_append [] (neBytesI32 (Int32.ofNat args.length))
    (path ++ (0 :: (List.replicate padding 0 ++ (argBlock args ++ terminated 0 env)))) rfl rfl
  rw [List.nil_append, List.length_nil, hwide, Nat.zero_add] at hslice
  rw [parseProcargs2, readI32, procargs2Of, hslice]
  simp only [fromNeI32_neBytes, ok_bind]
  rw [List.drop_left' hwide]
  have hvalid : ¬(Int32.ofNat args.length < 0 ∨ 0 ∉ path ++ 0 :: (List.replicate padding 0 ++
      (argBlock args ++ terminated 0 env))) := by
    rw [not_or, not_not, Int32.lt_iff_toInt_lt, hargc]
    exact ⟨by simp, by simp⟩
  rw [if_neg hvalid, hargc, Int.toNat_natCast, untilNul_append hpath, List.drop_left]
  -- the NUL behind the path and the padding
  rw [List.dropWhile_cons_of_pos (by decide), List.dropWhile_append_of_pos]
  intro b hb
  rw [List.eq_of_mem_replicate hb]
  rfl

/-- **The decoded arguments.** They are the ones that were handed out exactly when there are none
or the first is not empty, whatever the padding and the environment. -/
theorem parseProcargs2_exact_iff (args : List Text) (path : Bytes) (padding : Nat)
    (env : List Bytes) (h : NulFree args) (hlength : args.length < 2 ^ 31) (hpath : 0 ∉ path) :
    parseProcargs2 (procargs2Of args path padding env) = .ok args ↔ args.head? ≠ some [] := by
  rw [parseProcargs2_eq hlength hpath]
  cases args with
  | nil => exact iff_of_true rfl (by simp)
  | cons arg args =>
      constructor
      · exact takeArgs_dropWhile_head
      · intro hhead
        rw [List.head?_cons, ne_eq, Option.some.injEq] at hhead
        -- the first byte of the first argument ends the padding
        have harg : (0 : UInt8) ∉ Utf8.encode arg :=
          zero_not_mem_encode h _ (List.mem_map_of_mem (List.mem_cons_self ..))
        have hdrop : (argBlock (arg :: args) ++ terminated 0 env).dropWhile
            (fun b => b == 0) = argBlock (arg :: args) ++ terminated 0 env := by
          cases hencode : Utf8.encode arg with
          | nil => exact absurd (encode_eq_nil_iff.mp hencode) hhead
          | cons b bytes =>
              rw [hencode] at harg
              have hb : ¬ (b == 0) = true := by
                intro heq
                exact harg (eq_of_beq heq ▸ List.mem_cons_self ..)
              rw [argBlock_cons, hencode, List.cons_append, List.cons_append]
              exact List.dropWhile_cons_of_neg hb
        rw [hdrop, takeArgs_terminated h]

theorem parseProcargs2_exact_sample :
    parseProcargs2 (procargs2Of ["sh".toList, []] (ascii "/bin/sh") 3 [ascii "A=1"])
      = .ok ["sh".toList, []] :=
  (parseProcargs2_exact_iff ["sh".toList, []] (ascii "/bin/sh") 3 [ascii "A=1"] (by decide)
    (by decide) (by decide)).mpr (by decide)

/-- The empty name is taken for padding, and a variable of the environment for an argument. -/
theorem parseProcargs2_leaks :
    NulFree [[], "x".toList] ∧ (0 : UInt8) ∉ ascii "/bin/sh" ∧
      parseProcargs2 (procargs2Of [[], "x".toList] (ascii "/bin/sh") 3 [ascii "KEY=1"])
        = .ok ["x".toList, "KEY=1".toList] := by
  decide

end Darwin

end Osfacts
