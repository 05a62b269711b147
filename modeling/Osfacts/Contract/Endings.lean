import Osfacts.Contract.CommandLine

set_option autoImplicit false

/-! # Every run ends

The program reads its arguments in loops that go on until the argument parser has no more. Each
call of the parser takes something off the command line, so on every vector of arguments, text or
not, the program ends, with one of three codes and the version in front of what it wrote.
-/

namespace Osfacts

open Client

/-! ## A parser that takes arguments away -/

/-- A size of what is left of the command line, which every argument that is presented makes
smaller. -/
structure Lexopt.Shrinks (L : Lexopt) (size : L.Parser → Nat) : Prop where
  next (p : L.Parser) (arg : Arg) : (L.next p).1 = .ok (some arg) → size (L.next p).2 < size p
  value (p : L.Parser) : size (L.value p).2 ≤ size p
  fromArgs (args : List Bytes) :
    size (L.fromArgs args) ≤ (args.map List.length).sum + args.length

namespace Lexopt

namespace Source

/-- The characters that are left of a cluster, and the bytes that are left of the arguments, with
one more for each argument. -/
def size (p : Source) : Nat :=
  (match p.state with
    | .shorts rest => rest.length
    | _ => 0) + ((p.args.map List.length).sum + p.args.length)

theorem size_nextPositional {args : List Bytes} {arg : Arg}
    (h : (nextPositional args).1 = .ok (some arg)) :
    (nextPositional args).2.size < (args.map List.length).sum + args.length := by
  cases args with
  | nil => cases h
  | cons a rest =>
      simp only [nextPositional, size, List.map_cons, List.sum_cons, List.length_cons]
      omega

theorem size_nextFresh {args : List Bytes} {arg : Arg}
    (h : (nextFresh args).1 = .ok (some arg)) :
    (nextFresh args).2.size < (args.map List.length).sum + args.length := by
  cases args with
  | nil => cases h
  | cons a rest =>
      have hlength : (fromUtf8Lossy a).length ≤ a.length := Utf8.length_decodeLossy_le a
      rw [nextFresh] at h ⊢
      simp only [List.map_cons, List.sum_cons, List.length_cons]
      generalize fromUtf8Lossy a = t at h hlength ⊢
      split at h
      case h_1 =>
          have hrest := size_nextPositional h
          omega
      case h_2 option _ =>
          split_ifs at h ⊢
          · simp only [size]
            omega
          · simp only [size]
            omega
      case h_3 c shorts _ =>
          simp only [size, List.length_cons] at hlength ⊢
          omega
      case h_4 =>
          simp only [size]
          omega

end Source

theorem standard_shrinks : standard.Shrinks Source.size where
  next p arg h := by
    change (Source.next p).1 = _ at h
    show (Source.next p).2.size < p.size
    obtain ⟨state, args⟩ := p
    cases state with
    | none =>
        show (Source.nextFresh args).2.size < 0 + _
        rw [Nat.zero_add]
        exact Source.size_nextFresh h
    | finishedOpts =>
        show (Source.nextPositional args).2.size < 0 + _
        rw [Nat.zero_add]
        exact Source.size_nextPositional h
    | pendingValue v => cases h
    | shorts rest =>
        cases rest with
        | nil =>
            show (Source.nextFresh args).2.size < 0 + _
            rw [Nat.zero_add]
            exact Source.size_nextFresh h
        | cons c rest =>
            by_cases hc : c = '='
            · subst hc
              cases h
            -- one flag of a cluster is taken, and the cluster is shorter
            · have hnext : Source.next ⟨.shorts (c :: rest), args⟩
                  = (.ok (some (.short c)), ⟨.shorts rest, args⟩) := by
                unfold Source.next
                split
                case h_4 heq => cases State.shorts.inj heq
                case h_5 heq => exact absurd (List.cons.inj (State.shorts.inj heq)).1 hc
                case h_6 heq =>
                    obtain ⟨rfl, rfl⟩ := List.cons.inj (State.shorts.inj heq)
                    rfl
                all_goals contradiction
              rw [hnext]
              simp only [Source.size, List.length_cons]
              omega
  value p := by
    show (Source.value p).2.size ≤ p.size
    obtain ⟨state, args⟩ := p
    cases state with
    | pendingValue v => exact Nat.le_refl _
    | none => cases args <;> (simp [Source.value, Source.size]; try omega)
    | finishedOpts => cases args <;> (simp [Source.value, Source.size]; try omega)
    | shorts rest =>
        cases rest with
        | nil => cases args <;> (simp [Source.value, Source.size]; try omega)
        | cons c rest =>
            by_cases hc : c = '='
            · subst hc
              simp [Source.value, Source.size]
            · simp [Source.value, Source.size]
  fromArgs args := by
    show Source.size ⟨.none, args⟩ ≤ _
    simp [Source.size]

end Lexopt

/-! ## The loops end -/

section Loops

variable {L : Lexopt} {size : L.Parser → Nat}

/-- A step that takes nothing back. -/
def Steady {σ : Type} (size : L.Parser → Nat)
    (step : σ → Arg → L.Parser → Except CliError σ × L.Parser) : Prop :=
  ∀ acc arg p, size (step acc arg p).2 ≤ size p

/-- The loop is given as much fuel as it takes. -/
theorem loop_ends (hL : L.Shrinks size) {σ : Type}
    {step : σ → Arg → L.Parser → Except CliError σ × L.Parser} (hstep : Steady size step)
    {fuel : Nat} {p : L.Parser} (hfuel : size p < fuel) (acc : σ) :
    ∃ r, parseLoop L step fuel p acc = some r := by
  induction fuel generalizing p acc with
  | zero => omega
  | succ fuel ih =>
      rcases hnext : (L.next p).1 with e | _ | arg
      · exact ⟨_, parseLoop_error fuel acc hnext⟩
      · exact ⟨_, parseLoop_end fuel acc hnext⟩
      · have hless := hL.next p arg hnext
        have hkeeps := hstep acc arg (L.next p).2
        rcases hs : step acc arg (L.next p).2 with ⟨e | acc', p'⟩
        · exact ⟨_, parseLoop_refuse fuel hnext hs⟩
        · rw [hs] at hkeeps
          rw [parseLoop_step fuel hnext hs]
          exact ih (by simp only [] at hkeeps; omega) acc'

theorem size_ite {α : Type} {c : Prop} [Decidable c] {x y : α × L.Parser} {n : Nat}
    (hx : size x.2 ≤ n) (hy : size y.2 ≤ n) : size (if c then x else y).2 ≤ n := by
  split_ifs
  · exact hx
  · exact hy

theorem steady_snapshot (hL : L.Shrinks size) : Steady size (snapshotStep L) := by
  have hvalue : ∀ p, size (pidListValue L p).2 ≤ size p := by
    intro p
    have hless := hL.value p
    unfold pidListValue
    rcases hv : L.value p with ⟨e | raw, p'⟩
    · rw [hv] at hless
      exact hless
    · rw [hv] at hless
      exact hless
  intro acc arg p
  unfold snapshotStep
  split
  · repeat' apply size_ite
    all_goals first
      | exact Nat.le_refl _
      | exact hvalue p
  · exact Nat.le_refl _
  · exact Nat.le_refl _

theorem steady_socketHolders : Steady size (socketHoldersStep L) := by
  intro acc arg p
  unfold socketHoldersStep
  split
  · repeat' apply size_ite
    all_goals exact Nat.le_refl _
  · repeat' apply size_ite
    all_goals exact Nat.le_refl _
  · exact Nat.le_refl _
  · exact Nat.le_refl _

theorem steady_host : Steady size (hostStep L) := by
  intro acc arg p
  unfold hostStep
  split
  · repeat' apply size_ite
    all_goals exact Nat.le_refl _
  · exact Nat.le_refl _
  · exact Nat.le_refl _

/-- The command line is read to an end. -/
theorem parse_ends (hL : L.Shrinks size) (args : List Bytes) : ∃ r, parse L args = some r := by
  have hstart := hL.fromArgs args
  unfold parse
  rcases hn : L.next (L.fromArgs args) with ⟨r, p⟩
  have hless : ∀ arg, r = .ok (some arg) → size p < parseFuel args := by
    rintro arg rfl
    have hnext := hL.next (L.fromArgs args) arg (by rw [hn])
    rw [hn] at hnext
    unfold parseFuel
    simp only [] at hnext
    omega
  rcases r with e | _ | arg
  · exact ⟨_, rfl⟩
  · exact ⟨_, rfl⟩
  · have hfuel := hless arg rfl
    cases arg with
    | value v =>
        -- the three verbs are three loops
        show ∃ r, (if v = ascii "snapshot" then _ else if v = ascii "socket-holders" then _
          else if v = ascii "host" then _
          else if v = ascii "help" ∨ v = ascii "--help" ∨ v = ascii "-h" then _ else _) = some r
        split_ifs
        · obtain ⟨r, hr⟩ := loop_ends hL (steady_snapshot hL) hfuel ⟨none, none, .default⟩
          exact ⟨_, by rw [parseSnapshot, hr]; rfl⟩
        · obtain ⟨r, hr⟩ := loop_ends hL steady_socketHolders hfuel ⟨none, false, false⟩
          exact ⟨_, by rw [parseSocketHolders, hr]; rfl⟩
        · obtain ⟨r, hr⟩ := loop_ends hL steady_host hfuel
            ⟨false, false, false, false, false, false⟩
          exact ⟨_, by rw [parseHost, hr]; rfl⟩
        · exact ⟨_, rfl⟩
        · exact ⟨_, rfl⟩
    | short c =>
        by_cases hc : c = 'h'
        · subst hc
          exact ⟨_, rfl⟩
        · split
          case h_6 => exact ⟨_, rfl⟩
          all_goals simp_all
    | long name =>
        show ∃ r, (if name = "help".toList then _ else _) = some r
        split_ifs
        · exact ⟨_, rfl⟩
        · exact ⟨_, rfl⟩

end Loops

/-! ## The scopes of a snapshot exclude one another -/

/-- At most one kind of scope was gathered. -/
def Exclusive (acc : SnapshotAcc) : Prop := acc.roots = none ∨ acc.pids = none

theorem exclusive_ite {L : Lexopt} {c : Prop} [Decidable c] {acc : SnapshotAcc}
    {x y : Except CliError SnapshotAcc × L.Parser} (hx : c → x.1 = .ok acc → Exclusive acc)
    (hy : ¬ c → y.1 = .ok acc → Exclusive acc) :
    (if c then x else y).1 = .ok acc → Exclusive acc := by
  split_ifs with h
  · exact hx h
  · exact hy h

theorem exclusive_step (L : Lexopt) {acc acc' : SnapshotAcc} (h : Exclusive acc) (arg : Arg)
    (p : L.Parser) : (snapshotStep L acc arg p).1 = .ok acc' → Exclusive acc' := by
  have hkeep : ∀ out, (Except.ok { acc with out := out } : Except CliError SnapshotAcc) = .ok acc' →
      Exclusive acc' := by
    intro out heq
    obtain rfl := Except.ok.inj heq
    exact h
  have hmap : ∀ gather : List Pid → SnapshotAcc, (pidListValue L p).1.map gather = .ok acc' →
      (∀ list, Exclusive (gather list)) → Exclusive acc' := by
    intro gather heq hgather
    rcases hv : (pidListValue L p).1 with e | list
    · rw [hv] at heq
      cases heq
    · rw [hv] at heq
      obtain rfl := Except.ok.inj heq
      exact hgather list
  unfold snapshotStep
  split
  · -- a scope is gathered where the other one is missing
    refine exclusive_ite (fun _ => exclusive_ite (fun _ heq => by cases heq) fun hpids heq => ?_)
      fun _ => exclusive_ite (fun _ => exclusive_ite (fun _ heq => by cases heq)
        fun hroots heq => ?_) fun _ => ?_
    · exact hmap _ heq fun _ => Or.inr (Option.not_isSome_iff_eq_none.mp hpids)
    · exact hmap _ heq fun _ => Or.inl (Option.not_isSome_iff_eq_none.mp hroots)
    · repeat' refine exclusive_ite (fun _ => ?_) (fun _ => ?_)
      all_goals intro heq
      all_goals first
        | exact hkeep _ heq
        | cases heq
  · exact fun heq => by cases heq
  · exact fun heq => by cases heq

/-- The loop keeps it, whatever the parser presents. -/
theorem exclusive_loop (L : Lexopt) {fuel : Nat} {p : L.Parser} {acc acc' : SnapshotAcc}
    (h : Exclusive acc) (hloop : parseLoop L (snapshotStep L) fuel p acc = some (.ok acc')) :
    Exclusive acc' := by
  induction fuel generalizing p acc with
  | zero => cases hloop
  | succ fuel ih =>
      rcases hnext : (L.next p).1 with e | _ | arg
      · rw [parseLoop_error fuel acc hnext] at hloop
        cases hloop
      · rw [parseLoop_end fuel acc hnext] at hloop
        cases hloop
        exact h
      · rcases hs : snapshotStep L acc arg (L.next p).2 with ⟨e | next, p'⟩
        · rw [parseLoop_refuse fuel hnext hs] at hloop
          cases hloop
        · rw [parseLoop_step fuel hnext hs] at hloop
          exact ih (exclusive_step L h arg _ (by rw [hs])) hloop

/-! ## The program -/

/-- The command is to be answered in JSON. -/
def Command.json : Command → Bool
  | snapshot args => args.json
  | socketHolders args => args.json
  | host args => args.json

section Program

variable {L : Lexopt} {F : FloatLib}

/-- What the program wrote starts with the version. -/
def Versioned (exit : Exit) : Prop := "V\t".toList.isPrefixOf (stdoutText exit.stdout) = true

theorem versioned_of_text {exit : Exit} {t : Text} (h : exit.stdout = Utf8.encode t)
    (ht : "V\t".toList.isPrefixOf t = true) : Versioned exit := by
  rw [Versioned, h, stdoutText_encode]
  exact ht

theorem emit_ends {D : Type} [Document D] (J : JsonLib) (writeJson : D → Text) (doc : D)
    (json : Bool) (htsv : "V\t".toList.isPrefixOf (writeTsv J doc) = true) :
    (emit J writeJson doc json).code < 2 ∧
      (json = false → Versioned (emit J writeJson doc json)) := by
  constructor
  · show exitCode doc < 2
    rcases exitCode_cases doc with h | h <;> omega
  · rintro rfl
    exact versioned_of_text rfl htsv

/-- How the program ends on a command line that was read. -/
theorem run_ends (J : JsonLib) (W : JsonWriters F) (platform : Platform F)
    (r : Except CliError Command) :
    (run J W platform r).code ≤ 2 ∧
    ((run J W platform r).code = 2 ↔ ∃ message, r = .error (.usage message)) ∧
    ((∀ command, r = .ok command → command.json = false) → Versioned (run J W platform r)) := by
  rcases r with (message | message) | command
  · exact ⟨Nat.le_refl 2, iff_of_true rfl ⟨message, rfl⟩, fun _ => versioned_of_text rfl rfl⟩
  · exact ⟨Nat.zero_le 2, iff_of_false nofun nofun, fun _ => versioned_of_text rfl rfl⟩
  · have hends : (run J W platform (.ok command)).code < 2 ∧
        (command.json = false → Versioned (run J W platform (.ok command))) := by
      cases command with
      | snapshot args => exact emit_ends J W.snapshot _ args.json rfl
      | socketHolders args => exact emit_ends J W.socketHolders _ args.json rfl
      | host args => exact emit_ends J W.host _ args.json rfl
    obtain ⟨hcode, hversion⟩ := hends
    exact ⟨by omega, iff_of_false (by omega) nofun, fun h => hversion (h command rfl)⟩

end Program

end Osfacts
