import Osfacts.Rust.Text

set_option autoImplicit false

/-! # The argument parser

The command line is read through a third-party parser, which is a parameter here: a type of
parsers, `next` for the next argument, and `value` for the value of the option just read.
`Lexopt.Lawful` are its published rules on arguments that are text, and `Lexopt.standard` is
an instance of them.
-/

namespace Osfacts

/-- One argument as the parser presents it. -/
inductive Arg where
  | short (c : Char)
  | long (name : Text)
  | value (v : Bytes)
  deriving DecidableEq, Repr

/-- The parser. Its errors are known by what they display. -/
structure Lexopt where
  Parser : Type
  fromArgs : List Bytes → Parser
  next : Parser → Except Text (Option Arg) × Parser
  value : Parser → Except Text Bytes × Parser
  debugArg : Arg → Text

namespace Lexopt

/-- An argument that is no option: it does not start with `-`, or is a lone `-`. -/
def Positional (t : Text) : Prop := t.head? ≠ some '-' ∨ t = ['-']

instance (t : Text) : Decidable (Positional t) := inferInstanceAs (Decidable (_ ∨ _))

/-- The published rules. `ready p args`: the arguments left are `args`, and nothing is
pending. `finished p args`: the same, after `--`. `pending p`: the value of `--name=value`
was not taken. -/
structure Lawful (L : Lexopt) (ready finished : L.Parser → List Bytes → Prop)
    (pending : L.Parser → Prop) : Prop where
  fromArgs (args : List Bytes) : ready (L.fromArgs args) args
  next_end (p : L.Parser) : ready p [] → (L.next p).1 = .ok none
  next_value (p : L.Parser) (t : Text) (rest : List Bytes) : Positional t →
    ready p (Utf8.encode t :: rest) →
    (L.next p).1 = .ok (some (.value (Utf8.encode t))) ∧ ready (L.next p).2 rest
  next_long (p : L.Parser) (name : Text) (rest : List Bytes) : name ≠ [] → '=' ∉ name →
    ready p (Utf8.encode ("--".toList ++ name) :: rest) →
    (L.next p).1 = .ok (some (.long name)) ∧ ready (L.next p).2 rest
  next_long_value (p : L.Parser) (name v : Text) (rest : List Bytes) : '=' ∉ name →
    ready p (Utf8.encode ("--".toList ++ name ++ '=' :: v) :: rest) →
    (L.next p).1 = .ok (some (.long name)) ∧ pending (L.next p).2
  next_pending (p : L.Parser) : pending p → ∃ e, (L.next p).1 = .error e
  next_short (p : L.Parser) (c : Char) (t : Text) (rest : List Bytes) : c ≠ '-' →
    ready p (Utf8.encode ('-' :: c :: t) :: rest) → (L.next p).1 = .ok (some (.short c))
  next_terminator_end (p : L.Parser) : ready p [Utf8.encode "--".toList] →
    (L.next p).1 = .ok none
  next_terminator (p : L.Parser) (a : Bytes) (rest : List Bytes) :
    ready p (Utf8.encode "--".toList :: a :: rest) →
    (L.next p).1 = .ok (some (.value a)) ∧ finished (L.next p).2 rest
  next_finished_end (p : L.Parser) : finished p [] → (L.next p).1 = .ok none
  value_next (p : L.Parser) (a : Bytes) (rest : List Bytes) : ready p (a :: rest) →
    (L.value p).1 = .ok a ∧ ready (L.value p).2 rest

/-! ## An instance -/

/-- What is pending between two calls. -/
inductive State where
  | none
  | pendingValue (v : Bytes)
  | shorts (rest : Text)
  | finishedOpts

/-- The state of the parser and the arguments left. -/
structure Source where
  state : State
  args : List Bytes

namespace Source

/-- `next` after `--`. -/
def nextPositional : List Bytes → Except Text (Option Arg) × Source
  | [] => (.ok Option.none, ⟨.finishedOpts, []⟩)
  | a :: rest => (.ok (some (.value a)), ⟨.finishedOpts, rest⟩)

/-- `next` with nothing pending. -/
def nextFresh : List Bytes → Except Text (Option Arg) × Source
  | [] => (.ok Option.none, ⟨.none, []⟩)
  | a :: rest =>
      match fromUtf8Lossy a with
      | '-' :: '-' :: [] => nextPositional rest
      | '-' :: '-' :: option =>
          if '=' ∈ option then
            (.ok (some (.long (option.takeWhile (· ≠ '=')))),
              ⟨.pendingValue ((a.dropWhile (· ≠ 0x3D)).drop 1), rest⟩)
          else (.ok (some (.long option)), ⟨.none, rest⟩)
      | '-' :: c :: shorts => (.ok (some (.short c)), ⟨.shorts shorts, rest⟩)
      | _ => (.ok (some (.value a)), ⟨.none, rest⟩)

def next (p : Source) : Except Text (Option Arg) × Source :=
  match p.state with
  | .none => nextFresh p.args
  | .finishedOpts => nextPositional p.args
  | .pendingValue _ => (.error "unexpected argument".toList, ⟨.none, p.args⟩)
  | .shorts [] => nextFresh p.args
  | .shorts ('=' :: _) => (.error "unexpected argument".toList, ⟨.none, p.args⟩)
  | .shorts (c :: shorts) => (.ok (some (.short c)), ⟨.shorts shorts, p.args⟩)

def value (p : Source) : Except Text Bytes × Source :=
  match p.state, p.args with
  | .pendingValue v, args => (.ok v, ⟨.none, args⟩)
  | .shorts ('=' :: v), args => (.ok (Utf8.encode v), ⟨.none, args⟩)
  | .shorts (c :: v), args => (.ok (Utf8.encode (c :: v)), ⟨.none, args⟩)
  | .finishedOpts, a :: args => (.ok a, ⟨.finishedOpts, args⟩)
  | _, a :: args => (.ok a, ⟨.none, args⟩)
  | _, [] => (.error "missing argument".toList, p)

end Source

def standard : Lexopt where
  Parser := Source
  fromArgs args := ⟨.none, args⟩
  next := Source.next
  value := Source.value
  debugArg
    | .short c => "Short(".toList ++ [c] ++ ")".toList
    | .long name => "Long(".toList ++ name ++ ")".toList
    | .value v => "Value(".toList ++ fromUtf8Lossy v ++ ")".toList

theorem nextFresh_positional {t : Text} (rest : List Bytes) (h : Positional t) :
    Source.nextFresh (Utf8.encode t :: rest)
      = (.ok (some (.value (Utf8.encode t))), ⟨.none, rest⟩) := by
  rw [Source.nextFresh, lossy_of_text]
  rcases h with h | rfl
  · cases t with
    | nil => rfl
    | cons c t =>
        have hc : c ≠ '-' := fun hc => h (by rw [hc]; rfl)
        split
        case h_1 heq => exact absurd (List.cons.inj heq).1 hc
        case h_2 heq => exact absurd (List.cons.inj heq).1 hc
        case h_3 heq => exact absurd (List.cons.inj heq).1 hc
        case h_4 => rfl
  · rfl

theorem nextFresh_long {name : Text} (rest : List Bytes) (hne : name ≠ []) (h : '=' ∉ name) :
    Source.nextFresh (Utf8.encode ("--".toList ++ name) :: rest)
      = (.ok (some (.long name)), ⟨.none, rest⟩) := by
  rw [Source.nextFresh, lossy_of_text]
  cases name with
  | nil => exact absurd rfl hne
  | cons c name =>
      show (if '=' ∈ c :: name then _ else _) = _
      rw [if_neg h]
      rfl

theorem nextFresh_long_value {name v : Text} (rest : List Bytes) (h : '=' ∉ name) :
    ∃ bytes, Source.nextFresh (Utf8.encode ("--".toList ++ name ++ '=' :: v) :: rest)
      = (.ok (some (.long name)), ⟨.pendingValue bytes, rest⟩) := by
  have hall : ∀ c ∈ name, (decide (c ≠ '=')) = true := by
    intro c hc
    rw [decide_eq_true_iff]
    rintro rfl
    exact h hc
  have htake : (name ++ '=' :: v).takeWhile (fun c => decide (c ≠ '=')) = name := by
    rw [List.takeWhile_append_of_pos hall]
    simp
  refine ⟨((Utf8.encode ("--".toList ++ name ++ '=' :: v)).dropWhile (· ≠ 0x3D)).drop 1, ?_⟩
  rw [Source.nextFresh, lossy_of_text, List.append_assoc]
  cases hname : name ++ '=' :: v with
  | nil => simp at hname
  | cons c option =>
      have hmem : '=' ∈ c :: option := by
        rw [← hname]
        simp
      rw [hname] at htake
      show (if '=' ∈ c :: option then
        (Except.ok (some (Arg.long ((c :: option).takeWhile (fun c => decide (c ≠ '='))))), _)
        else _) = _
      rw [if_pos hmem, htake]

theorem nextFresh_short {c : Char} (t : Text) (rest : List Bytes) (h : c ≠ '-') :
    Source.nextFresh (Utf8.encode ('-' :: c :: t) :: rest)
      = (.ok (some (.short c)), ⟨.shorts t, rest⟩) := by
  rw [Source.nextFresh, lossy_of_text]
  split
  case h_1 heq => exact absurd (List.cons.inj (List.cons.inj heq).2).1 h
  case h_2 heq => exact absurd (List.cons.inj (List.cons.inj heq).2).1 h
  case h_3 heq =>
      obtain ⟨rfl, rfl⟩ := List.cons.inj (List.cons.inj heq).2
      rfl
  case h_4 _ _ hshort => exact absurd rfl (hshort c t)

theorem standard_lawful :
    standard.Lawful (fun p args => p = ⟨.none, args⟩) (fun p args => p = ⟨.finishedOpts, args⟩)
      (fun p => ∃ v args, p = ⟨.pendingValue v, args⟩) where
  fromArgs args := rfl
  next_end := by
    rintro p rfl
    rfl
  next_value := by
    rintro p t rest ht rfl
    show (Source.nextFresh (Utf8.encode t :: rest)).1 = _ ∧ _ = _
    rw [nextFresh_positional rest ht]
    exact ⟨rfl, congrArg Prod.snd (nextFresh_positional rest ht)⟩
  next_long := by
    rintro p name rest hne hname rfl
    exact ⟨congrArg Prod.fst (nextFresh_long rest hne hname),
      congrArg Prod.snd (nextFresh_long rest hne hname)⟩
  next_long_value := by
    rintro p name v rest hname rfl
    obtain ⟨bytes, h⟩ := nextFresh_long_value (v := v) rest hname
    exact ⟨congrArg Prod.fst h, bytes, rest, congrArg Prod.snd h⟩
  next_pending := by
    rintro p ⟨v, args, rfl⟩
    exact ⟨_, rfl⟩
  next_short := by
    rintro p c t rest hc rfl
    exact congrArg Prod.fst (nextFresh_short t rest hc)
  next_terminator_end := by
    rintro p rfl
    show (Source.nextFresh [Utf8.encode "--".toList]).1 = _
    rw [Source.nextFresh, lossy_of_text]
    rfl
  next_terminator := by
    rintro p a rest rfl
    have h : Source.nextFresh (Utf8.encode "--".toList :: a :: rest)
        = (.ok (some (.value a)), ⟨.finishedOpts, rest⟩) := by
      rw [Source.nextFresh, lossy_of_text]
      rfl
    exact ⟨congrArg Prod.fst h, congrArg Prod.snd h⟩
  next_finished_end := by
    rintro p rfl
    rfl
  value_next := by
    rintro p a rest rfl
    exact ⟨rfl, rfl⟩

end Lexopt

end Osfacts
