import Osc.Codec
import Osc.Proofs.Reading

/-!
What writing refuses, and how. A value that has no wire form is refused with a fault of
encoding, with three exceptions: a surrogate in an address or a string is named as such, a
time tag of a bundle that is in range without being whole fails when it is packed, and so
does an element of a bundle that is too long for its size. The exceptions are described
here without the writer's faults, and writing gives another fault than one of encoding
exactly where one of them is met first.
-/

namespace Osc.Wire

/-- What a message reports as a fault of its own: faults of encoding and those of fields. -/
def Reported (fault : Fault) : Prop :=
  (∃ cause, fault = .encode cause) ∨ ∃ cause, fault = .field cause

/-- A row of arguments with a text that has no UTF-8 form, all before it being written. -/
inductive Unwritable : List Value → Utf8.SurrogateRun → Prop where
  | text {t : Text} {rest : List Value} {run : Utf8.SurrogateRun} (nonzero : 0 ∉ t)
      (refused : Utf8.encode t = .error run) : Unwritable (.scalar .string (.text t) :: rest) run
  | inside {items rest : List Value} {run : Utf8.SurrogateRun} (inner : Unwritable items run) :
      Unwritable (.array items :: rest) run
  | later {v : Value} {rest : List Value} {run : Utf8.SurrogateRun} {payload : Payload}
      (written : encodeArgument v = .ok payload) (others : Unwritable rest run) :
      Unwritable (v :: rest) run

/-- A time tag in range that is not whole, which is noticed only when it is packed. -/
def IsBroken (v : Value) : Prop :=
  ∃ seconds fractional, v = .time seconds fractional ∧
    allInRange word32Max [seconds, fractional] = .ok true ∧
      ((∃ x, seconds = .float x) ∨ ∃ x, fractional = .float x)

/-- A packet that can be an element of a bundle. -/
def IsElement (v : Value) : Prop := ∃ data, encode v = .ok data ∧ data.length < 2 ^ 31

/-- The faults that writing gives beside those of encoding, each with the place in the
packet that it comes from. -/
inductive Escapes : Value → Fault → Prop where
  | argument {t : Text} {arguments : List Value} {run : Utf8.SurrogateRun}
      (slashed : t.head? = some slash) (unwritable : Unwritable arguments run) :
      Escapes (.message (.text t) arguments) (.surrogates run)
  | address {t : Text} {arguments : List Value} {payload : Payload} {run : Utf8.SurrogateRun}
      (slashed : t.head? = some slash) (written : encodeArguments arguments = .ok payload)
      (nonzero : 0 ∉ t) (refused : Utf8.encode t = .error run) :
      Escapes (.message (.text t) arguments) (.surrogates run)
  | timetag {timetag : Value} {content : List Value} (broken : IsBroken timetag) :
      Escapes (.bundle timetag content) (.pack .notInteger)
  | size {timetag v : Value} {before after : List Value} {time data : Bytes}
      (timed : encodeTimetag timetag = .ok time) (fine : ∀ w ∈ before, IsElement w)
      (written : encode v = .ok data) (long : 2 ^ 31 ≤ data.length) :
      Escapes (.bundle timetag (before ++ v :: after)) (.pack .outsideInt32)
  | element {timetag v : Value} {before after : List Value} {time : Bytes} {fault : Fault}
      (timed : encodeTimetag timetag = .ok time) (fine : ∀ w ∈ before, IsElement w)
      (inner : Escapes v fault) : Escapes (.bundle timetag (before ++ v :: after)) fault

theorem error_of_bind {x : Except ε α} {f : α → Except ε β} {e : ε} (h : (x >>= f) = .error e) :
    x = .error e ∨ ∃ a, x = .ok a ∧ f a = .error e := by
  cases x with
  | error e' =>
    cases h
    exact .inl rfl
  | ok a => exact .inr ⟨a, rfl, h⟩

theorem error_of_map {x : Except ε α} {f : α → β} {e : ε} (h : f <$> x = .error e) :
    x = .error e := by
  cases x with
  | error e' =>
    cases h
    rfl
  | ok a => cases h

theorem error_of_mapError {x : Except ε α} {f : ε → δ} {e : δ} (h : x.mapError f = .error e) :
    ∃ cause, x = .error cause ∧ e = f cause := by
  cases x with
  | error cause => exact ⟨cause, rfl, (Except.error.inj h).symm⟩
  | ok a => cases h

/-- Faults of fields are reported. -/
theorem Reported.of_field {x : Except FieldFault α} {fault : Fault}
    (h : x.mapError .field = .error fault) : Reported fault := by
  obtain ⟨cause, -, rfl⟩ := error_of_mapError h
  exact .inr ⟨cause, rfl⟩

private theorem encodeText_error {t : Text} {fault : Fault} (h : encodeText t = .error fault) :
    (∃ cause, fault = .encode cause) ∨
      ∃ run, 0 ∉ t ∧ Utf8.encode t = .error run ∧ fault = .surrogates run := by
  unfold encodeText at h
  split at h
  · cases h
    exact .inl ⟨_, rfl⟩
  · next clean =>
    rw [List.contains_iff_mem] at clean
    split at h
    · cases h
    · next run refused =>
      cases h
      exact .inr ⟨run, clean, refused, rfl⟩

private theorem encodeText_surrogates {t : Text} {run : Utf8.SurrogateRun} (nonzero : 0 ∉ t)
    (refused : Utf8.encode t = .error run) : encodeText t = .error (.surrogates run) := by
  have clean : ¬ t.contains 0 = true := by
    rw [List.contains_iff_mem]
    exact nonzero
  rw [encodeText, if_neg clean, refused]

/-- Values other than text have no string form, for the sake of a type or of a NUL. -/
theorem encodeString_other {v : Value} {fault : Fault} (other : ∀ t, v ≠ .text t)
    (h : encodeString v = .error fault) : Reported fault := by
  unfold encodeString at h
  split at h
  case h_1 t => exact absurd rfl (other t)
  case h_4 | h_5 =>
    split at h
    · cases h
      exact .inl ⟨_, rfl⟩
    · cases h
      exact .inr ⟨_, rfl⟩
  all_goals
    cases h
    exact .inr ⟨_, rfl⟩

private theorem encodeChar_error {v : Value} {fault : Fault} (h : encodeChar v = .error fault) :
    Reported fault := by
  unfold encodeChar at h
  split at h
  case h_2 | h_3 | h_4 => cases h
  case h_6 =>
    cases h
    exact .inl ⟨_, rfl⟩
  all_goals
    cases h
    exact .inr ⟨_, rfl⟩

private theorem encodeQuad_error {kind : QuadKind} {components : List Value} {fault : Fault}
    (h : encodeQuad kind components = .error fault) : Reported fault := by
  unfold encodeQuad at h
  rcases error_of_bind h with unordered | ⟨inside, -, h⟩
  · exact .of_field unordered
  · cases inside with
    | true => exact .of_field h
    | false =>
      cases h
      exact .inl ⟨_, rfl⟩

/-- What lies in a range is an integer or a float. -/
theorem number_of_inRange {limit : Int} {v : Value} (inside : inRange limit v = .ok true) :
    (∃ n, integer v = .ok n) ∨ ∃ x, v = .float x := by
  cases v with
  | float x => exact .inr ⟨x, rfl⟩
  | bool b => exact .inl ⟨_, rfl⟩
  | int n => exact .inl ⟨n, rfl⟩
  | _ => cases inside

theorem float_of_inRange {limit : Int} {v : Value} {fault : Fault}
    (inside : inRange limit v = .ok true) (broken : (integer v).mapError .field = .error fault) :
    (∃ x, v = .float x) ∧ fault = .pack .notInteger := by
  rcases number_of_inRange inside with ⟨n, whole⟩ | ⟨x, rfl⟩
  · rw [whole] at broken
    cases broken
  · cases broken
    exact ⟨⟨x, rfl⟩, rfl⟩

private theorem inRange_error {limit : Int} {v : Value} {cause : FieldFault}
    (h : inRange limit v = .error cause) : ∃ fault, cause = .type fault := by
  unfold inRange at h
  split at h
  · cases h
  · split at h
    · cases h
    · cases h
  · cases h
    exact ⟨_, rfl⟩

theorem allInRange_cons {limit : Int} {v : Value} {rest : List Value}
    (h : allInRange limit (v :: rest) = .ok true) :
    inRange limit v = .ok true ∧ allInRange limit rest = .ok true := by
  rw [allInRange] at h
  obtain ⟨inside, asked, h⟩ := ok_of_bind h
  cases inside with
  | true => exact ⟨asked, h⟩
  | false => cases h

private theorem allInRange_error {limit : Int} {vs : List Value} {cause : FieldFault}
    (h : allInRange limit vs = .error cause) : ∃ fault, cause = .type fault := by
  induction vs with
  | nil => cases h
  | cons v vs ih =>
    rw [allInRange] at h
    rcases error_of_bind h with unordered | ⟨inside, -, h⟩
    · exact inRange_error unordered
    · cases inside with
      | true => exact ih h
      | false => cases h

private theorem encodeTimetag_broken {v : Value} (broken : IsBroken v) :
    encodeTimetag v = .error (.pack .notInteger) := by
  obtain ⟨seconds, fractional, rfl, inside, floating⟩ := broken
  simp only [encodeTimetag, inside, Except.mapError, bind_ok, if_true]
  rcases number_of_inRange (allInRange_cons inside).1 with ⟨n, whole⟩ | ⟨x, rfl⟩
  · rcases floating with ⟨x, rfl⟩ | ⟨x, rfl⟩
    · cases whole
    · rw [whole]
      rfl
  · rfl

private theorem encodeTimetag_error {v : Value} {fault : Fault}
    (h : encodeTimetag v = .error fault) :
    (∃ cause, fault = .encode cause) ∨ (∃ cause, fault = .field (.type cause)) ∨
      (∃ owner name, fault = .field (.attribute owner name)) ∨
        IsBroken v ∧ fault = .pack .notInteger := by
  unfold encodeTimetag at h
  split at h
  · next seconds fractional =>
    rcases error_of_bind h with unordered | ⟨inside, asked, h⟩
    · obtain ⟨cause, asked, rfl⟩ := error_of_mapError unordered
      obtain ⟨fault, rfl⟩ := allInRange_error asked
      exact .inr (.inl ⟨fault, rfl⟩)
    · cases inside with
      | false =>
        cases h
        exact .inl ⟨_, rfl⟩
      | true =>
        have inside := mapError_eq_ok.mp asked
        obtain ⟨first, rest⟩ := allInRange_cons inside
        obtain ⟨second, -⟩ := allInRange_cons rest
        rcases error_of_bind h with broken | ⟨n, -, h⟩
        · obtain ⟨floating, rfl⟩ := float_of_inRange first broken
          exact .inr (.inr (.inr ⟨⟨_, _, rfl, inside, .inl floating⟩, rfl⟩))
        · rcases error_of_bind h with broken | ⟨m, -, h⟩
          · obtain ⟨floating, rfl⟩ := float_of_inRange second broken
            exact .inr (.inr (.inr ⟨⟨_, _, rfl, inside, .inr floating⟩, rfl⟩))
          · cases h
  · cases h
    exact .inr (.inr (.inl ⟨_, _, rfl⟩))

private theorem encodeTimetag_reported {v : Value} {fault : Fault}
    (h : encodeTimetag v = .error fault) : Reported fault := by
  rcases encodeTimetag_error h with ⟨cause, rfl⟩ | ⟨cause, rfl⟩ | ⟨owner, name, rfl⟩ | ⟨-, rfl⟩
  · exact .inl ⟨cause, rfl⟩
  · exact .inr ⟨_, rfl⟩
  · exact .inr ⟨_, rfl⟩
  · exact .inr ⟨_, rfl⟩

/-- Of the scalars only a string is refused with more than what is reported. -/
theorem encodeScalar_error {kind : ScalarKind} {v : Value} {fault : Fault}
    (h : encodeScalar kind v = .error fault) :
    Reported fault ∨ ∃ t run, kind = .string ∧ v = .text t ∧ 0 ∉ t ∧
      Utf8.encode t = .error run ∧ fault = .surrogates run := by
  cases kind with
  | int | float | long | double => exact .inl (.of_field (error_of_map h))
  | time => exact .inl (encodeTimetag_reported (error_of_map h))
  | char => exact .inl (encodeChar_error (error_of_map h))
  | bool => cases h
  | string =>
    have refused := error_of_map h
    by_cases text : ∃ t, v = .text t
    · obtain ⟨t, rfl⟩ := text
      refine (encodeText_error refused).imp .inl ?_
      rintro ⟨run, nonzero, unwritten, rfl⟩
      exact ⟨t, run, rfl, rfl, nonzero, unwritten, rfl⟩
    · exact .inl (encodeString_other (fun t same => text ⟨t, same⟩) refused)

theorem Unwritable.cons {v : Value} {run : Utf8.SurrogateRun} (h : Unwritable [v] run)
    (rest : List Value) : Unwritable (v :: rest) run := by
  cases h with
  | text nonzero refused => exact .text nonzero refused
  | inside inner => exact .inside inner
  | later written others => cases others

mutual

/-- An argument is refused with what is reported, or for a text in it. -/
theorem encodeArgument_error {fault : Fault} : (v : Value) → encodeArgument v = .error fault →
    Reported fault ∨ ∃ run, Unwritable [v] run ∧ fault = .surrogates run
  | .scalar kind v, h => by
    rw [encodeArgument] at h
    refine (encodeScalar_error h).imp_right ?_
    rintro ⟨t, run, rfl, rfl, nonzero, refused, rfl⟩
    exact ⟨run, .text nonzero refused, rfl⟩
  | .quad .color .., h | .quad .midi .., h => .inl (encodeQuad_error (error_of_map h))
  | .blob data, h => .inl (.of_field (error_of_map h))
  | .array items, h => by
    rw [encodeArgument] at h
    refine (encodeArguments_error items (error_of_map h)).imp_right ?_
    rintro ⟨run, unwritable, rfl⟩
    exact ⟨run, .inside unwritable, rfl⟩
  | .nil, h | .infinitum, h => by cases h
  | .none, h | .bool _, h | .int _, h | .float _, h | .text _, h | .bytes .., h | .list _, h
  | .tuple _, h | .foreign _, h | .time .., h | .message .., h | .bundle .., h => by
    cases h
    exact .inl (.inl ⟨_, rfl⟩)

private theorem encodeArguments_error {fault : Fault} : (vs : List Value) →
    encodeArguments vs = .error fault →
      Reported fault ∨ ∃ run, Unwritable vs run ∧ fault = .surrogates run
  | [], h => by cases h
  | v :: rest, h => by
    rw [encodeArguments] at h
    rcases error_of_bind h with refused | ⟨payload, written, h⟩
    · refine (encodeArgument_error v refused).imp_right ?_
      rintro ⟨run, unwritable, rfl⟩
      exact ⟨run, unwritable.cons rest, rfl⟩
    · rcases error_of_bind h with refused | ⟨more, -, h⟩
      · refine (encodeArguments_error rest refused).imp_right ?_
        rintro ⟨run, unwritable, rfl⟩
        exact ⟨run, .later written unwritable, rfl⟩
      · cases h

end

private theorem encodeArguments_surrogates {vs : List Value} {run : Utf8.SurrogateRun}
    (h : Unwritable vs run) : encodeArguments vs = .error (.surrogates run) := by
  induction h with
  | text nonzero refused =>
    rw [encodeArguments, encodeArgument, encodeScalar, encodeString,
      encodeText_surrogates nonzero refused]
    rfl
  | inside inner ih =>
    rw [encodeArguments, encodeArgument, ih]
    rfl
  | later written others ih =>
    rw [encodeArguments, written, bind_ok, ih]
    rfl

/-- Everything else that a message is refused for is a fault of encoding. -/
theorem encodeMessage_error {address : Value} {arguments : List Value} {fault : Fault}
    (h : encode (.message address arguments) = .error fault)
    (other : ∀ cause, fault ≠ .encode cause) : Escapes (.message address arguments) fault := by
  rw [encode] at h
  unfold encodeMessage at h
  split at h
  · next t =>
    split at h
    · next slashed =>
      rcases error_of_bind h with refused | ⟨payload, written, h⟩
      · obtain ⟨cause, unwritten, rfl⟩ := error_of_mapError refused
        rcases encodeArguments_error arguments unwritten with
          (⟨cause, rfl⟩ | ⟨cause, rfl⟩) | ⟨run, unwritable, rfl⟩
        · exact absurd rfl (other cause)
        · exact absurd rfl (other _)
        · exact .argument slashed unwritable
      · rcases error_of_bind h with refused | ⟨head, -, h⟩
        · rcases encodeText_error refused with ⟨cause, rfl⟩ | ⟨run, nonzero, unwritten, rfl⟩
          · exact absurd rfl (other cause)
          · exact .address slashed (mapError_eq_ok.mp written) nonzero unwritten
        · cases h
    · cases h
      exact absurd rfl (other _)
  · cases h
    exact absurd rfl (other _)

/-- A time tag is refused with a fault of encoding unless it is broken. -/
theorem inTimetag_error {v : Value} {fault : Fault}
    (h : (encodeTimetag v).mapError (inTimetag v) = .error fault) :
    (∃ cause, fault = .encode cause) ∨ IsBroken v ∧ fault = .pack .notInteger := by
  obtain ⟨cause, refused, rfl⟩ := error_of_mapError h
  rcases encodeTimetag_error refused with ⟨cause, rfl⟩ | ⟨cause, rfl⟩ | ⟨owner, name, rfl⟩ | broken
  · exact .inl ⟨cause, rfl⟩
  · exact .inl ⟨_, rfl⟩
  · exact .inl ⟨_, rfl⟩
  · obtain ⟨broken, rfl⟩ := broken
    exact .inr ⟨broken, rfl⟩

private theorem framed_error {element : Bytes} {fault : Fault} (h : framed element = .error fault) :
    2 ^ 31 ≤ element.length ∧ fault = .pack .outsideInt32 := by
  unfold framed at h
  split at h
  · cases h
  · next long =>
    cases h
    exact ⟨not_lt.mp long, rfl⟩

/-- The first of some elements that cannot be one, with the fault that it brings. -/
inductive Stops : List Value → Fault → Prop where
  | inner {before after : List Value} {v : Value} {fault : Fault}
      (fine : ∀ w ∈ before, IsElement w) (refused : encode v = .error fault) :
      Stops (before ++ v :: after) fault
  | long {before after : List Value} {v : Value} {data : Bytes}
      (fine : ∀ w ∈ before, IsElement w) (written : encode v = .ok data)
      (long : 2 ^ 31 ≤ data.length) : Stops (before ++ v :: after) (.pack .outsideInt32)

theorem Stops.cons {v : Value} {rest : List Value} {fault : Fault} (fine : IsElement v)
    (h : Stops rest fault) : Stops (v :: rest) fault := by
  cases h with
  | inner others refused =>
    rw [← List.cons_append]
    exact .inner (List.forall_mem_cons.mpr ⟨fine, others⟩) refused
  | long others written long =>
    rw [← List.cons_append]
    exact .long (List.forall_mem_cons.mpr ⟨fine, others⟩) written long

private theorem encodeElements_error {content : List Value} {fault : Fault}
    (h : encodeElements content = .error fault) : Stops content fault := by
  induction content with
  | nil => cases h
  | cons v rest ih =>
    rw [encodeElements] at h
    rcases error_of_bind h with refused | ⟨element, written, h⟩
    · rw [← List.nil_append (v :: rest)]
      exact .inner (by simp) refused
    · rcases error_of_bind h with refused | ⟨first, sized, h⟩
      · obtain ⟨long, rfl⟩ := framed_error refused
        rw [← List.nil_append (v :: rest)]
        exact .long (by simp) written long
      · rcases error_of_bind h with refused | ⟨more, -, h⟩
        · have short : element.length < 2 ^ 31 := by
            by_contra long
            rw [framed, if_neg long] at sized
            cases sized
          exact (ih refused).cons ⟨element, written, short⟩
        · cases h

theorem encodeElements_stops {content : List Value} {fault : Fault} (h : Stops content fault) :
    encodeElements content = .error fault := by
  have skip {before after : List Value} (fine : ∀ w ∈ before, IsElement w)
      (refused : encodeElements after = .error fault) :
      encodeElements (before ++ after) = .error fault := by
    induction before with
    | nil => exact refused
    | cons w before ih =>
      obtain ⟨⟨data, written, short⟩, others⟩ := List.forall_mem_cons.mp fine
      rw [List.cons_append, encodeElements, written, bind_ok, framed, if_pos short, bind_ok,
        ih others]
      rfl
  cases h with
  | inner fine refused =>
    apply skip fine
    rw [encodeElements, refused]
    rfl
  | long fine written long =>
    apply skip fine
    rw [encodeElements, written, bind_ok, framed, if_neg (not_lt.mpr long)]
    rfl

/-- A fault other than one of encoding escapes from where it is described. -/
theorem escapes_of_encode {fault : Fault} (other : ∀ cause, fault ≠ .encode cause) :
    (v : Value) → encode v = .error fault → Escapes v fault
  | .message address arguments, h => encodeMessage_error h other
  | .bundle timetag content, h => by
    rw [encode] at h
    rcases error_of_bind h with refused | ⟨time, timed, h⟩
    · rcases inTimetag_error refused with ⟨cause, rfl⟩ | ⟨broken, rfl⟩
      · exact absurd rfl (other cause)
      · exact .timetag broken
    · rcases error_of_bind h with refused | ⟨elements, -, h⟩
      · have timed := mapError_eq_ok.mp timed
        cases encodeElements_error refused with
        | @inner before after v _ fine refused =>
          have smaller : sizeOf v < sizeOf (before ++ v :: after) :=
            List.sizeOf_lt_of_mem (by simp)
          exact .element timed fine (escapes_of_encode other v refused)
        | long fine written long => exact .size timed fine written long
      · cases h
  | .none, h | .bool _, h | .int _, h | .float _, h | .text _, h | .bytes .., h | .list _, h
  | .tuple _, h | .foreign _, h | .scalar .., h | .quad .., h | .blob _, h | .nil, h
  | .infinitum, h | .array _, h | .time .., h => by
    cases h
    exact absurd rfl (other _)
termination_by v => sizeOf v
decreasing_by
  subst_vars
  simp only [Value.bundle.sizeOf_spec]
  omega

theorem encode_of_escapes {v : Value} {fault : Fault} (h : Escapes v fault) :
    encode v = .error fault ∧ ∀ cause, fault ≠ .encode cause := by
  induction h with
  | argument slashed unwritable =>
    rw [encode, encodeMessage, if_pos slashed, encodeArguments_surrogates unwritable]
    exact ⟨rfl, by simp⟩
  | address slashed written nonzero refused =>
    rw [encode, encodeMessage, if_pos slashed, written, encodeText_surrogates nonzero refused]
    exact ⟨rfl, by simp⟩
  | timetag broken =>
    rw [encode, encodeTimetag_broken broken]
    exact ⟨rfl, by simp⟩
  | size timed fine written long =>
    rw [encode, timed, encodeElements_stops (.long fine written long)]
    exact ⟨rfl, by simp⟩
  | element timed fine inner ih =>
    rw [encode, timed, encodeElements_stops (.inner fine ih.1)]
    exact ⟨rfl, ih.2⟩

end Osc.Wire

namespace Osc.Codec

open Text (ofString)

/-- Writing gives bytes or a fault of encoding, unless a fault escapes: a surrogate, a time
tag of a bundle that is in range and not whole, or an element that is too long. -/
theorem osc_encode_error_iff (v : Value) (fault : Fault) :
    (osc.encode v = .error fault ∧ ∀ cause, fault ≠ .encode cause) ↔ Wire.Escapes v fault :=
  ⟨fun h => Wire.escapes_of_encode h.2 v h.1, Wire.encode_of_escapes⟩

/-- One and a half. -/
def oneHalfMore : Floating.Binary64 := .ofWord .double 0x3FF8000000000000

private theorem isBroken_oneHalfMore : Wire.IsBroken (.time (.float oneHalfMore) (.int 0)) := by
  have inside : ((Floating.Extent.ofInt 0).le (.units oneHalfMore.units) &&
      (Floating.Extent.units oneHalfMore.units).le (.ofInt Wire.word32Max)) = true := by
    decide +kernel
  have first : Wire.inRange Wire.word32Max (.float oneHalfMore) = .ok true :=
    congrArg Except.ok inside
  refine ⟨_, _, rfl, ?_, .inl ⟨_, rfl⟩⟩
  rw [Wire.allInRange, first]
  rfl

/-- A surrogate in a string, and half a second in the time tag of a bundle. -/
theorem osc_encode_escapes :
    osc.encode (.message (.text (ofString "/a")) [.scalar .string (.text [0xD800])]) =
        .error (.surrogates ⟨0xD800, 0, 1⟩) ∧
      osc.encode (.bundle (.time (.float oneHalfMore) (.int 0)) []) =
        .error (.pack .notInteger) :=
  ⟨rfl, (Wire.encode_of_escapes (.timetag isBroken_oneHalfMore)).1⟩

end Osc.Codec
