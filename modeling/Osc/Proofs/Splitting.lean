import Mathlib.Data.List.DropRight
import Osc.Proofs.Faults
import Osc.Proofs.Numerals

/-!
Which texts are addresses. A text is cut at its last colon, what is behind must be decimal digits,
and what is before loses all brackets at both ends, matching or not. So each host with a port
behind it is read as that host and that port, in brackets or without, as long as it has no brackets
at its ends itself; and what is wrong with any other text is its value.

The brackets are there for hosts with colons, and such a host should not stand without them. That
is not checked: a host may have colons, and single brackets at its ends, and is read nevertheless.
-/

namespace Osc.Address

variable {separator : CodePoint} {t before behind host port : Text}

/-- A text has one last separator at most. -/
theorem splitLast_iff :
    splitLast separator t = some (before, behind) ↔
      t = before ++ separator :: behind ∧ separator ∉ behind := by
  constructor
  · exact splitLast_eq_some
  · rintro ⟨rfl, last⟩
    induction before with
    | nil =>
      cases found : splitLast separator behind with
      | none => rw [List.nil_append, splitLast, found, if_pos rfl]
      | some parts =>
        rw [(splitLast_eq_some found).1] at last
        exact absurd (List.mem_append_right _ List.mem_cons_self) last
    | cons c before ih => rw [List.cons_append, splitLast, ih]

/-- Neither end of a text is a bracket. -/
structure Bare (host : Text) : Prop where
  start : ∀ c ∈ host.head?, isBracket c = false
  stop : ∀ c ∈ host.getLast?, isBracket c = false

theorem dropWhile_bare (start : ∀ c ∈ t.head?, isBracket c = false) :
    t.dropWhile isBracket = t := by
  cases t with
  | nil => rfl
  | cons c t => rw [List.dropWhile_cons_of_neg (by rw [start c rfl]; exact Bool.false_ne_true)]

/-- Brackets around a text are taken off, however many there are on either side. -/
theorem stripBrackets_around (left right : Text) (bare : Bare host)
    (opened : ∀ c ∈ left, isBracket c = true) (closed : ∀ c ∈ right, isBracket c = true) :
    stripBrackets (left ++ host ++ right) = host := by
  have backward : ∀ c ∈ right.reverse, isBracket c = true := by simpa using closed
  rw [stripBrackets, List.append_assoc, List.dropWhile_append_of_pos opened]
  cases host with
  | nil => rw [List.nil_append, List.dropWhile_eq_nil_iff.mpr closed]; rfl
  | cons c host =>
    have last : ∀ d ∈ (c :: host).reverse.head?, isBracket d = false := by
      rw [List.head?_reverse]
      exact bare.stop
    have first : ∀ d ∈ (c :: host ++ right).head?, isBracket d = false := bare.start
    rw [dropWhile_bare first, List.reverse_append, List.dropWhile_append_of_pos backward,
      dropWhile_bare last, List.reverse_reverse]

/-- Every text is a bare one with brackets around it. -/
theorem exists_bare (t : Text) : ∃ left host right, t = left ++ host ++ right ∧ Bare host ∧
    (∀ c ∈ left, isBracket c = true) ∧ ∀ c ∈ right, isBracket c = true := by
  let inner := t.dropWhile isBracket
  refine ⟨t.takeWhile isBracket, inner.rdropWhile isBracket, inner.rtakeWhile isBracket, ?_,
    ⟨?_, ?_⟩, fun _ => List.mem_takeWhile_imp, fun _ => List.mem_rtakeWhile_imp⟩
  · rw [List.append_assoc, List.rdropWhile_append_rtakeWhile, List.takeWhile_append_dropWhile]
  · intro c first
    have whole := List.rdropWhile_append_rtakeWhile (p := isBracket) (l := inner)
    have start := List.head?_dropWhile_not isBracket t
    rw [show t.dropWhile isBracket = inner from rfl, ← whole, List.head?_append, first] at start
    exact start
  · intro c last
    obtain ⟨nonempty, rfl⟩ := List.mem_getLast?_eq_getLast last
    exact Bool.eq_false_iff.mpr (List.rdropWhile_last_not isBracket inner nonempty)

theorem isPort_iff : isPort port = true ↔ port ≠ [] ∧ ∀ c ∈ port, c.isDigit = true := by
  simp [isPort]

theorem toInteger_text {z : Int} : Value.toInteger (.text t) = .ok z ↔ Numeral.read t = .ok z := by
  rw [Value.toInteger, Value.readNumeral]
  cases Numeral.read t with
  | ok n => rw [Except.ok.injEq, Except.ok.injEq]
  | error refusal => cases refusal <;> exact ⟨nofun, nofun⟩

/-- No port has a colon. -/
theorem last_colon (before : Text) {n : Nat} (spells : Numeral.Spells port n) :
    splitLast colon (before ++ colon :: port) = some (before, port) := by
  refine splitLast_iff.mpr ⟨rfl, ?_⟩
  intro member
  exact absurd (spells.isDigit colon member) (by decide)

/-- A text is read as what its last colon parts, when a number stands behind. -/
theorem splitText_eq_ok_iff {z : Int} :
    splitText t = .ok (host, z) ↔ ∃ before port, ∃ n : Nat, t = before ++ colon :: port ∧
      Numeral.Spells port n ∧ host = stripBrackets before ∧ z = n := by
  constructor
  · intro h
    rw [splitText] at h
    split at h
    · next before port parted =>
      split at h
      · next isPort =>
        cases number : Value.toInteger (.text port) with
        | error fault =>
          rw [number] at h
          cases h
        | ok z' =>
          rw [number] at h
          cases h
          obtain ⟨n, rfl, spells⟩ :=
            (Numeral.read_eq_ok_iff (isPort_iff.mp isPort).2).mp (toInteger_text.mp number)
          exact ⟨before, port, n, (splitLast_iff.mp parted).1, spells, rfl, rfl⟩
      · cases h
    · cases h
  · rintro ⟨before, port, n, rfl, spells, rfl, rfl⟩
    have isPort : isPort port = true := isPort_iff.mpr ⟨spells.nonempty, spells.isDigit⟩
    have number := (Numeral.read_eq_ok_iff spells.isDigit).mpr ⟨n, rfl, spells⟩
    simp only [splitText, last_colon _ spells, isPort, if_true, toInteger_text.mpr number]
    rfl

theorem splitText_parts (before : Text) {n : Nat} (spells : Numeral.Spells port n) :
    splitText (before ++ colon :: port) = .ok (stripBrackets before, (n : Int)) :=
  splitText_eq_ok_iff.mpr ⟨before, port, n, rfl, spells, rfl, rfl⟩

/-! What an address should be like. -/

def opening : CodePoint := CodePoint.ofChar '['

def closing : CodePoint := CodePoint.ofChar ']'

/-- A host as it should stand in a text: without colons, or in one pair of brackets. -/
inductive Stands : Text → Text → Prop where
  | plain {host : Text} (apart : ∀ c ∈ host, c ≠ colon ∧ isBracket c = false) : Stands host host
  | bracketed {host : Text} (inside : ∀ c ∈ host, isBracket c = false) :
      Stands host (opening :: (host ++ [closing]))

/-- A host, a colon and a port in decimal. -/
def WellFormed (t host : Text) (n : Nat) : Prop :=
  ∃ before port, t = before ++ colon :: port ∧ Stands host before ∧ Numeral.Spells port n

/-- Texts that are well-formed are read as what they are, and for all others the value is at
fault. -/
inductive AsDocumented (t : Text) : Except Fault (Text × Int) → Prop where
  | read {host : Text} {n : Nat} (form : WellFormed t host n) : AsDocumented t (.ok (host, (n : Int)))
  | refused (cause : ValueFault) (formless : ∀ host n, ¬ WellFormed t host n) :
      AsDocumented t (.error (.value cause))

/-- A port in decimal behind what is no host, for a colon or a bracket that it should not have. -/
def Misread (t : Text) : Prop :=
  ∃ before port n, t = before ++ colon :: port ∧ Numeral.Spells port n ∧
    ∀ host, ¬ Stands host before

theorem bare_of_inside (inside : ∀ c ∈ host, isBracket c = false) : Bare host :=
  ⟨fun c first => inside c (List.mem_of_mem_head? first),
    fun c last => inside c (List.mem_of_mem_getLast? last)⟩

theorem stripBrackets_bare (bare : Bare host) : stripBrackets host = host := by
  have around := stripBrackets_around [] [] bare nofun nofun
  rwa [List.nil_append, List.append_nil] at around

theorem stripBrackets_pair (bare : Bare host) :
    stripBrackets (opening :: (host ++ [closing])) = host := by
  have around := stripBrackets_around [opening] [closing] bare
    (List.forall_mem_singleton.mpr (by decide)) (List.forall_mem_singleton.mpr (by decide))
  rwa [List.append_assoc] at around

theorem Stands.stripped (stands : Stands host before) : stripBrackets before = host := by
  cases stands with
  | plain apart => exact stripBrackets_bare (bare_of_inside fun c member => (apart c member).2)
  | bracketed inside => exact stripBrackets_pair (bare_of_inside inside)

/-- A host with a colon or a bracket stands behind an opening bracket only. -/
theorem not_stands {c : CodePoint} (member : c ∈ before) (odd : c = colon ∨ isBracket c = true)
    (start : before.head? ≠ some opening) : ¬ Stands host before := by
  intro stands
  cases stands with
  | plain apart =>
    obtain ⟨noColon, noBracket⟩ := apart c member
    rcases odd with rfl | bracket
    · exact noColon rfl
    · cases noBracket.symm.trans bracket
  | bracketed inside => exact start rfl

theorem WellFormed.parted {n : Nat} (form : WellFormed t host n) :
    splitText t = .ok (host, (n : Int)) := by
  obtain ⟨before, port, rfl, stands, spells⟩ := form
  rw [splitText_parts _ spells, stands.stripped]

theorem Misread.undocumented (misread : Misread t) : ¬ AsDocumented t (splitText t) := by
  obtain ⟨before, port, n, rfl, spells, unlike⟩ := misread
  intro documented
  rw [splitText_parts _ spells] at documented
  cases documented with
  | read form =>
    -- A text has one last colon, so it cannot be well-formed in another way.
    obtain ⟨before', port', same, stands, spells'⟩ := form
    have cut := last_colon before spells
    rw [same, last_colon _ spells'] at cut
    cases cut
    exact unlike _ stands

/-- A text is read as it should be, or refused for its value, except when what stands before its
port has a colon without brackets or any bracket that is not of one pair around it. A text is read
as a host and a port when brackets at either end, if any, stand around the host. -/
theorem split_asDocumented_iff (t : Text) :
    (AsDocumented t (split (.text t)) ↔ ¬ Misread t) ∧
      ∀ host (n : Nat), split (.text t) = .ok (host, (n : Int)) ↔
        ∃ left right port, t = left ++ host ++ right ++ colon :: port ∧ Bare host ∧
          (∀ c ∈ left, isBracket c = true) ∧ (∀ c ∈ right, isBracket c = true) ∧
            Numeral.Spells port n := by
  rw [split]
  refine ⟨⟨fun documented misread => misread.undocumented documented, fun sound => ?_⟩, ?_⟩
  · cases parted : splitText t with
    | error fault =>
      obtain ⟨cause, rfl⟩ := value_of_splitText t fault parted
      refine .refused cause fun host n form => ?_
      cases parted.symm.trans form.parted
    | ok found =>
      obtain ⟨host, z⟩ := found
      obtain ⟨before, port, n, rfl, spells, rfl, rfl⟩ := splitText_eq_ok_iff.mp parted
      by_contra undocumented
      refine sound ⟨before, port, n, rfl, spells, fun host stands => undocumented ?_⟩
      rw [stands.stripped]
      exact .read ⟨before, port, rfl, stands, spells⟩
  · intro host n
    constructor
    · intro parted
      obtain ⟨before, port, m, rfl, spells, rfl, same⟩ := splitText_eq_ok_iff.mp parted
      obtain ⟨left, inner, right, rfl, bare, opened, closed⟩ := exists_bare before
      rw [stripBrackets_around _ _ bare opened closed]
      cases same
      exact ⟨left, right, port, rfl, bare, opened, closed, spells⟩
    · rintro ⟨left, right, port, rfl, bare, opened, closed, spells⟩
      rw [splitText_parts _ spells, stripBrackets_around _ _ bare opened closed]

open Text (ofString)

/-- An address of version 6 without brackets and without a port is read as another host and a
port, and single brackets are lost. -/
theorem split_strays :
    split (.text (ofString "::1")) = .ok (ofString ":", 1) ∧
      ¬ AsDocumented (ofString "::1") (split (.text (ofString "::1"))) ∧
      split (.text (ofString "]a[[:80")) = .ok (ofString "a", 80) ∧
      ¬ AsDocumented (ofString "]a[[:80") (split (.text (ofString "]a[[:80"))) := by
  have one : Numeral.Spells (ofString "1") 1 := ⟨by decide, by decide, [1], by decide, rfl⟩
  have eighty : Numeral.Spells (ofString "80") 80 := ⟨by decide, by decide, [8, 0], by decide, rfl⟩
  have colons (host : Text) : ¬ Stands host (ofString ":") :=
    not_stands (c := colon) (by decide) (by decide) (by decide)
  have strays (host : Text) : ¬ Stands host (ofString "]a[[") :=
    not_stands (c := opening) (by decide) (by decide) (by decide)
  exact ⟨rfl, Misread.undocumented ⟨_, _, _, rfl, one, colons⟩, rfl,
    Misread.undocumented ⟨_, _, _, rfl, eighty, strays⟩⟩

/-- A host and a port are read back from their text, with brackets around the host or without, as
they are from a pair; and every text gives a host and a port, or its value is at fault. -/
theorem split_inverts (host : Text) (zeros n : Nat) (bare : Bare host)
    (short : (Numeral.withZeros zeros n).length ≤ Numeral.maxDigits) :
    (split (.text (host ++ colon :: Numeral.withZeros zeros n)) = .ok (host, (n : Int)) ∧
      split (.text (opening :: (host ++ closing :: colon :: Numeral.withZeros zeros n))) =
        .ok (host, (n : Int)) ∧
      split (.tuple [.text host, .int n]) = .ok (host, (n : Int))) ∧
    ∀ t, (∃ host, ∃ n : Nat, split (.text t) = .ok (host, (n : Int))) ∨
      ∃ cause, split (.text t) = .error (.value cause) := by
  have spells := Numeral.spells_withZeros short
  refine ⟨⟨?_, ?_, rfl⟩, fun t => ?_⟩
  · rw [split, splitText_parts _ spells, stripBrackets_bare bare]
  · have bracketed := splitText_parts (opening :: (host ++ [closing])) spells
    rw [List.cons_append, List.append_assoc, stripBrackets_pair bare] at bracketed
    exact bracketed
  · rw [split]
    cases parted : splitText t with
    | error fault =>
      obtain ⟨cause, rfl⟩ := value_of_splitText t fault parted
      exact .inr ⟨cause, rfl⟩
    | ok found =>
      obtain ⟨host, z⟩ := found
      obtain ⟨before, port, n, -, -, -, rfl⟩ := splitText_eq_ok_iff.mp parted
      exact .inl ⟨host, n, rfl⟩

/-- A host with colons, a blank and brackets inside, and a port with zeros in front. -/
theorem split_inverts_innerBrackets :
    let host := ofString "fe80:: [a]b"
    Bare host ∧ (Numeral.withZeros 3 65535).length ≤ Numeral.maxDigits ∧
      split (.text (ofString "fe80:: [a]b:00065535")) = .ok (host, 65535) ∧
      split (.text (ofString "[fe80:: [a]b]:00065535")) = .ok (host, 65535) ∧
      split (.tuple [.text host, .int 65535]) = .ok (host, 65535) := by
  intro host
  have bare : Bare host := by
    constructor
    · rintro c ⟨⟩
      decide
    · rintro c ⟨⟩
      decide
  have short : (Numeral.withZeros 3 65535).length ≤ Numeral.maxDigits := by decide
  obtain ⟨⟨plain, bracketed, pair⟩, -⟩ := split_inverts host 3 65535 bare short
  exact ⟨bare, short, plain, bracketed, pair⟩

end Osc.Address
