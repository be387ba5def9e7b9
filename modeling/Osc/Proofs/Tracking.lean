import Osc.Proofs.Accepted

/-!
Reading with every step written down. The reader of a packet moves in one way only: it takes a
piece of the packet from where it stands, or is refused and stays there. The tracked reader is the
reader with these steps beside what it gives, also where reading fails in the end; without them it
is the reader itself. An element of a bundle is a packet of its own with a reader of its own, so
among the steps of a bundle it is one piece.
-/

namespace Osc.Wire

open Floating (Binary)

/-- What a reader takes at once: a text with the zero that ends it, the data of a blob, words of
four bytes, the header of an element of a bundle, which is its size, or the element itself. -/
inductive Piece where
  | text (size : Nat)
  | data (size : Nat)
  | words (count : Nat)
  | header
  | element (size : Nat)
deriving DecidableEq

/-- The number of bytes of a piece before it is padded. -/
def Piece.length : Piece → Nat
  | .text size => size + 1
  | .data size => size
  | .words count => 4 * count
  | .header => 4
  | .element size => size

/-- The number of bytes that are taken. Elements are the only pieces without padding. -/
def Piece.extent : Piece → Nat
  | .element size => size
  | piece => padded piece.length

def Piece.isElement : Piece → Bool
  | .element _ => true
  | _ => false

/-- A piece that a reader asks for, where it stands then and, unless it is refused, where it
stands afterwards. -/
structure Step where
  piece : Piece
  start : Cursor
  stop : Option Cursor

/-- Where a reader stands before and after a step. -/
def Step.cursors (s : Step) : List Cursor := s.start :: s.stop.toList

/-- The bytes of the element that was taken. -/
def Step.element? (s : Step) : Option Bytes :=
  match s.piece, s.stop with
  | .element size, some _ => some (s.start.rest.take size)
  | _, _ => none

/-- What reading gives, and all steps up to there. -/
structure Tracked (α : Type) where
  steps : List Step
  outcome : Except DecodeFault α

namespace Tracked

/-- Something that takes no steps. -/
def lift (outcome : Except DecodeFault α) : Tracked α := ⟨[], outcome⟩

def fail (fault : DecodeFault) : Tracked α := lift (.error fault)

instance : Monad Tracked where
  pure a := lift (.ok a)
  bind x f :=
    match x.outcome with
    | .ok a => ⟨x.steps ++ (f a).steps, (f a).outcome⟩
    | .error fault => ⟨x.steps, .error fault⟩

/-- The elements that were taken, in order. -/
def elements (x : Tracked α) : List Bytes := x.steps.filterMap Step.element?

theorem bind_of_ok {x : Tracked α} {a : α} (h : x.outcome = .ok a) (f : α → Tracked β) :
    x >>= f = ⟨x.steps ++ (f a).steps, (f a).outcome⟩ := by
  obtain ⟨steps, outcome⟩ := x
  cases h
  rfl

theorem outcome_bind (x : Tracked α) (f : α → Tracked β) :
    (x >>= f).outcome = x.outcome >>= fun a => (f a).outcome := by
  obtain ⟨steps, outcome⟩ := x
  cases outcome <;> rfl

/-- Steps can be left out one after the other. -/
theorem outcome_bind_eq {x : Tracked α} {f : α → Tracked β} {y : Except DecodeFault α}
    {g : α → Except DecodeFault β} (first : x.outcome = y) (next : ∀ a, (f a).outcome = g a) :
    (x >>= f).outcome = y >>= g := by
  rw [outcome_bind, first, funext next]

/-- A last step that only wraps what was given leaves the steps as they are. -/
theorem bind_return (x : Tracked α) (f : α → β) :
    (x >>= fun a => pure (f a)) = ⟨x.steps, x.outcome.map f⟩ := by
  obtain ⟨steps, outcome⟩ := x
  cases outcome with
  | error fault => rfl
  | ok a => exact congrArg (Tracked.mk · _) (List.append_nil steps)

theorem elements_bind {x : Tracked α} {a : α} (h : x.outcome = .ok a) (f : α → Tracked β) :
    (x >>= f).elements = x.elements ++ (f a).elements := by
  rw [bind_of_ok h]
  exact List.filterMap_append

end Tracked

open Tracked

/-! Fields. -/

namespace Cursor

def track (c : Cursor) (piece : Piece) : Tracked (Bytes × Cursor) :=
  match c.take piece.extent with
  | .ok (taken, next) => ⟨[⟨piece, c, some next⟩], .ok (taken, next)⟩
  | .error fault => ⟨[⟨piece, c, none⟩], .error fault⟩

/-- A text that nothing ends is refused before anything is taken. -/
def trackString (c : Cursor) : Tracked (Text × Cursor) := do
  let body := c.rest.takeWhile (· != 0)
  if (c.rest.drop body.length).isEmpty then
    ⟨[⟨.text body.length, c, none⟩], .error (.unterminated c.offset)⟩
  else
    let (_, next) ← c.track (.text body.length)
    match Utf8.decode body with
    | .ok t => return (t, next)
    | .error cause => .fail (.invalidUtf8 cause)

def trackInt32 (c : Cursor) : Tracked (Int × Cursor) := do
  let (word, next) ← c.track (.words 1)
  return (ofInt32 word, next)

def trackBlob (c : Cursor) : Tracked (Bytes × Cursor) := do
  let (size, next) ← c.trackInt32
  if size < 0 then .fail (.negativeBlob size)
  else
    let (data, next) ← next.track (.data size.toNat)
    return (data.take size.toNat, next)

def trackTimetag (c : Cursor) : Tracked (TimeTag × Cursor) := do
  let (words, next) ← c.track (.words 2)
  return (⟨ofBigEndian (words.take 4), ofBigEndian (words.drop 4)⟩, next)

def trackQuad (c : Cursor) : Tracked ((Int × Int × Int × Int) × Cursor) := do
  let (data, next) ← c.track (.words 1)
  let component (place : Nat) : Int := (data.getD place 0).toNat
  return ((component 0, component 1, component 2, component 3), next)

/-- A piece that is there is one step. -/
theorem track_of_take {c next : Cursor} {piece : Piece} {taken : Bytes}
    (h : c.take piece.extent = .ok (taken, next)) :
    c.track piece = ⟨[⟨piece, c, some next⟩], .ok (taken, next)⟩ := by
  rw [track, h]

theorem track_outcome (c : Cursor) (piece : Piece) :
    (c.track piece).outcome = c.take piece.extent := by
  rw [track]
  cases c.take piece.extent <;> rfl

private theorem trackString_outcome (c : Cursor) : c.trackString.outcome = c.string := by
  rw [trackString, string]
  split
  · rfl
  · refine outcome_bind_eq (c.track_outcome (.text _)) fun found => ?_
    cases Utf8.decode (c.rest.takeWhile (· != 0)) <;> rfl

private theorem trackInt32_outcome (c : Cursor) : c.trackInt32.outcome = c.int32 :=
  outcome_bind_eq (c.track_outcome (.words 1)) fun _ => rfl

private theorem trackBlob_outcome (c : Cursor) : c.trackBlob.outcome = c.blob := by
  refine outcome_bind_eq c.trackInt32_outcome fun found => ?_
  obtain ⟨size, next⟩ := found
  dsimp only
  split
  · rfl
  · exact outcome_bind_eq (next.track_outcome (.data _)) fun _ => rfl

private theorem trackTimetag_outcome (c : Cursor) : c.trackTimetag.outcome = c.timetag :=
  outcome_bind_eq (c.track_outcome (.words 2)) fun _ => rfl

private theorem trackQuad_outcome (c : Cursor) : c.trackQuad.outcome = c.quad :=
  outcome_bind_eq (c.track_outcome (.words 1)) fun _ => rfl

end Cursor

/-! Messages. -/

def trackArgument (tag : Tag) (c : Cursor) : Tracked (Argument × Cursor) :=
  match tag with
  | .int => do
    let (n, next) ← c.trackInt32
    return (.int n, next)
  | .float => do
    let (word, next) ← c.track (.words 1)
    return (.float (Binary.ofWord .single (ofBigEndian word)).widen, next)
  | .string | .symbol => do
    let (t, next) ← c.trackString
    return (.string t, next)
  | .blob => do
    let (data, next) ← c.trackBlob
    return (.blob data, next)
  | .time => do
    let (tag, next) ← c.trackTimetag
    return (.time tag, next)
  | .long => do
    let (word, next) ← c.track (.words 2)
    return (.long (ofInt64 word), next)
  | .double => do
    let (word, next) ← c.track (.words 2)
    return (.double (Binary.ofWord .double (ofBigEndian word)), next)
  | .char => do
    let (word, next) ← c.track (.words 1)
    let code := ofBigEndian word
    if h : code < 0x110000 then return (.char [⟨code, h⟩], next)
    else .fail (.invalidChar code)
  | .color => do
    let ((red, green, blue, alpha), next) ← c.trackQuad
    return (.color red green blue alpha, next)
  | .midi => do
    let ((port, status, data1, data2), next) ← c.trackQuad
    return (.midi port status data1 data2, next)
  | .yes => return (.bool true, c)
  | .no => return (.bool false, c)
  | .nil => return (.nil, c)
  | .infinitum => return (.infinitum, c)

def trackArguments (outer : List (List Argument)) (items : List Argument) :
    List CodePoint → Cursor → Tracked (List Argument × Cursor)
  | [], c => if outer.isEmpty then return (items.reverse, c) else .fail .unbalancedOpen
  | letter :: letters, c =>
    match Mark.ofCodePoint? letter with
    | none => .fail (.unknownTag letter)
    | some .opening => trackArguments (items :: outer) [] letters c
    | some .closing =>
      match outer with
      | [] => .fail .unbalancedClose
      | before :: outer => trackArguments outer (.array items.reverse :: before) letters c
    | some (.argument tag) => do
      let (item, next) ← trackArgument tag c
      trackArguments outer (item :: items) letters next

def trackMessage (data : Bytes) : Tracked Packet := do
  let (address, c) ← (Cursor.start data).trackString
  if c.atEnd then return .message address []
  else
    let (tags, c) ← c.trackString
    match tags with
    | [] => .fail (.tagStart tags)
    | first :: letters =>
      if first ≠ tagComma then .fail (.tagStart tags)
      else
        let (arguments, c) ← trackArguments [] [] letters c
        if c.atEnd then return .message address arguments
        else .fail (.trailing c.rest.length address)

private theorem trackArgument_outcome (tag : Tag) (c : Cursor) :
    (trackArgument tag c).outcome = readArgument tag c := by
  cases tag with
  | int => exact outcome_bind_eq c.trackInt32_outcome fun _ => rfl
  | float => exact outcome_bind_eq (c.track_outcome (.words 1)) fun _ => rfl
  | string | symbol => exact outcome_bind_eq c.trackString_outcome fun _ => rfl
  | blob => exact outcome_bind_eq c.trackBlob_outcome fun _ => rfl
  | time => exact outcome_bind_eq c.trackTimetag_outcome fun _ => rfl
  | long | double => exact outcome_bind_eq (c.track_outcome (.words 2)) fun _ => rfl
  | char =>
    refine outcome_bind_eq (c.track_outcome (.words 1)) fun found => ?_
    obtain ⟨word, next⟩ := found
    dsimp only
    split <;> rfl
  | color | midi => exact outcome_bind_eq c.trackQuad_outcome fun _ => rfl
  | yes | no | nil | infinitum => rfl

private theorem trackArguments_outcome (outer : List (List Argument)) (items : List Argument)
    (letters : List CodePoint) (c : Cursor) :
    (trackArguments outer items letters c).outcome = readArguments outer items letters c := by
  induction letters generalizing outer items c with
  | nil =>
    rw [trackArguments, readArguments]
    split <;> rfl
  | cons letter letters ih =>
    rw [trackArguments.eq_def, readArguments.eq_def]
    dsimp only
    cases Mark.ofCodePoint? letter with
    | none => rfl
    | some mark =>
      cases mark with
      | opening => exact ih _ _ _
      | closing =>
        cases outer with
        | nil => rfl
        | cons before outer => exact ih _ _ _
      | argument tag =>
        dsimp only
        rw [outcome_bind, trackArgument_outcome]
        cases readArgument tag c with
        | error fault => rfl
        | ok read => exact ih _ _ _

private theorem trackMessage_outcome (data : Bytes) :
    (trackMessage data).outcome = decodeMessage data := by
  refine outcome_bind_eq (Cursor.trackString_outcome _) fun addressed => ?_
  obtain ⟨address, c⟩ := addressed
  dsimp only
  split
  · rfl
  · refine outcome_bind_eq c.trackString_outcome fun tagged => ?_
    obtain ⟨tags, c⟩ := tagged
    cases tags with
    | nil => rfl
    | cons first letters =>
      dsimp only
      split
      · rfl
      · refine outcome_bind_eq (trackArguments_outcome ..) fun read => ?_
        obtain ⟨arguments, c⟩ := read
        dsimp only
        split <;> rfl

/-! Bundles. What is read of the elements is given as a function of their bytes. -/

section

variable (element : Bytes → Except DecodeFault Packet)

/-- An element is taken first and then read from its own bytes. -/
def Cursor.trackPacket (c : Cursor) (size : Nat) : Tracked (Packet × Cursor) := do
  let (data, next) ← c.track (.element size)
  let packet ← .lift (element data)
  return (packet, next)

/-- One turn of reading the elements of a bundle. -/
def trackElement (c : Cursor) : Tracked (Packet × Cursor) := do
  let (word, next) ← c.track .header
  let size := ofInt32 word
  if size < 0 ∨ next.rest.length < size.toNat then .fail (.elementSize size next.rest.length)
  else next.trackPacket element size.toNat

/-- An element that is there is one step, whatever becomes of it. -/
theorem Cursor.trackPacket_of_take {c next : Cursor} {size : Nat} {data : Bytes}
    (taken : c.take size = .ok (data, next)) :
    c.trackPacket element size =
      ⟨[⟨.element size, c, some next⟩], (element data).map (·, next)⟩ := by
  rw [trackPacket, track, Piece.extent, taken]
  have read := bind_return (lift (element data)) (·, next)
  exact congrArg (fun y : Tracked _ => (⟨_ :: y.steps, y.outcome⟩ : Tracked _)) read

variable {element}

theorem Cursor.trackPacket_eq_ok {c next : Cursor} {size : Nat} {packet : Packet}
    (h : (c.trackPacket element size).outcome = .ok (packet, next)) :
    ∃ data, c.take size = .ok (data, next) ∧ element data = .ok packet := by
  rw [trackPacket, outcome_bind, track_outcome] at h
  obtain ⟨⟨data, behind⟩, taken, h⟩ := ok_of_bind h
  rw [outcome_bind] at h
  obtain ⟨read, inside, h⟩ := ok_of_bind h
  cases h
  exact ⟨data, taken, inside⟩

/-- A turn that succeeds passes a header and an element, and the element is a packet. -/
theorem trackElement_eq_ok {c next : Cursor} {packet : Packet}
    (h : (trackElement element c).outcome = .ok (packet, next)) :
    ∃ word data, ∃ behind : Cursor, word.length = 4 ∧ c.Passes word behind ∧
      behind.Passes data next ∧ element data = .ok packet ∧
        (trackElement element c).steps =
          [⟨.header, c, some behind⟩, ⟨.element data.length, behind, some next⟩] := by
  rw [trackElement, outcome_bind, Cursor.track_outcome] at h
  obtain ⟨⟨word, behind⟩, header, h⟩ := ok_of_bind h
  obtain ⟨wide, passes⟩ := Cursor.take_iff.mp header
  dsimp only at h
  split at h
  · cases h
  · next enough =>
    obtain ⟨data, taken, inside⟩ := Cursor.trackPacket_eq_ok h
    obtain ⟨size, body⟩ := Cursor.take_iff.mp taken
    refine ⟨word, data, behind, wide, passes, body, inside, ?_⟩
    rw [trackElement, bind_of_ok ((Cursor.track_outcome ..).trans header),
      Cursor.track_of_take header]
    dsimp only
    rw [if_neg enough, Cursor.trackPacket_of_take element taken, size]
    rfl

variable (element)

/-- The elements of a bundle up to its end, turn by turn. -/
def trackElements (c : Cursor) : Tracked (List Packet) :=
  if c.atEnd then return []
  else
    match _turn : trackElement element c with
    | ⟨steps, .error fault⟩ => ⟨steps, .error fault⟩
    | ⟨steps, .ok (packet, next)⟩ =>
      let more := trackElements next
      ⟨steps ++ more.steps, more.outcome.map (packet :: ·)⟩
termination_by c.rest.length
decreasing_by
  have read : (trackElement element c).outcome = .ok (packet, next) := by rw [_turn]
  obtain ⟨word, data, behind, wide, header, body, -⟩ := trackElement_eq_ok read
  rw [header.1, body.1, List.length_append, List.length_append]
  omega

def trackBundle (data : Bytes) : Tracked Packet := do
  let (_, c) ← (Cursor.start data).track (.words 2)
  let (timetag, c) ← c.trackTimetag
  let content ← trackElements element c
  return .bundle timetag content

theorem trackElements_atEnd {c : Cursor} (h : c.atEnd = true) :
    trackElements element c = return [] := by
  rw [trackElements, if_pos h]

theorem trackElements_more {c : Cursor} (h : ¬ c.atEnd = true) :
    trackElements element c = (do
      let (packet, next) ← trackElement element c
      let packets ← trackElements element next
      return packet :: packets) := by
  rw [trackElements, if_neg h]
  split
  · next turn =>
    rw [turn]
    rfl
  · next steps packet next turn =>
    rw [turn]
    have rest := bind_return (trackElements element next) (packet :: ·)
    exact congrArg (fun y : Tracked _ => (⟨steps ++ y.steps, y.outcome⟩ : Tracked _)) rest.symm

theorem split?_eq_none {count : Nat} {data : Bytes} :
    split? count data = none ↔ data.length < count := by
  induction count generalizing data with
  | zero => simp [split?]
  | succ count ih =>
    cases data with
    | nil => simp [split?]
    | cons b data => simp [split?, ih]

private theorem trackElement_outcome (c : Cursor) :
    (trackElement element c).outcome = (do
      let (size, next) ← c.int32
      if size < 0 then .error (.elementSize size next.rest.length)
      else
        match split? size.toNat next.rest with
        | none => .error (.elementSize size next.rest.length)
        | some (data, rest) =>
          (element data).map fun packet => (packet, ⟨next.offset + size.toNat, rest⟩)) := by
  rw [trackElement, outcome_bind, Cursor.track_outcome, Cursor.int32]
  change c.take 4 >>= _ = (c.take 4 >>= _) >>= _
  cases c.take 4 with
  | error fault => rfl
  | ok found =>
    obtain ⟨word, next⟩ := found
    simp only [bind_ok, pure, Except.pure]
    by_cases negative : ofInt32 word < 0
    · rw [if_pos negative, if_pos (.inl negative)]
      rfl
    · rw [if_neg negative]
      cases found : split? (ofInt32 word).toNat next.rest with
      | none =>
        rw [if_pos (.inr (split?_eq_none.mp found))]
        rfl
      | some cut =>
        have enough : ¬ next.rest.length < (ofInt32 word).toNat := by
          rw [← split?_eq_none, found]
          simp
        have taken : next.take (ofInt32 word).toNat =
            .ok (cut.1, ⟨next.offset + (ofInt32 word).toNat, cut.2⟩) := by
          rw [Cursor.take, found]
        rw [if_neg (not_or.mpr ⟨negative, enough⟩), Cursor.trackPacket_of_take element taken]

/-- Reading that is not at the end makes a turn and goes on. -/
theorem readElements_more {c : Cursor} (h : ¬ c.atEnd = true) :
    readElements element c = (do
      let (packet, next) ← (trackElement element c).outcome
      (readElements element next).map (packet :: ·)) := by
  rw [readElements, if_neg h, trackElement_outcome]
  cases c.int32 with
  | error fault => rfl
  | ok found =>
    obtain ⟨size, next⟩ := found
    simp only [bind_ok]
    by_cases negative : size < 0
    · rw [if_pos negative, if_pos negative]
      rfl
    · rw [if_neg negative, if_neg negative]
      cases split? size.toNat next.rest with
      | none => rfl
      | some cut =>
        dsimp only
        cases element cut.1 <;> rfl

private theorem trackElements_outcome (c : Cursor) :
    (trackElements element c).outcome = readElements element c := by
  fun_induction trackElements element c with
  | case1 c ended =>
    rw [readElements, if_pos ended]
    rfl
  | case2 c more steps fault turn =>
    rw [readElements_more element more, turn]
    rfl
  | case3 c more steps packet next turn rest ih =>
    rw [readElements_more element more, turn, bind_ok]
    exact congrArg (Except.map _) ih

end

/-- The reader of one packet, in which bundles nest at most `levels` deep. -/
def track (levels : Nat) (data : Bytes) : Tracked Packet :=
  if data.head? = some slashByte then trackMessage data
  else if bundleTag.isPrefixOf data then
    match levels with
    | 0 => .fail .tooDeep
    | levels + 1 => trackBundle (decodeWithin levels) data
  else if data.isEmpty then .fail .empty
  else .fail (.unknownStart (data.take 8))

/-- The tracked reader gives what the reader gives. -/
theorem track_outcome (levels : Nat) (data : Bytes) :
    (track levels data).outcome = decodeWithin levels data := by
  rw [track.eq_def, decodeWithin.eq_def]
  split
  · exact trackMessage_outcome data
  split
  · cases levels with
    | zero => rfl
    | succ levels =>
      refine outcome_bind_eq (Cursor.track_outcome _ (.words 2)) fun tag => ?_
      refine outcome_bind_eq tag.2.trackTimetag_outcome fun time => ?_
      exact outcome_bind_eq (trackElements_outcome _ time.2) fun _ => rfl
  · split <;> rfl

/-! The elements that are taken are those that a bundle is said to hold. -/

theorem Cursor.track_words_elements (c : Cursor) (count : Nat) :
    (c.track (.words count)).elements = [] := by
  rw [track]
  cases c.take (Piece.words count).extent <;> rfl

theorem Cursor.trackTimetag_elements (c : Cursor) : c.trackTimetag.elements = [] :=
  (congrArg elements (bind_return (c.track (.words 2)) _)).trans (c.track_words_elements 2)

section

variable {element : Bytes → Except DecodeFault Packet}

private theorem trackElement_elements {c next : Cursor} {packet : Packet}
    (h : (trackElement element c).outcome = .ok (packet, next)) :
    ∃ data, (trackElement element c).elements = [data] ∧ element data = .ok packet := by
  obtain ⟨word, data, behind, -, -, body, inside, turn⟩ := trackElement_eq_ok h
  refine ⟨data, ?_, inside⟩
  rw [elements, turn]
  change [behind.rest.take data.length] = [data]
  rw [body.1, List.take_left]

private theorem trackElements_elements {c : Cursor} {packets : List Packet}
    (h : (trackElements element c).outcome = .ok packets) :
    List.Forall₂ (fun data p => element data = .ok p) (trackElements element c).elements
      packets := by
  induction c using trackElements.induct element generalizing packets with
  | case1 c ended =>
    rw [trackElements_atEnd element ended] at h ⊢
    cases h
    exact .nil
  | case2 c more steps fault turn =>
    rw [trackElements_more element more, outcome_bind, turn] at h
    cases h
  | case3 c more steps packet next turn ih =>
    have read : (trackElement element c).outcome = .ok (packet, next) := by rw [turn]
    rw [trackElements_more element more, outcome_bind, read, bind_ok] at h
    rw [trackElements_more element more, elements_bind read]
    dsimp only at h ⊢
    rw [bind_return] at h ⊢
    obtain ⟨others, found, rfl⟩ := ok_of_map h
    obtain ⟨data, single, inside⟩ := trackElement_elements read
    rw [single]
    exact .cons inside (ih found)

private theorem trackBundle_elements {data : Bytes} {timetag : TimeTag} {content : List Packet}
    (h : (trackBundle element data).outcome = .ok (.bundle timetag content)) :
    List.Forall₂ (fun data p => element data = .ok p) (trackBundle element data).elements
      content := by
  rw [trackBundle, outcome_bind] at h
  obtain ⟨⟨tag, c⟩, head, h⟩ := ok_of_bind h
  dsimp only at h
  rw [outcome_bind] at h
  obtain ⟨⟨time, d⟩, timed, h⟩ := ok_of_bind h
  dsimp only at h
  rw [bind_return] at h
  obtain ⟨packets, read, same⟩ := ok_of_map h
  cases same
  rw [trackBundle, elements_bind head, Cursor.track_words_elements, elements_bind timed,
    Cursor.trackTimetag_elements]
  dsimp only [List.nil_append]
  rw [bind_return]
  exact trackElements_elements read

end

/-- The elements that are taken from a bundle are read as the packets in it. -/
theorem track_elements {levels : Nat} {data : Bytes} {timetag : TimeTag} {content : List Packet}
    (h : decodeWithin levels data = .ok (.bundle timetag content)) :
    List.Forall₂ (fun element p => decodeWithin (levels - 1) element = .ok p)
      (track levels data).elements content := by
  rw [← track_outcome, track.eq_def] at h
  rw [track.eq_def]
  split at h
  · next slashed =>
    rw [trackMessage_outcome] at h
    obtain ⟨m, -, denoted⟩ := layout_of_decodeMessage slashed h
    cases denoted
  · next unslashed =>
    rw [if_neg unslashed]
    split at h
    · next marked =>
      rw [if_pos marked]
      cases levels with
      | zero => cases h
      | succ levels => exact trackBundle_elements h
    · split at h
      · cases h
      · cases h

end Osc.Wire
