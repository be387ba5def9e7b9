import Osc.Proofs.Received
import Osc.Proofs.Tracking

/-!
Everything on the wire starts at a multiple of four. Fields are padded from their own start, so a
reader that has only met whole fields stands at a multiple of four, counted from the start of its
packet, and the next field is padded from there too. Elements of bundles are the exception: their
sizes say where they end, so a reader may stand anywhere behind one. But an element is only passed
when it is a packet, and a packet is read up to its end, which is a multiple of four again.
-/

namespace Osc.Wire

private theorem four_dvd_padded (n : Nat) : 4 ∣ padded n := Nat.dvd_mul_left 4 _

/-- From a multiple of four it makes no difference where padding is counted from. -/
theorem add_padded {offset : Nat} (aligned : 4 ∣ offset) (size : Nat) :
    offset + padded size = padded (offset + size) := by
  rw [padded_eq, padded_eq]
  omega

theorem Piece.four_dvd_extent {piece : Piece} (field : piece.isElement = false) :
    4 ∣ piece.extent := by
  cases piece with
  | element size => cases field
  | _ => exact four_dvd_padded _

/-! Walks of a cursor. -/

/-- Steps from a cursor on, each from where the one before stopped. The last one may be refused,
and then the reader goes nowhere. -/
inductive Walk : Cursor → List Step → Option Cursor → Prop where
  | stay (c : Cursor) : Walk c [] (some c)
  | refused (piece : Piece) (c : Cursor) : Walk c [⟨piece, c, none⟩] none
  | step {piece : Piece} {c d : Cursor} {taken : Bytes} {steps : List Step} {last : Option Cursor}
      (size : taken.length = piece.extent) (passes : c.Passes taken d) (rest : Walk d steps last) :
      Walk c (⟨piece, c, some d⟩ :: steps) last

namespace Walk

variable {c : Cursor} {steps : List Step} {last : Option Cursor}

theorem append {d : Cursor} {more : List Step} (h : Walk c steps (some d))
    (h' : Walk d more last) : Walk c (steps ++ more) last := by
  generalize same : some d = stop at h
  induction h with
  | stay c =>
    cases same
    exact h'
  | refused piece c => cases same
  | step size passes rest ih => exact .step size passes (ih same)

/-- Wherever a walk comes to, it has passed some bytes since its start. -/
theorem passes (h : Walk c steps last) :
    ∀ d ∈ steps.flatMap Step.cursors ++ last.toList, ∃ passed, c.Passes passed d := by
  have stays (c : Cursor) : ∃ passed, c.Passes passed c := ⟨[], Cursor.passes_nil.mpr rfl⟩
  induction h with
  | stay c => simpa using stays c
  | refused piece c => simpa [Step.cursors] using stays c
  | @step piece c d taken steps last size passes rest ih =>
    have further (e : Cursor) (he : e ∈ steps.flatMap Step.cursors ++ last.toList) :
        ∃ passed, c.Passes passed e := by
      obtain ⟨passed, more⟩ := ih e he
      exact ⟨_, passes.append more⟩
    simp only [List.flatMap_cons, Step.cursors, Option.toList_some, List.cons_append,
      List.nil_append, List.forall_mem_cons]
    exact ⟨stays c, ⟨_, passes⟩, further⟩

theorem le_offset (h : Walk c steps last) {d : Cursor} (hd : d ∈ steps.flatMap Step.cursors) :
    c.offset ≤ d.offset := by
  obtain ⟨passed, further⟩ := h.passes d (List.mem_append_left _ hd)
  rw [further.2]
  exact Nat.le_add_right _ _

/-- The offset never goes back. -/
theorem forward (h : Walk c steps last) :
    (steps.flatMap Step.cursors).Pairwise fun d e => d.offset ≤ e.offset := by
  induction h with
  | stay c => exact .nil
  | refused piece c => exact List.pairwise_singleton _ _
  | @step piece c d taken steps last size passes rest ih =>
    have ahead : c.offset ≤ d.offset := by
      rw [passes.2]
      exact Nat.le_add_right _ _
    have behind (e : Cursor) (he : e ∈ steps.flatMap Step.cursors) : d.offset ≤ e.offset :=
      rest.le_offset he
    refine List.pairwise_cons.mpr ⟨?_, List.pairwise_cons.mpr ⟨behind, ih⟩⟩
    exact List.forall_mem_cons.mpr ⟨ahead, fun e he => ahead.trans (behind e he)⟩

/-- A step that is not refused goes on by the bytes that its piece takes. -/
theorem moved (h : Walk c steps last) {s : Step} (hs : s ∈ steps) {d : Cursor}
    (stop : s.stop = some d) : d.offset = s.start.offset + s.piece.extent := by
  induction h with
  | stay c => cases hs
  | refused piece c =>
    cases List.mem_singleton.mp hs
    cases stop
  | step size passes rest ih =>
    rcases List.mem_cons.mp hs with rfl | later
    · cases stop
      rw [passes.2, size]
    · exact ih later

/-- Whatever comes after a step is behind the bytes that its piece takes. -/
theorem onward (h : Walk c steps last) : steps.Pairwise fun s t =>
    ∀ d ∈ t.cursors, s.start.offset + s.piece.extent ≤ d.offset := by
  induction h with
  | stay c => exact .nil
  | refused piece c => exact List.pairwise_singleton _ _
  | @step piece c d taken steps last size passes rest ih =>
    refine List.pairwise_cons.mpr ⟨?_, ih⟩
    intro t ht e he
    have behind := rest.le_offset (List.mem_flatMap.mpr ⟨t, ht, he⟩)
    rw [passes.2, size] at behind
    exact behind

end Walk

/-- Tracked reading from a cursor: its steps are a walk, all of them start at multiples of four,
and when it succeeds it stops at one, at a cursor that is told by what was read. -/
structure Keeps (c : Cursor) (x : Tracked α) (stops : α → Cursor → Prop) : Prop where
  walk : ∃ last, Walk c x.steps last
  aligned : ∀ s ∈ x.steps, 4 ∣ s.start.offset
  ended : ∀ a, x.outcome = .ok a → ∃ last, Walk c x.steps (some last) ∧ 4 ∣ last.offset ∧
    stops a last

/-- Reading that gives the cursor it stops at. -/
abbrev Moves (c : Cursor) (x : Tracked (α × Cursor)) : Prop :=
  Keeps c x fun found last => last = found.2

namespace Keeps

variable {c : Cursor} {stops : α → Cursor → Prop}

theorem pure {a : α} (aligned : 4 ∣ c.offset) (here : stops a c) :
    Keeps c (Pure.pure a : Tracked α) stops := by
  refine ⟨⟨_, .stay c⟩, List.forall_mem_nil _, ?_⟩
  intro b same
  cases same
  exact ⟨c, .stay c, aligned, here⟩

theorem fail (fault : DecodeFault) : Keeps c (.fail fault : Tracked α) stops := by
  refine ⟨⟨_, .stay c⟩, List.forall_mem_nil _, ?_⟩
  intro a same
  cases same

/-- Whatever is asked for at a multiple of four may be refused. -/
theorem refused (aligned : 4 ∣ c.offset) (piece : Piece) (fault : DecodeFault) :
    Keeps c (⟨[⟨piece, c, none⟩], .error fault⟩ : Tracked α) stops := by
  refine ⟨⟨_, .refused piece c⟩, by simpa using aligned, ?_⟩
  intro a same
  cases same

theorem bind {x : Tracked α} {f : α → Tracked β} {stops' : β → Cursor → Prop}
    (first : Keeps c x stops)
    (next : ∀ a last, x.outcome = .ok a → 4 ∣ last.offset → stops a last →
      Keeps last (f a) stops') : Keeps c (x >>= f) stops' := by
  obtain ⟨steps, outcome⟩ := x
  cases outcome with
  | error fault => exact ⟨first.walk, first.aligned, fun _ same => by cases same⟩
  | ok a =>
    obtain ⟨middle, walk, aligned, here⟩ := first.ended a rfl
    have rest := next a middle rfl aligned here
    refine ⟨?_, ?_, ?_⟩
    · obtain ⟨last, more⟩ := rest.walk
      exact ⟨last, walk.append more⟩
    · exact List.forall_mem_append.mpr ⟨first.aligned, rest.aligned⟩
    · intro b ended
      obtain ⟨last, more, stop⟩ := rest.ended b ended
      exact ⟨last, walk.append more, stop⟩

end Keeps

theorem Moves.bind {c : Cursor} {x : Tracked (α × Cursor)} {f : α × Cursor → Tracked β}
    {stops : β → Cursor → Prop} (first : Moves c x)
    (next : ∀ a d, 4 ∣ d.offset → Keeps d (f (a, d)) stops) : Keeps c (x >>= f) stops :=
  Keeps.bind first fun found last _ aligned same => by
    cases same
    exact next found.1 found.2 aligned

section

variable {c : Cursor} (aligned : 4 ∣ c.offset)

include aligned

theorem Cursor.track_moves (piece : Piece) (field : piece.isElement = false) :
    Moves c (c.track piece) := by
  rw [Cursor.track]
  cases taken : c.take piece.extent with
  | error fault => exact .refused aligned piece fault
  | ok found =>
    obtain ⟨bytes, next⟩ := found
    obtain ⟨size, passes⟩ := Cursor.take_iff.mp taken
    have walk := Walk.step size passes (.stay next)
    refine ⟨⟨_, walk⟩, by simpa using aligned, ?_⟩
    intro a same
    cases same
    refine ⟨next, walk, ?_, rfl⟩
    rw [passes.2, size]
    exact Nat.dvd_add aligned (Piece.four_dvd_extent field)

theorem Cursor.trackString_moves : Moves c c.trackString := by
  rw [Cursor.trackString]
  split
  · exact .refused aligned _ _
  · refine (Cursor.track_moves aligned (.text _) rfl).bind fun _ next aligned => ?_
    dsimp only
    split
    · exact .pure aligned rfl
    · exact .fail _

theorem Cursor.trackInt32_moves : Moves c c.trackInt32 :=
  (Cursor.track_moves aligned (.words 1) rfl).bind fun _ _ aligned => .pure aligned rfl

theorem Cursor.trackBlob_moves : Moves c c.trackBlob := by
  refine (Cursor.trackInt32_moves aligned).bind fun size next aligned => ?_
  dsimp only
  split
  · exact .fail _
  · exact (Cursor.track_moves aligned (.data _) rfl).bind fun _ _ aligned => .pure aligned rfl

theorem Cursor.trackTimetag_moves : Moves c c.trackTimetag :=
  (Cursor.track_moves aligned (.words 2) rfl).bind fun _ _ aligned => .pure aligned rfl

theorem Cursor.trackQuad_moves : Moves c c.trackQuad :=
  (Cursor.track_moves aligned (.words 1) rfl).bind fun _ _ aligned => .pure aligned rfl

/-- Arguments are whole fields, or nothing at all. -/
theorem trackArgument_moves (tag : Tag) : Moves c (trackArgument tag c) := by
  cases tag with
  | int => exact (Cursor.trackInt32_moves aligned).bind fun _ _ aligned => .pure aligned rfl
  | string | symbol =>
    exact (Cursor.trackString_moves aligned).bind fun _ _ aligned => .pure aligned rfl
  | blob => exact (Cursor.trackBlob_moves aligned).bind fun _ _ aligned => .pure aligned rfl
  | time => exact (Cursor.trackTimetag_moves aligned).bind fun _ _ aligned => .pure aligned rfl
  | float | long | double =>
    exact (Cursor.track_moves aligned (.words _) rfl).bind fun _ _ aligned => .pure aligned rfl
  | char =>
    refine (Cursor.track_moves aligned (.words 1) rfl).bind fun word next aligned => ?_
    dsimp only
    split
    · exact .pure aligned rfl
    · exact .fail _
  | color | midi => exact (Cursor.trackQuad_moves aligned).bind fun _ _ aligned => .pure aligned rfl
  | yes | no | nil | infinitum => exact .pure aligned rfl

end

private theorem trackArguments_moves (outer : List (List Argument)) (items : List Argument)
    (letters : List CodePoint) {c : Cursor} (aligned : 4 ∣ c.offset) :
    Moves c (trackArguments outer items letters c) := by
  induction letters generalizing outer items c with
  | nil =>
    rw [trackArguments]
    split
    · exact .pure aligned rfl
    · exact .fail _
  | cons letter letters ih =>
    unfold trackArguments
    split
    · exact .fail _
    · exact ih _ _ aligned
    · split
      · exact .fail _
      · exact ih _ _ aligned
    · exact (trackArgument_moves aligned _).bind fun item next aligned => ih _ _ aligned

/-- A message is read up to its end, or refused. -/
theorem trackMessage_keeps (data : Bytes) :
    Keeps (.start data) (trackMessage data) fun _ last => last.rest = [] := by
  refine (Cursor.trackString_moves (Nat.dvd_zero 4)).bind fun address c aligned => ?_
  dsimp only
  split
  · next ended => exact .pure aligned (Cursor.atEnd_iff.mp ended)
  · refine (Cursor.trackString_moves aligned).bind fun tags c aligned => ?_
    cases tags with
    | nil => exact .fail _
    | cons first letters =>
      dsimp only
      split
      · exact .fail _
      · refine (trackArguments_moves _ _ _ aligned).bind fun arguments c aligned => ?_
        dsimp only
        split
        · next ended => exact .pure aligned (Cursor.atEnd_iff.mp ended)
        · exact .fail _

/-! Elements. A reader that has taken an element may stand anywhere, but it only goes on when the
element is a packet. -/

section

variable {element : Bytes → Except DecodeFault Packet}
  (whole : ∀ data p, element data = .ok p → 4 ∣ data.length) {c : Cursor}
  (aligned : 4 ∣ c.offset)

include whole aligned

theorem Cursor.trackPacket_moves (size : Nat) : Moves c (c.trackPacket element size) := by
  cases taken : c.take size with
  | error fault =>
    have refused : c.trackPacket element size = ⟨[⟨.element size, c, none⟩], .error fault⟩ := by
      rw [trackPacket, track, Piece.extent, taken]
      rfl
    rw [refused]
    exact .refused aligned _ fault
  | ok found =>
    obtain ⟨data, next⟩ := found
    obtain ⟨length, passes⟩ := Cursor.take_iff.mp taken
    have walk : Walk c [⟨.element size, c, some next⟩] (some next) :=
      .step length passes (.stay next)
    rw [trackPacket_of_take element taken]
    refine ⟨⟨_, walk⟩, by simpa using aligned, ?_⟩
    intro a ended
    obtain ⟨packet, inside, rfl⟩ := ok_of_map ended
    refine ⟨next, walk, ?_, rfl⟩
    rw [passes.2]
    exact Nat.dvd_add aligned (whole data packet inside)

theorem trackElement_moves : Moves c (trackElement element c) := by
  refine (Cursor.track_moves aligned .header rfl).bind fun word next aligned => ?_
  dsimp only
  split
  · exact .fail _
  · exact Cursor.trackPacket_moves whole aligned _

private theorem trackElements_keeps :
    Keeps c (trackElements element c) fun _ last => last.rest = [] := by
  induction c using trackElements.induct element with
  | case1 c ended =>
    rw [trackElements_atEnd element ended]
    exact .pure aligned (Cursor.atEnd_iff.mp ended)
  | case2 c more steps fault turn =>
    rw [trackElements_more element more]
    refine Keeps.bind (trackElement_moves whole aligned) fun found _ read _ _ => ?_
    rw [turn] at read
    cases read
  | case3 c more steps packet next turn ih =>
    rw [trackElements_more element more]
    refine Keeps.bind (trackElement_moves whole aligned) fun found _ read aligned stop => ?_
    rw [turn] at read
    cases read
    cases stop
    exact (ih aligned).bind fun _ _ _ aligned ended => .pure aligned ended

end

private theorem trackBundle_keeps {element : Bytes → Except DecodeFault Packet} (data : Bytes)
    (whole : ∀ data p, element data = .ok p → 4 ∣ data.length) :
    Keeps (.start data) (trackBundle element data) fun _ last => last.rest = [] := by
  refine (Cursor.track_moves (Nat.dvd_zero 4) (.words 2) rfl).bind fun _ c aligned => ?_
  refine (Cursor.trackTimetag_moves aligned).bind fun timetag c aligned => ?_
  exact (trackElements_keeps whole aligned).bind fun _ _ _ aligned ended => .pure aligned ended

/-- The reader of a packet walks from its start, and to its end if the packet is accepted. -/
theorem track_keeps {levels : Nat} (data : Bytes) (below : ∀ inner < levels, ∀ element p,
    decodeWithin inner element = .ok p → 4 ∣ element.length) :
    Keeps (.start data) (track levels data) fun _ last => last.rest = [] := by
  rw [track.eq_def]
  split
  · exact trackMessage_keeps data
  split
  · cases levels with
    | zero => exact .fail _
    | succ levels => exact trackBundle_keeps data (below levels levels.lt_succ_self)
  · split
    · exact .fail _
    · exact .fail _

/-- A packet that is accepted is walked through to its end, which is a multiple of four. -/
theorem Keeps.ended_length {data : Bytes} {x : Tracked α} {a : α}
    (h : Keeps (.start data) x fun _ last => last.rest = []) (read : x.outcome = .ok a) :
    Walk (.start data) x.steps (some ⟨data.length, []⟩) ∧ 4 ∣ data.length := by
  obtain ⟨last, walk, aligned, ended⟩ := h.ended a read
  obtain ⟨passed, passes⟩ := walk.passes last (by simp)
  obtain ⟨split, count⟩ := Cursor.start_passes.mp passes
  rw [ended, List.append_nil] at split
  obtain ⟨offset, rest⟩ := last
  subst split count ended
  exact ⟨walk, aligned⟩

/-- Every packet that is read has a length that is a multiple of four. The induction is on the
levels, since a bundle is read by what its elements are read as. -/
theorem four_dvd_of_decodeWithin {levels : Nat} {data : Bytes} {p : Packet}
    (h : decodeWithin levels data = .ok p) : 4 ∣ data.length := by
  induction levels using Nat.strong_induction_on generalizing data p with
  | h levels ih =>
    have keeps := track_keeps data fun inner lower element q => ih inner lower
    exact (keeps.ended_length ((track_outcome levels data).trans h)).2

/-! Writing. A message that is written is read again, so its length is a multiple of four like
every other; a bundle adds its head and a size for each element. -/

private theorem four_dvd_of_encodeTimetag {v : Value} {data : Bytes}
    (h : encodeTimetag v = .ok data) : 4 ∣ data.length := by
  have length := ((encodeTimetag_gives v.timeTag).of_ok data (encodeTimetag_timeTag h)).2
  omega

mutual

/-- Whatever is written has a length that is a multiple of four. -/
theorem four_dvd_of_encode {data : Bytes} : (v : Value) → encode v = .ok data → 4 ∣ data.length
  | .message address arguments, h => by
    obtain ⟨t, -, -, read⟩ := decode_received h
    exact four_dvd_of_decodeWithin read
  | .bundle timetag content, h => by
    rw [encode] at h
    obtain ⟨time, timed, h⟩ := ok_of_bind h
    obtain ⟨elements, written, h⟩ := ok_of_bind h
    cases h
    have head := four_dvd_of_encodeTimetag (mapError_eq_ok.mp timed)
    have inner := four_dvd_of_encodeElements content written
    rw [List.length_append, List.length_append]
    exact Nat.dvd_add (Nat.dvd_add (by decide) head) inner
  | .none, h | .bool _, h | .int _, h | .float _, h | .text _, h | .bytes .., h | .list _, h
  | .tuple _, h | .foreign _, h | .scalar .., h | .quad .., h | .blob _, h | .nil, h
  | .infinitum, h | .array _, h | .time .., h => by
    cases h

theorem four_dvd_of_encodeElements {data : Bytes} :
    (vs : List Value) → encodeElements vs = .ok data → 4 ∣ data.length
  | [], h => by
    cases h
    exact Nat.dvd_zero 4
  | v :: rest, h => by
    rw [encodeElements] at h
    obtain ⟨element, written, h⟩ := ok_of_bind h
    obtain ⟨first, sized, h⟩ := ok_of_bind h
    obtain ⟨more, others, h⟩ := ok_of_bind h
    cases h
    have length := ((framed_gives element).of_ok first sized).2
    have one := four_dvd_of_encode v written
    have inner := four_dvd_of_encodeElements rest others
    rw [List.length_append, length]
    exact Nat.dvd_add (Nat.dvd_add (Nat.dvd_refl 4) one) inner

end

/-- How the reader of a packet moves through it, below the levels that are left for nesting. -/
structure Disciplined (levels : Nat) (data : Bytes) : Prop where
  /-- The steps are those of the reader itself. -/
  reader : (track levels data).outcome = decodeWithin levels data
  /-- Every step starts where the one before stopped, the first one at the start of the packet. -/
  walk : ∃ last, Walk (.start data) (track levels data).steps last
  /-- The reader stays between the start of the packet and its end, and what it has still to read
  is what stands there. -/
  inside : ∀ s ∈ (track levels data).steps, ∀ c ∈ s.cursors,
    c.offset ≤ data.length ∧ c.rest = data.drop c.offset
  /-- It never moves backwards. -/
  forward : ((track levels data).steps.flatMap Step.cursors).Pairwise fun c d =>
    c.offset ≤ d.offset
  /-- A step goes on by the padded length of its field, or by the size of its element. -/
  moved : ∀ s ∈ (track levels data).steps, ∀ c, s.stop = some c →
    c.offset = s.start.offset + s.piece.extent
  /-- Whatever is read starts at a multiple of four. -/
  aligned : ∀ s ∈ (track levels data).steps, 4 ∣ s.start.offset
  /-- So padding from there on is padding from the start of the packet. -/
  padded : ∀ s ∈ (track levels data).steps, ∀ size,
    s.start.offset + padded size = padded (s.start.offset + size)
  /-- A turn begins with the header of an element, and all that follows is at least its four bytes
  further on. -/
  turns : (track levels data).steps.Pairwise fun s t => s.piece = .header →
    ∀ c ∈ t.cursors, s.start.offset + 4 ≤ c.offset
  /-- A packet that is accepted is read up to its end, and that is a multiple of four. -/
  whole : ∀ p, decodeWithin levels data = .ok p →
    Walk (.start data) (track levels data).steps (some ⟨data.length, []⟩) ∧ 4 ∣ data.length
  /-- The elements of a bundle that is accepted are packets that were accepted one level below. -/
  elements : ∀ timetag content, decodeWithin levels data = .ok (.bundle timetag content) →
    List.Forall₂ (fun element p => decodeWithin (levels - 1) element = .ok p ∧ 4 ∣ element.length)
      (track levels data).elements content

theorem disciplined (levels : Nat) (data : Bytes) : Disciplined levels data := by
  have keeps : Keeps (.start data) (track levels data) fun _ last => last.rest = [] :=
    track_keeps data fun _ _ _ _ => four_dvd_of_decodeWithin
  obtain ⟨last, walk⟩ := keeps.walk
  constructor
  case reader => exact track_outcome levels data
  case walk => exact ⟨last, walk⟩
  case inside =>
    intro s hs c hc
    have reached : c ∈ (track levels data).steps.flatMap Step.cursors ++ last.toList :=
      List.mem_append_left _ (List.mem_flatMap.mpr ⟨s, hs, hc⟩)
    obtain ⟨passed, passes⟩ := walk.passes c reached
    obtain ⟨split, offset⟩ := Cursor.start_passes.mp passes
    rw [offset, split]
    exact ⟨by simp, by simp⟩
  case forward => exact walk.forward
  case moved => exact fun s hs c stop => walk.moved hs stop
  case aligned => exact keeps.aligned
  case padded => exact fun s hs size => add_padded (keeps.aligned s hs) size
  case turns =>
    refine walk.onward.imp fun behind header c hc => ?_
    have four := behind c hc
    rwa [header] at four
  case whole => exact fun p read => keeps.ended_length ((track_outcome levels data).trans read)
  case elements =>
    intro timetag content read
    exact (track_elements read).imp fun _ _ inside => ⟨inside, four_dvd_of_decodeWithin inside⟩

end Osc.Wire

namespace Osc.Codec

/-- At every level of a datagram the reader only goes forward, from one multiple of four to the
next, so all that is accepted and all that is written has a length that is a multiple of four. -/
theorem osc_reader_aligned :
    (∀ levels data, Wire.Disciplined levels data) ∧
      (∀ data p, osc.decode data = .ok p → 4 ∣ data.length) ∧
        ∀ v data, osc.encode v = .ok data → 4 ∣ data.length := by
  refine ⟨Wire.disciplined, ?_, ?_⟩
  · exact fun data p read => Wire.four_dvd_of_decodeWithin (Wire.mapError_eq_ok.mp read)
  · exact fun v data => Wire.four_dvd_of_encode v

/-- A bundle of a message with a text and a blob in brackets is walked through from one multiple of
four to the next, and so is the message. When the header says five bytes, the reader passes these,
stands at no multiple of four and reads nothing more. -/
theorem osc_reader_aligned_brackets :
    let head : Bytes := [35, 98, 117, 110, 100, 108, 101, 0, 0, 0, 0, 0, 0, 0, 0, 1]
    let message : Bytes := [47, 97, 0, 0, 44, 91, 115, 98, 93, 0, 0, 0,
      104, 105, 0, 0, 0, 0, 0, 3, 7, 8, 9, 0]
    let data := head ++ [0, 0, 0, 24] ++ message
    let odd := head ++ [0, 0, 0, 5] ++ message
    (((Wire.track 64 data).steps.flatMap Wire.Step.cursors).map Wire.Cursor.offset =
        [0, 8, 8, 16, 16, 20, 20, 44] ∧
      ((Wire.track 63 message).steps.flatMap Wire.Step.cursors).map Wire.Cursor.offset =
        [0, 4, 4, 12, 12, 16, 16, 20, 20, 24] ∧
      (∃ p, osc.decode data = .ok p) ∧ 4 ∣ data.length) ∧
    ((Wire.track 64 odd).steps.flatMap Wire.Step.cursors).map Wire.Cursor.offset =
        [0, 8, 8, 16, 16, 20, 20, 25] ∧
      (∀ s ∈ (Wire.track 64 odd).steps, 4 ∣ s.start.offset) ∧
      ∃ cause, osc.decode odd = .error (.decode cause) := by
  intro head message data odd
  obtain ⟨disciplined, accepted, -⟩ := osc_reader_aligned
  have read : osc.decode data = .ok (.bundle .immediately [.message (Text.ofString "/a")
      [.array [.string (Text.ofString "hi"), .blob [7, 8, 9]]]]) := by cbv
  have refused : osc.decode odd = .error (.decode (.unterminated 4)) := by cbv
  refine ⟨⟨by cbv, by cbv, ⟨_, read⟩, accepted data _ read⟩, by cbv, ?_, _, refused⟩
  exact (disciplined 64 odd).aligned

end Osc.Codec
