import Osc.Fault
import Osc.Packet
import Osc.Wire.Field

/-!
Reading a packet. Every field is taken from a cursor that counts the bytes before it
within its own packet; an element of a bundle is a packet with a cursor of its own.
Pad bytes are not looked at, a message may lack its type tags, and bundles nest to a
fixed depth; everything else that encoding does not write is refused.
-/

namespace Osc.Wire

open Floating (Binary)

structure Cursor where
  offset : Nat
  rest : Bytes

/-- The first `count` bytes and what follows them, when there are that many. -/
def split? : Nat → Bytes → Option (Bytes × Bytes)
  | 0, rest => some ([], rest)
  | _ + 1, [] => none
  | count + 1, b :: rest => (split? count rest).map fun (taken, rest) => (b :: taken, rest)

theorem split?_eq_some {count : Nat} {data taken rest : Bytes}
    (h : split? count data = some (taken, rest)) : data = taken ++ rest ∧ taken.length = count := by
  induction count generalizing data taken with
  | zero =>
    simp only [split?, Option.some.injEq, Prod.mk.injEq] at h
    simp [← h.1, ← h.2]
  | succ count ih =>
    cases data with
    | nil => simp [split?] at h
    | cons b data =>
      simp only [split?, Option.map_eq_some_iff, Prod.mk.injEq, Prod.exists] at h
      obtain ⟨more, remaining, found, rfl, rfl⟩ := h
      obtain ⟨rfl, size⟩ := ih found
      simp [size]

theorem split?_append (taken rest : Bytes) :
    split? taken.length (taken ++ rest) = some (taken, rest) := by
  induction taken with
  | nil => rfl
  | cons b taken ih => simp [split?, ih]

namespace Cursor

def start (data : Bytes) : Cursor := ⟨0, data⟩

def atEnd (c : Cursor) : Bool := c.rest.isEmpty

def take (c : Cursor) (count : Nat) : Except DecodeFault (Bytes × Cursor) :=
  match split? count c.rest with
  | some (taken, rest) => .ok (taken, ⟨c.offset + count, rest⟩)
  | none => .error (.truncated count c.offset c.rest.length)

/-- Text up to the first zero byte, with the padding after it. -/
def string (c : Cursor) : Except DecodeFault (Text × Cursor) := do
  let body := c.rest.takeWhile (· != 0)
  if (c.rest.drop body.length).isEmpty then .error (.unterminated c.offset)
  else
    let (_, next) ← c.take (padded (body.length + 1))
    match Utf8.decode body with
    | .ok t => .ok (t, next)
    | .error cause => .error (.invalidUtf8 cause)

def int32 (c : Cursor) : Except DecodeFault (Int × Cursor) := do
  let (word, next) ← c.take 4
  return (ofInt32 word, next)

def blob (c : Cursor) : Except DecodeFault (Bytes × Cursor) := do
  let (size, next) ← c.int32
  if size < 0 then .error (.negativeBlob size)
  else
    let (data, next) ← next.take (padded size.toNat)
    return (data.take size.toNat, next)

def timetag (c : Cursor) : Except DecodeFault (TimeTag × Cursor) := do
  let (words, next) ← c.take 8
  return (⟨ofBigEndian (words.take 4), ofBigEndian (words.drop 4)⟩, next)

def quad (c : Cursor) : Except DecodeFault ((Int × Int × Int × Int) × Cursor) := do
  let (data, next) ← c.take 4
  let component (place : Nat) : Int := (data.getD place 0).toNat
  return ((component 0, component 1, component 2, component 3), next)

end Cursor

/-- The argument that a tag announces. -/
def readArgument (tag : Tag) (c : Cursor) : Except DecodeFault (Argument × Cursor) :=
  match tag with
  | .int => do
    let (n, next) ← c.int32
    return (.int n, next)
  | .float => do
    let (word, next) ← c.take 4
    return (.float (Binary.ofWord .single (ofBigEndian word)).widen, next)
  | .string | .symbol => do
    let (t, next) ← c.string
    return (.string t, next)
  | .blob => do
    let (data, next) ← c.blob
    return (.blob data, next)
  | .time => do
    let (tag, next) ← c.timetag
    return (.time tag, next)
  | .long => do
    let (word, next) ← c.take 8
    return (.long (ofInt64 word), next)
  | .double => do
    let (word, next) ← c.take 8
    return (.double (Binary.ofWord .double (ofBigEndian word)), next)
  | .char => do
    let (word, next) ← c.take 4
    let code := ofBigEndian word
    if h : code < 0x110000 then return (.char [⟨code, h⟩], next)
    else .error (.invalidChar code)
  | .color => do
    let ((red, green, blue, alpha), next) ← c.quad
    return (.color red green blue alpha, next)
  | .midi => do
    let ((port, status, data1, data2), next) ← c.quad
    return (.midi port status data1 data2, next)
  | .yes => .ok (.bool true, c)
  | .no => .ok (.bool false, c)
  | .nil => .ok (.nil, c)
  | .infinitum => .ok (.infinitum, c)

/-- Reads the arguments of a list of tags. `outer` holds the items before each open
bracket, the innermost first, and `items` those read since the last one; all are kept
in reverse order. -/
def readArguments (outer : List (List Argument)) (items : List Argument) :
    List CodePoint → Cursor → Except DecodeFault (List Argument × Cursor)
  | [], c => if outer.isEmpty then .ok (items.reverse, c) else .error .unbalancedOpen
  | letter :: letters, c =>
    match Mark.ofCodePoint? letter with
    | none => .error (.unknownTag letter)
    | some .opening => readArguments (items :: outer) [] letters c
    | some .closing =>
      match outer with
      | [] => .error .unbalancedClose
      | before :: outer => readArguments outer (.array items.reverse :: before) letters c
    | some (.argument tag) =>
      match readArgument tag c with
      | .error fault => .error fault
      | .ok (item, next) => readArguments outer (item :: items) letters next

def tagComma : CodePoint := CodePoint.ofChar ','

def decodeMessage (data : Bytes) : Except DecodeFault Packet := do
  let (address, c) ← (Cursor.start data).string
  if c.atEnd then return .message address []
  else
    let (tags, c) ← c.string
    match tags with
    | [] => .error (.tagStart tags)
    | first :: letters =>
      if first ≠ tagComma then .error (.tagStart tags)
      else
        let (arguments, c) ← readArguments [] [] letters c
        if c.atEnd then return .message address arguments
        else .error (.trailing c.rest.length address)

theorem Cursor.take_eq_ok {c next : Cursor} {count : Nat} {taken : Bytes}
    (h : c.take count = .ok (taken, next)) :
    c.rest = taken ++ next.rest ∧ taken.length = count ∧ next.offset = c.offset + count := by
  unfold Cursor.take at h
  split at h
  · next found =>
    simp only [Except.ok.injEq, Prod.mk.injEq] at h
    obtain ⟨rfl, rfl⟩ := h
    exact ⟨(split?_eq_some found).1, (split?_eq_some found).2, rfl⟩
  · simp at h

theorem Cursor.int32_eq_ok {c next : Cursor} {n : Int} (h : c.int32 = .ok (n, next)) :
    c.rest.length = next.rest.length + 4 := by
  unfold Cursor.int32 at h
  cases taken : c.take 4 with
  | error fault => simp [taken, bind, Except.bind] at h
  | ok found =>
    obtain ⟨word, after⟩ := found
    simp only [taken, bind, Except.bind, pure, Except.pure, Except.ok.injEq, Prod.mk.injEq] at h
    obtain ⟨split, size, _⟩ := Cursor.take_eq_ok taken
    rw [← h.2, split, List.length_append, size]
    omega

/-- The elements of a bundle up to its end, each read by `element` from its own bytes. -/
def readElements (element : Bytes → Except DecodeFault Packet) (c : Cursor) :
    Except DecodeFault (List Packet) :=
  if c.atEnd then .ok []
  else
    match _header : c.int32 with
    | .error fault => .error fault
    | .ok (size, next) =>
      if size < 0 then .error (.elementSize size next.rest.length)
      else
        match _body : split? size.toNat next.rest with
        | none => .error (.elementSize size next.rest.length)
        | some (data, rest) =>
          match element data with
          | .error fault => .error fault
          | .ok packet =>
            (readElements element ⟨next.offset + size.toNat, rest⟩).map (packet :: ·)
termination_by c.rest.length
decreasing_by
  have h := Cursor.int32_eq_ok _header
  have s := (split?_eq_some _body).1
  have l : next.rest.length = data.length + rest.length := by rw [s, List.length_append]
  omega

def slashByte : UInt8 := 47

/-- Reads a packet in which bundles nest at most `levels` deep. -/
def decodeWithin (levels : Nat) (data : Bytes) : Except DecodeFault Packet :=
  if data.head? = some slashByte then decodeMessage data
  else if bundleTag.isPrefixOf data then
    match levels with
    | 0 => .error .tooDeep
    | levels + 1 => do
      let (_, c) ← (Cursor.start data).take bundleTag.length
      let (timetag, c) ← c.timetag
      let content ← readElements (decodeWithin levels) c
      return .bundle timetag content
  else if data.isEmpty then .error .empty
  else .error (.unknownStart (data.take 8))

def decode (data : Bytes) : Except DecodeFault Packet := decodeWithin maxBundleDepth data

end Osc.Wire
