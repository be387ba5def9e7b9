import Osc.Text

/-!
UTF-8. Writing refuses surrogates and names the first run of them; reading
refuses everything that writing cannot produce and names the first bad range:
the lead byte together with the continuation bytes that were valid after it.
-/

namespace Osc.Utf8

/-- The places of the first run of surrogates, `start` included and `stop` excluded. -/
structure SurrogateRun where
  first : CodePoint
  start : Nat
  stop : Nat

inductive Defect where
  | start
  | continuation
  | cut

/-- A range of bytes that is no character, counted from the first byte read. -/
structure Malformed where
  lead : UInt8
  position : Nat
  length : Nat
  defect : Defect

def encodePoint (c : CodePoint) : Bytes :=
  if c.val < 0x80 then
    [UInt8.ofNat c.val]
  else if c.val < 0x800 then
    [UInt8.ofNat (0xC0 + c.val / 0x40), UInt8.ofNat (0x80 + c.val % 0x40)]
  else if c.val < 0x10000 then
    [UInt8.ofNat (0xE0 + c.val / 0x1000), UInt8.ofNat (0x80 + c.val / 0x40 % 0x40),
      UInt8.ofNat (0x80 + c.val % 0x40)]
  else
    [UInt8.ofNat (0xF0 + c.val / 0x40000), UInt8.ofNat (0x80 + c.val / 0x1000 % 0x40),
      UInt8.ofNat (0x80 + c.val / 0x40 % 0x40), UInt8.ofNat (0x80 + c.val % 0x40)]

def encodeFrom (position : Nat) : Text → Except SurrogateRun Bytes
  | [] => .ok []
  | c :: rest =>
    if c.isSurrogate then
      .error ⟨c, position, position + 1 + (rest.takeWhile CodePoint.isSurrogate).length⟩
    else do
      let more ← encodeFrom (position + 1) rest
      return encodePoint c ++ more

def encode (t : Text) : Except SurrogateRun Bytes := encodeFrom 0 t

/-- The number of bytes that a text takes. -/
def size (t : Text) : Nat := (t.flatMap encodePoint).length

/-- What a lead byte announces: how many bytes the character has and, where it is
narrower than for any continuation byte, the range of the second one. -/
inductive Lead where
  | one
  | two
  | three (low high : UInt8)
  | four (low high : UInt8)

def Lead.ofByte? (b : UInt8) : Option Lead :=
  if b < 0x80 then some .one
  else if b < 0xC2 then none
  else if b < 0xE0 then some .two
  else if b = 0xE0 then some (.three 0xA0 0xBF)
  else if b = 0xED then some (.three 0x80 0x9F)
  else if b < 0xF0 then some (.three 0x80 0xBF)
  else if b = 0xF0 then some (.four 0x90 0xBF)
  else if b < 0xF4 then some (.four 0x80 0xBF)
  else if b = 0xF4 then some (.four 0x80 0x8F)
  else none

def within (low high b : UInt8) : Bool := low ≤ b && b ≤ high

def isContinuation (b : UInt8) : Bool := within 0x80 0xBF b

def payload (b : UInt8) : Nat := b.toNat % 0x40

def followed (n : Nat) (rest : Except Malformed Text) : Except Malformed Text :=
  rest.map (CodePoint.ofNat n :: ·)

def decodeFrom (position : Nat) : Bytes → Except Malformed Text
  | [] => .ok []
  | b :: rest =>
    match Lead.ofByte? b with
    | none => .error ⟨b, position, 1, .start⟩
    | some .one => followed b.toNat (decodeFrom (position + 1) rest)
    | some .two =>
      match rest with
      | [] => .error ⟨b, position, 1, .cut⟩
      | c :: rest =>
        if isContinuation c then
          followed (b.toNat % 0x20 * 0x40 + payload c) (decodeFrom (position + 2) rest)
        else .error ⟨b, position, 1, .continuation⟩
    | some (.three low high) =>
      match rest with
      | [] => .error ⟨b, position, 1, .cut⟩
      | c :: rest =>
        if within low high c then
          match rest with
          | [] => .error ⟨b, position, 2, .cut⟩
          | d :: rest =>
            if isContinuation d then
              followed (b.toNat % 0x10 * 0x1000 + payload c * 0x40 + payload d)
                (decodeFrom (position + 3) rest)
            else .error ⟨b, position, 2, .continuation⟩
        else .error ⟨b, position, 1, .continuation⟩
    | some (.four low high) =>
      match rest with
      | [] => .error ⟨b, position, 1, .cut⟩
      | c :: rest =>
        if within low high c then
          match rest with
          | [] => .error ⟨b, position, 2, .cut⟩
          | d :: rest =>
            if isContinuation d then
              match rest with
              | [] => .error ⟨b, position, 3, .cut⟩
              | e :: rest =>
                if isContinuation e then
                  followed
                    (b.toNat % 0x08 * 0x40000 + payload c * 0x1000 + payload d * 0x40 + payload e)
                    (decodeFrom (position + 4) rest)
                else .error ⟨b, position, 3, .continuation⟩
            else .error ⟨b, position, 2, .continuation⟩
        else .error ⟨b, position, 1, .continuation⟩

def decode (bytes : Bytes) : Except Malformed Text := decodeFrom 0 bytes

end Osc.Utf8
