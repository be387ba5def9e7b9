import Osc.Text

/-!
The fields that packets are made of. Numbers are big-endian, and every field takes a
multiple of four bytes, counted from its own start.
-/

namespace Osc.Wire

/-- The least multiple of four that is not below a length. -/
def padded (n : Nat) : Nat := (n + 3) / 4 * 4

/-- Zeros up to the next multiple of four. -/
def pad (data : Bytes) : Bytes := data ++ List.replicate (padded data.length - data.length) 0

def bigEndian : Nat → Nat → Bytes
  | 0, _ => []
  | count + 1, n => bigEndian count (n / 256) ++ [UInt8.ofNat n]

def ofBigEndian (data : Bytes) : Nat := data.foldl (fun n b => n * 256 + b.toNat) 0

/-- A signed number as the word of `bits` bits that stands for it. -/
def signedWord (bits : Nat) (n : Int) : Nat := (n % 2 ^ bits).toNat

def ofSignedWord (bits : Nat) (n : Nat) : Int :=
  if n < 2 ^ (bits - 1) then n else (n : Int) - 2 ^ bits

def int32 (n : Int) : Bytes := bigEndian 4 (signedWord 32 n)

def int64 (n : Int) : Bytes := bigEndian 8 (signedWord 64 n)

def ofInt32 (data : Bytes) : Int := ofSignedWord 32 (ofBigEndian data)

def ofInt64 (data : Bytes) : Int := ofSignedWord 64 (ofBigEndian data)

/-- Bytes that hold no zero, ended by one and padded. -/
def terminated (data : Bytes) : Bytes := pad (data ++ [0])

/-- A size, then that many bytes, padded. -/
def sized (data : Bytes) : Bytes := int32 data.length ++ pad data

def bundleTag : Bytes := [35, 98, 117, 110, 100, 108, 101, 0]

/-- What an argument may be, one letter each; `symbol` is a second letter for strings. -/
inductive Tag where
  | int
  | float
  | string
  | symbol
  | blob
  | time
  | long
  | double
  | char
  | color
  | midi
  | yes
  | no
  | nil
  | infinitum
deriving DecidableEq

/-- A letter of the type tag string: an argument or a bracket around the items of an array. -/
inductive Mark where
  | argument (tag : Tag)
  | opening
  | closing
deriving DecidableEq

def Tag.letter : Tag → Char
  | .int => 'i'
  | .float => 'f'
  | .string => 's'
  | .symbol => 'S'
  | .blob => 'b'
  | .time => 't'
  | .long => 'h'
  | .double => 'd'
  | .char => 'c'
  | .color => 'r'
  | .midi => 'm'
  | .yes => 'T'
  | .no => 'F'
  | .nil => 'N'
  | .infinitum => 'I'

def Mark.letter : Mark → Char
  | .argument tag => tag.letter
  | .opening => '['
  | .closing => ']'

def Mark.all : List Mark :=
  [.opening, .closing, .argument .int, .argument .float, .argument .string, .argument .symbol,
    .argument .blob, .argument .time, .argument .long, .argument .double, .argument .char,
    .argument .color, .argument .midi, .argument .yes, .argument .no, .argument .nil,
    .argument .infinitum]

def Mark.byte (mark : Mark) : UInt8 := UInt8.ofNat mark.letter.toNat

def Mark.codePoint (mark : Mark) : CodePoint := CodePoint.ofChar mark.letter

def Mark.ofCodePoint? (c : CodePoint) : Option Mark :=
  Mark.all.find? fun mark => mark.codePoint == c

theorem Mark.ofCodePoint?_codePoint (mark : Mark) :
    Mark.ofCodePoint? mark.codePoint = some mark := by
  cases mark with
  | argument tag => cases tag <;> decide
  | opening => decide
  | closing => decide

theorem Mark.eq_codePoint_of_ofCodePoint? {c : CodePoint} {mark : Mark}
    (h : Mark.ofCodePoint? c = some mark) : c = mark.codePoint := by
  have found := List.find?_some h
  exact (beq_iff_eq.mp found).symm

end Osc.Wire
