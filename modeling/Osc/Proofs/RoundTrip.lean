import Osc.Proofs.Accepted
import Osc.Proofs.Writing

/-!
Writing and reading in a row. A packet that is written is read back as it was, field for
field, unless its bundles nest deeper than reading accepts. A datagram that is read may
have been written by anyone; writing it again gives the canonical form of what it says,
which is the same datagram exactly when it had no pad bytes other than zero, no string
under its second letter and no message without type tags.
-/

namespace Osc.Codec

open Floating (Binary Binary64)
open Text (ofString)
open Wire (Layout)

/-- A packet that is written is read back, or is refused for the nesting of its bundles. -/
theorem osc_decode_encode {p : Packet} {data : Bytes} (built : p.Built)
    (written : osc.encode p.toValue = .ok data) :
    osc.decode data =
      if p.depth ≤ maxBundleDepth then .ok p else .error (.decode .tooDeep) := by
  obtain ⟨f, fits, rfl⟩ := Wire.layout_of_encode built written
  have spelled := (Wire.encode_packet fits).symm.trans written
  cases spelled
  have read := Wire.decodeWithin_bytes fits maxBundleDepth
  rw [f.canonical_packet] at read
  simp only [osc, Wire.decode, read]
  split
  · rfl
  · rfl

theorem osc_decode_encode_nested :
    let p := Packet.bundle .immediately [.message (ofString "/a")
      [.array [.float (Binary.ofWord .double 0xFFF0000000000000), .bool true], .char [0x41]]]
    let data : Bytes := [35, 98, 117, 110, 100, 108, 101, 0, 0, 0, 0, 0, 0, 0, 0, 1, 0, 0, 0, 20,
      47, 97, 0, 0, 44, 91, 102, 84, 93, 99, 0, 0, 0xFF, 0x80, 0, 0, 0, 0, 0, 0x41]
    p.Built ∧ osc.encode p.toValue = .ok data ∧ osc.decode data = .ok p := by
  intro p data
  have built : p.Built := by
    intro x hx
    have : x = Binary.ofWord .double 0xFFF0000000000000 := by
      simpa [p, Packet.floats, Argument.floats] using hx
    exact ⟨.float x, by rw [this]; rfl⟩
  have written : osc.encode p.toValue = .ok data := rfl
  have read := osc_decode_encode built written
  have shallow : p.depth ≤ maxBundleDepth := by simp [p, Packet.depth, maxBundleDepth]
  rw [if_pos shallow] at read
  exact ⟨built, written, read⟩

/-- Writing what was read gives a canonical form, which is read as the same packet. It is the
datagram itself exactly when nothing about the datagram is left out in the packet. -/
theorem osc_encode_decode {data : Bytes} {p : Packet} (short : data.length < 2 ^ 30)
    (read : osc.decode data = .ok p) :
    ∃ data', osc.encode p.toValue = .ok data' ∧ osc.decode data' = .ok p ∧
      (osc.decode data' >>= fun q => osc.encode q.toValue) = .ok data' ∧
      ∃ f : Layout, f.Fits ∧ f.bytes = data ∧ f.packet = p ∧
        ((∀ x ∈ p.floats, x.isNaN = false) →
          (data' = data ↔
            (∀ b ∈ f.padding, b = 0) ∧ .argument .symbol ∉ f.marks ∧
              ∀ m ∈ f.messages, m.tagged.isSome = true)) := by
  obtain ⟨f, fits, rfl, rfl, shallow⟩ := Wire.decodeWithin_iff.mp (Wire.mapError_eq_ok.mp read)
  have small := Layout.canonical_fits short
  have written : osc.encode f.packet.toValue = .ok f.canonical.bytes := Wire.encode_packet small
  have again : osc.decode f.canonical.bytes = .ok f.packet :=
    Wire.mapError_eq_ok.mpr
      (Wire.decodeWithin_iff.mpr ⟨f.canonical, small, rfl, f.canonical_packet, shallow⟩)
  refine ⟨f.canonical.bytes, written, again, ?_, f, fits, rfl, rfl, ?_⟩
  · rw [again, Wire.bind_ok, written]
  · intro numbers
    rw [← Layout.canonical_eq_iff numbers]
    constructor
    · exact Layout.bytes_inj small fits
    · intro same
      rw [same]

theorem osc_encode_decode_untagged :
    let data : Bytes := [47, 97, 0, 1]
    let p := Packet.message (ofString "/a") []
    data.length < 2 ^ 30 ∧ osc.decode data = .ok p ∧
      ∃ data', osc.encode p.toValue = .ok data' ∧ osc.decode data' = .ok p ∧ data' ≠ data := by
  intro data p
  have short : data.length < 2 ^ 30 := by decide
  have read : osc.decode data = .ok p := by cbv
  obtain ⟨data', written, again, -⟩ := osc_encode_decode short read
  refine ⟨short, read, data', written, again, ?_⟩
  have canonical : osc.encode p.toValue = .ok [47, 97, 0, 0, 44, 0, 0, 0] := rfl
  rw [written] at canonical
  cases canonical
  decide

end Osc.Codec
