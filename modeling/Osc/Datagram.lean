import Osc.Fault

/-!
Datagrams on their way in: what arrives at an endpoint, the buffers that take it, and
the datagram that a receiver hands on. A buffer with one byte more than the limit loses
nothing that a receiver reports (`Datagram.ofBuffer_fill`).
-/

namespace Osc

/-- What comes in from the network: data from a sender, or a failure. -/
inductive Arrival where
  | datagram (data : Bytes) (peer : Value)
  | failure (error : OsError)

/-- A buffer of a fixed size. Only what was ever written is kept; all bytes behind it
are zero. -/
structure Buffer where
  size : Nat
  written : Bytes

namespace Buffer

def empty (size : Nat) : Buffer := ⟨size, []⟩

def bytes (b : Buffer) : Bytes := b.written ++ List.replicate (b.size - b.written.length) 0

/-- The first bytes, without those behind them. -/
def first (b : Buffer) (n : Nat) : Bytes :=
  b.written.take n ++ List.replicate (min n b.size - b.written.length) 0

private theorem first_eq_take (b : Buffer) (n : Nat) : b.first n = b.bytes.take n := by
  have zeros : min n b.size - b.written.length =
      min (n - b.written.length) (b.size - b.written.length) := by omega
  rw [first, bytes, List.take_append, List.take_replicate, zeros]

/-- The number of bytes of some data that the buffer takes. -/
def room (b : Buffer) (data : Bytes) : Nat := min data.length b.size

/-- Writes data from the start on; what does not fit is dropped, and what was there before
stays behind it. -/
def fill (b : Buffer) (data : Bytes) : Buffer :=
  { b with written := data.take b.size ++ b.written.drop (b.room data) }

/-- What was written last stands at the start, whatever was in the buffer before. -/
theorem take_bytes_fill (b : Buffer) (data : Bytes) (n : Nat) (h : n ≤ b.room data) :
    (b.fill data).bytes.take n = data.take n := by
  have inside : n ≤ (data.take b.size).length := by
    simp only [room] at h
    simp only [List.length_take]
    omega
  have short : min n b.size = n := by
    simp only [room] at h
    omega
  simp only [fill, bytes, List.append_assoc]
  rw [List.take_append_of_le_length inside, List.take_take, short]

end Buffer

/-- A datagram as it was received; it is truncated when it was longer than the receiver's
capacity, and then the data is cut there. -/
structure Datagram where
  data : Bytes
  peer : Value
  truncated : Bool

/-- The datagram of which `count` bytes were written to a buffer. A limit below zero takes
no data, like a limit of zero, but even the empty datagram is truncated by it. -/
def Datagram.ofBuffer (limit : Int) (b : Buffer) (count : Nat) (peer : Value) : Datagram where
  data := b.first (min count limit.toNat)
  peer := peer
  truncated := limit < count

/-- Through a buffer with one byte to spare a datagram comes out as it went in, cut at the
limit, and is truncated exactly when it was longer. -/
theorem Datagram.ofBuffer_fill (limit : Int) (b : Buffer) (data : Bytes) (peer : Value)
    (sized : (b.size : Int) = limit + 1) :
    Datagram.ofBuffer limit (b.fill data) (b.room data) peer =
      ⟨data.take limit.toNat, peer, decide (limit < data.length)⟩ := by
  have taken := b.take_bytes_fill data (min (b.room data) limit.toNat) (Nat.min_le_left ..)
  have cut : limit < (b.room data : Nat) ↔ limit < data.length := by
    simp only [Buffer.room]
    omega
  simp only [Datagram.ofBuffer, Buffer.first_eq_take, taken, Datagram.mk.injEq, true_and]
  refine ⟨?_, decide_eq_decide.mpr cut⟩
  simp only [Buffer.room]
  by_cases long : limit < data.length
  · have : min (min data.length b.size) limit.toNat = limit.toNat := by omega
    rw [this]
  · have : min (min data.length b.size) limit.toNat = data.length := by omega
    rw [this, List.take_length, List.take_of_length_le (by omega)]

end Osc
