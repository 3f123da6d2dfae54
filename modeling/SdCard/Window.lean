import SdCard.Bytes

/-!
# Windows onto a sector

A sector always crosses the wire whole. A reader who wants less of it looks through a window: of
the bytes that pass, those from `offset` on, `count` of them, go to the front of the reader's
buffer, and the buffer is otherwise left alone.

`getElem_store` says what one passing byte changes.
-/

namespace SdCard

/-- A buffer of `n` bytes whose first `count` bytes stand for the bytes of a sector from
`offset` on. -/
structure Window (n : Nat) where
  offset : Nat
  count : Nat
  bytes : Bytes n
  count_le : count ≤ n := by omega

namespace Window

variable {n : Nat}

/-- The whole of a buffer as a window that starts at `offset`. -/
def full (offset : Nat) (bytes : Bytes n) : Window n where
  offset := offset
  count := n
  bytes := bytes

/-- The window does not reach beyond the end of a sector. -/
def InSector (window : Window n) : Prop := window.offset + window.count ≤ sectorSize

instance (window : Window n) : Decidable window.InSector :=
  inferInstanceAs (Decidable (_ ≤ _))

/-- Byte `index` of the sector passes by. -/
def store (window : Window n) (index : Nat) (byte : UInt8) : Window n :=
  if h : window.offset ≤ index ∧ index < window.offset + window.count then
    { window with
      bytes := window.bytes.set (index - window.offset) byte (by have := window.count_le; omega) }
  else
    window

@[simp] theorem offset_store (window : Window n) (index : Nat) (byte : UInt8) :
    (window.store index byte).offset = window.offset := by
  unfold store; split <;> rfl

@[simp] theorem count_store (window : Window n) (index : Nat) (byte : UInt8) :
    (window.store index byte).count = window.count := by
  unfold store; split <;> rfl

/-- A passing byte changes one place of the buffer if the window reaches it, and none otherwise. -/
theorem getElem_store (window : Window n) (index : Nat) (byte : UInt8) (k : Nat) (hk : k < n) :
    (window.store index byte).bytes[k] =
      if k < window.count ∧ window.offset + k = index then byte else window.bytes[k] := by
  unfold store
  split
  · simp only [Vector.getElem_set]
    congr 1
    simp only [eq_iff_iff]
    omega
  · rw [if_neg (by omega)]

end Window

end SdCard
