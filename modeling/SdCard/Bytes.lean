/-!
# Byte strings

Everything that crosses the wire is a string of bytes, most significant byte first. `Bytes n`
fixes the length in the type, so that a response, a register or a sector is indexed without a
check at run time; the numeric readings below are what frames and registers are decoded with.

* `Bytes.ofList` pads with zeros, and `Bytes.toList_ofList` says what it keeps;
* `bigEndian` is the value of a byte string, and `Bytes.word_ofWord` says that a 32-bit word
  is recovered from its four bytes.
-/

namespace SdCard

/-- A string of exactly `n` bytes. -/
abbrev Bytes (n : Nat) := Vector UInt8 n

/-- Bytes in a sector, the unit in which a card is read and written. -/
def sectorSize : Nat := 512

/-- The contents of one sector. -/
abbrev Sector := Bytes sectorSize

/-- The value of a byte string whose first byte is the most significant. -/
def bigEndian (bytes : List UInt8) : Nat :=
  bytes.foldl (fun value byte => value * 256 + byte.toNat) 0

namespace Bytes

variable {n : Nat}

/-- Puts one byte in front. -/
def cons (byte : UInt8) (bytes : Bytes n) : Bytes (n + 1) :=
  (#v[byte] ++ bytes).cast (Nat.add_comm 1 n)

@[simp] theorem toList_cons (byte : UInt8) (bytes : Bytes n) :
    (cons byte bytes).toList = byte :: bytes.toList := by
  simp [cons, Vector.toList]

/-- `n` zero bytes. -/
def zero (n : Nat) : Bytes n := Vector.replicate n 0

@[simp] theorem toList_zero (n : Nat) : (zero n).toList = List.replicate n 0 := by
  simp [zero]

/-- The first `n` bytes of a list, followed by zeros where the list is shorter. -/
def ofList (n : Nat) (bytes : List UInt8) : Bytes n :=
  ⟨(bytes.take n ++ List.replicate (n - bytes.length) 0).toArray, by simp; omega⟩

@[simp] theorem toList_ofList (bytes : List UInt8) :
    (ofList n bytes).toList = bytes.take n ++ List.replicate (n - bytes.length) 0 := by
  simp [ofList, Vector.toList]

/-- The four bytes of a 32-bit word. -/
def ofWord (word : UInt32) : Bytes 4 :=
  #v[(word >>> 24).toUInt8, (word >>> 16).toUInt8, (word >>> 8).toUInt8, word.toUInt8]

/-- The 32-bit word that four bytes spell. -/
def word (bytes : Bytes 4) : UInt32 := .ofNat (bigEndian bytes.toList)

/-- The 16-bit word that two bytes spell. -/
def half (bytes : Bytes 2) : UInt16 := .ofNat (bigEndian bytes.toList)

/-- The bytes of a word have the value of the word. -/
theorem bigEndian_ofWord (w : UInt32) : bigEndian (ofWord w).toList = w.toNat := by
  have h := w.toNat_lt
  simp [ofWord, bigEndian, Vector.toList, Nat.shiftRight_eq_div_pow]
  omega

/-- A word is recovered from its four bytes. -/
@[simp] theorem word_ofWord (w : UInt32) : (ofWord w).word = w := by
  simp [word, bigEndian_ofWord]

end Bytes

end SdCard
