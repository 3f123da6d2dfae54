/-!
# Bytes in hexadecimal

Diagnostics show a byte as two lower-case hexadecimal digits. `hexDigit_injective` says that
the digits are told apart, so two bytes with one text are the same byte (`hex_injective`).
-/

namespace SdCard

/-- The lower-case digit of a value below sixteen. -/
def hexDigit (value : Nat) : Char :=
  if value < 10 then Char.ofNat ('0'.toNat + value) else Char.ofNat ('a'.toNat + (value - 10))

/-- Values below sixteen have digits of their own. -/
theorem hexDigit_injective :
    ∀ a < 16, ∀ b < 16, hexDigit a = hexDigit b → a = b := by decide

/-- The two digits of a byte, high half first. -/
def hex (byte : UInt8) : String :=
  String.ofList [hexDigit (byte.toNat / 16), hexDigit (byte.toNat % 16)]

/-- Two bytes with one text are the same byte. -/
theorem hex_injective {a b : UInt8} (h : hex a = hex b) : a = b := by
  have digits := String.ofList_injective h
  simp only [List.cons.injEq, and_true] at digits
  have ha := a.toNat_lt
  have hb := b.toNat_lt
  have high := hexDigit_injective _ (by omega) _ (by omega) digits.1
  have low := hexDigit_injective _ (by omega) _ (by omega) digits.2
  exact UInt8.toNat_inj.1 (by omega)

end SdCard
