import SdCard.Log

/-!
# What a line of the log tells

The lines that are written about failures are put together from fixed words and what there is to
report: the index of the chip select in base ten, the label of the step, bytes in base sixteen, and
the text of a fault. They are given here as they are read, with the digits of numbers as usual.

* `text_cardFailed`, `text_transportFailed`, `text_diskFailed`: what is written is these lines;
* `cardLine_inj`: the line about a failure of a card tells the session, the step, and both bytes.
-/

namespace SdCard

variable {ε : Type}

/-! ## Lines -/

/-- A byte in base sixteen, with both digits. -/
def digits (byte : UInt8) : String :=
  String.ofList [Nat.digitChar (byte.toNat / 16), Nat.digitChar (byte.toNat % 16)]

/-- What is read about a failure of the card, with its last response and data token. -/
def cardLine (chipSelect : UInt8) (failure : Failure) (response token : UInt8) : String :=
  "sdcard[cs" ++ Nat.repr chipSelect.toNat ++ "]: failed state=" ++ failure.label ++
    " r1=0x" ++ digits response ++ " token=0x" ++ digits token

/-- What is read about a fault of the bus. -/
def transportLine [ToString ε] (chipSelect : UInt8) (fault : ε) : String :=
  "sdcard[cs" ++ Nat.repr chipSelect.toNat ++ "]: transport_error=" ++ toString fault

/-- What is read about a disk that was not brought up, with the step that was recorded. -/
def diskLine [ToString ε] (chipSelect : UInt8) (error : Error ε) (failure : Failure) : String :=
  "diskio[cs" ++ Nat.repr chipSelect.toNat ++ "]: init_error=" ++ error.detail ++
    " state=" ++ failure.label

/-! ## Records are written as these lines -/

theorem hex_eq_digits (byte : UInt8) : hex byte = digits byte := by
  have hdigit : ∀ value < 16, hexDigit value = Nat.digitChar value := by decide
  have hhigh : byte.toNat / 16 < 16 := Nat.div_lt_of_lt_mul byte.toNat_lt
  have hlow : byte.toNat % 16 < 16 := Nat.mod_lt _ (by decide)
  rw [hex, digits, hdigit _ hhigh, hdigit _ hlow]

theorem text_cardFailed [ToString ε] (chipSelect : UInt8) (failure : Failure)
    (response token : UInt8) :
    (LogRecord.cardFailed chipSelect failure response token : LogRecord ε).text =
      cardLine chipSelect failure response token := by
  rw [cardLine, ← hex_eq_digits, ← hex_eq_digits]
  rfl

example : cardLine 1 .resetIgnored 0xFF 0x00 =
    "sdcard[cs1]: failed state=cmd0 failed: card never entered idle r1=0xff token=0x00" := by
  decide

theorem text_transportFailed [ToString ε] (chipSelect : UInt8) (fault : ε) :
    (LogRecord.transportFailed chipSelect fault).text = transportLine chipSelect fault := rfl

theorem text_diskFailed [ToString ε] (chipSelect : UInt8) (error : Error ε) (failure : Failure) :
    (LogRecord.diskFailed chipSelect error (.failed failure)).text =
      diskLine chipSelect error failure := rfl

/-! ## Lines are told apart -/

/-- No two steps have one label. -/
theorem Failure.label_injective {a b : Failure} (h : a.label = b.label) : a = b := by
  cases a <;> cases b <;> first | rfl | simp [Failure.label] at h

theorem digits_injective {a b : UInt8} (h : digits a = digits b) : a = b := by
  rw [← hex_eq_digits, ← hex_eq_digits] at h
  exact hex_injective h

/-- Endings of one length can be taken off. -/
theorem append_inj_of_length {a b c d : String} (h : a ++ c = b ++ d)
    (hlength : c.length = d.length) : a = b ∧ c = d := by
  have hlist : a.toList ++ c.toList = b.toList ++ d.toList := by
    rw [← String.toList_append, ← String.toList_append, h]
  obtain ⟨hfirst, hlast⟩ := List.append_inj' hlist hlength
  exact ⟨String.toList_injective hfirst, String.toList_injective hlast⟩

/-- A number ends where its brackets do. -/
theorem repr_bracket_inj {m n : Nat} {a b : List Char}
    (h : (Nat.repr m).toList ++ ']' :: a = (Nat.repr n).toList ++ ']' :: b) : m = n ∧ a = b := by
  simp only [Nat.repr_eq_ofList_toDigits, String.toList_ofList] at h
  have hbefore : ∀ (k : Nat) (rest : List Char),
      (Nat.toDigits 10 k ++ ']' :: rest).takeWhile (· ≠ ']') = Nat.toDigits 10 k := by
    intro k rest
    have hdigits : ∀ c ∈ Nat.toDigits 10 k, decide (c ≠ ']') = true := by
      intro c hc
      have hdigit := Nat.isDigit_of_mem_toDigits (by decide) (by decide) hc
      refine decide_eq_true fun hbracket => ?_
      rw [hbracket] at hdigit
      exact absurd hdigit (by decide)
    rw [List.takeWhile_append_of_pos hdigits, List.takeWhile_cons_of_neg (by simp),
      List.append_nil]
  have hdigits : Nat.toDigits 10 m = Nat.toDigits 10 n := by
    rw [← hbefore m a, h, hbefore n b]
  have hread : ∀ k, Nat.ofDigitChars 10 (Nat.toDigits 10 k) 0 = k :=
    fun _ => Nat.ofDigitChars_toDigits (by decide) (by decide)
  refine ⟨?_, ?_⟩
  · rw [← hread m, hdigits, hread n]
  · rw [hdigits] at h
    exact (List.cons.inj (List.append_cancel_left h)).2

/-- The line about a failure of a card tells which session made it, at which step the card failed,
and the last response and token. -/
theorem cardLine_inj {chipSelect chipSelect' response response' token token' : UInt8}
    {failure failure' : Failure}
    (h : cardLine chipSelect failure response token =
      cardLine chipSelect' failure' response' token') :
    chipSelect = chipSelect' ∧ failure = failure' ∧ response = response' ∧ token = token' := by
  have hlength : ∀ a b : UInt8, (digits a).length = (digits b).length := fun a b => by
    simp [digits]
  -- the bytes are read off the end, where the number of digits is known
  obtain ⟨h, htoken⟩ := append_inj_of_length h (hlength _ _)
  obtain ⟨h, -⟩ := append_inj_of_length h rfl
  obtain ⟨h, hresponse⟩ := append_inj_of_length h (hlength _ _)
  obtain ⟨h, -⟩ := append_inj_of_length h rfl
  -- the index is read off the front, up to the bracket
  have hlist := congrArg String.toList h
  simp only [String.toList_append, List.append_assoc] at hlist
  obtain ⟨hindex, hrest⟩ := repr_bracket_inj (List.append_cancel_left hlist)
  have hlabel : failure.label = failure'.label :=
    String.toList_injective (List.append_cancel_left hrest)
  exact ⟨UInt8.toNat_inj.mp hindex, Failure.label_injective hlabel, digits_injective hresponse,
    digits_injective htoken⟩

end SdCard
