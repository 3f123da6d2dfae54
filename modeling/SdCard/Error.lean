import SdCard.Card.State

/-!
# Errors

The ways in which an operation on a card can end without its result. The type of the fault that
a bus reports is left open: a bus brings its own, and only its text is used.
-/

namespace SdCard

/-- Why an operation gave no result. -/
inductive Error (ε : Type)
  /-- A call of the bus failed. -/
  | transport (fault : ε)
  /-- The operation needs a ready card. -/
  | notReady
  /-- The bytes asked for do not lie inside one sector. -/
  | outOfRange (offset length : Nat)
  /-- The card broke off at a known step. -/
  | card (failure : Failure)
deriving DecidableEq

namespace Error

variable {ε : Type} [ToString ε]

/-- The text shown to a person. -/
def message : Error ε → String
  | transport fault => s!"spi transport error: {fault}"
  | notReady => "card not ready"
  | outOfRange offset length => s!"byte range out of sector: offset={offset} len={length}"
  | card failure => failure.label

/-- The text written into a log: the kind of error with its details. -/
def detail : Error ε → String
  | transport fault => s!"Transport({fault})"
  | notReady => "NotReady"
  | outOfRange offset length => s!"OutOfRange \x7b offset: {offset}, len: {length} \x7d"
  | card failure => s!"Card({failure.name})"

end Error

end SdCard
