import SdCard.Hex
import SdCard.Session.Basic

/-!
# The diagnostic line

One line that tells where a session stands and what the card answered last.
-/

namespace SdCard

/-- State, last response and last token in one line. -/
def Session.diagnosticLine (session : Session) : String :=
  s!"{session.state.label} r1=0x{hex session.lastResponse} token=0x{hex session.lastToken}"

end SdCard
