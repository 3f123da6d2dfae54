import SdCard.Bus.Run
import SdCard.PinBus.Hardware
import SdCard.Simulation.Script

/-!
# Buses and hardware on a script

A `ScriptedBus` takes the answers of every call from a script and says for a number of times that
its output queue is busy. Scripted hardware takes them from a script too.
-/

namespace SdCard

/-- A script with an output queue that is busy for a while. -/
structure ScriptedBus where
  script : Script
  /-- How often the output queue will still be busy. -/
  busyAnswers : Nat := 0

namespace ScriptedBus

/-- The bus, every fault of which is `fault`. -/
def bus {ε : Type} (fault : ε) : Bus ε ScriptedBus where
  control _ s :=
    let (answer, script) := s.script.call fault
    (answer, { s with script })
  transfer _ s :=
    let (answer, script) := s.script.reply fault
    (answer, { s with script })
  fifoBusy s := (s.busyAnswers ≠ 0, { s with busyAnswers := s.busyAnswers - 1 })

end ScriptedBus

/-- Hardware that answers by a script, with one fault of the peripheral and one of the pin. -/
def scriptedHardware {φ π : Type} (fault : φ) (pinFault : π) : Hardware φ π Script where
  setPin _ := Script.call pinFault
  reconfigure _ _ := Script.call fault
  shift _ := Script.reply fault
  flush := Script.call fault

end SdCard
