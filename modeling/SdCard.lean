import SdCard.CardModel.Transfer
import SdCard.Disk.Request
import SdCard.PinBus.Basic
import SdCard.Session.Diagnostic
import SdCard.Session.Request
import SdCard.Simulation.ScriptedBus
import SdCard.Proofs.CardModel.Stream
import SdCard.Proofs.Command.Hearing
import SdCard.Proofs.Command.Polling
import SdCard.Proofs.Disk.Presence
import SdCard.Proofs.Disk.Warnings
import SdCard.Proofs.PinBus.SelectLine
import SdCard.Proofs.Register.Ocr
import SdCard.Proofs.Register.Reading
import SdCard.Proofs.Session.Addressing
import SdCard.Proofs.Session.Bracketing
import SdCard.Proofs.Session.BringUp
import SdCard.Proofs.Session.Exhaustion
import SdCard.Proofs.Session.Faults
import SdCard.Proofs.Session.History
import SdCard.Proofs.Session.InquiryCourse
import SdCard.Proofs.Session.Protocol
import SdCard.Proofs.Session.ReadyBudget
import SdCard.Proofs.Session.Refinement
import SdCard.Proofs.Session.Windowing
import SdCard.Proofs.Session.Wiring
import SdCard.Proofs.Session.WriteCourse
