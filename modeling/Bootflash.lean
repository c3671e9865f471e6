import Bootflash.Device
import Bootflash.Link
import Bootflash.Opcode
import Bootflash.Notice
import Bootflash.Session.Basic
import Bootflash.Session.Discovery
import Bootflash.Memory
import Bootflash.Bootloader
import Bootflash.Link.Scripted
import Bootflash.Link.Faulty
import Bootflash.Image
import Bootflash.PageCursor
import Bootflash.Programming.Pass
import Bootflash.Progress
import Bootflash.Link.Serial
import Bootflash.Link.Reception
import Bootflash.Text.Base64
import Bootflash.Text.Ascii
import Bootflash.IpAddress
import Bootflash.Url
import Bootflash.Pins
import Bootflash.Microcontroller
import Bootflash.Bench
import Bootflash.Main
import Bootflash.Proofs.Command
import Bootflash.Proofs.Attempt
import Bootflash.Proofs.Page
import Bootflash.Proofs.Retry
import Bootflash.Proofs.PageRange
import Bootflash.Proofs.Pass
import Bootflash.Proofs.FaultSafety
import Bootflash.Proofs.WholeChip
import Bootflash.Proofs.Chronicle
import Bootflash.Proofs.FaultRecovery
import Bootflash.Proofs.DelayedLink
import Bootflash.Proofs.DelayedPage
import Bootflash.Proofs.LateReplies
import Bootflash.Proofs.PointerBelief
import Bootflash.Proofs.Observer
import Bootflash.Proofs.PassWatch
import Bootflash.Proofs.PassSpeech
import Bootflash.Proofs.PassCourse
import Bootflash.Proofs.PassJournal
import Bootflash.Proofs.PointerDiscipline
import Bootflash.Proofs.PassAccount
import Bootflash.Proofs.ModeNegotiation
import Bootflash.Proofs.Conduct
import Bootflash.Proofs.RetryBudget
import Bootflash.Proofs.FaultFreeRange
import Bootflash.Proofs.AddressReach
import Bootflash.Proofs.ChipGuard
import Bootflash.Proofs.FailFast
import Bootflash.Proofs.Moves
import Bootflash.Proofs.TimeoutRestore
import Bootflash.Proofs.Lifecycle
import Bootflash.Proofs.Reception
import Bootflash.Proofs.PayloadGuard
import Bootflash.Proofs.Resync
import Bootflash.Proofs.ReadBack
import Bootflash.Proofs.ScriptedLink
import Bootflash.Proofs.DiscoveryGrammar
import Bootflash.Proofs.WordAnswer
import Bootflash.Proofs.CheckedPass
import Bootflash.Proofs.ProgressFrame
