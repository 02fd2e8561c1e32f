import SplitBoard.Bus.Script
import SplitBoard.Key.Debounce
import SplitBoard.Main
import SplitBoard.Switches.Matrix
import SplitBoard.TwoWire.Master
import SplitBoard.Proofs.Conduct
import SplitBoard.Proofs.UpdateSteps
import SplitBoard.Proofs.Device
import SplitBoard.Proofs.Flashing
import SplitBoard.Proofs.ContiguousUpdate
import SplitBoard.Proofs.Phases
import SplitBoard.Proofs.UpdateOrder
import SplitBoard.Proofs.UpdateCourse
import SplitBoard.Proofs.PagePlan
import SplitBoard.Proofs.PhaseTalk
import SplitBoard.Proofs.PageProgress
import SplitBoard.Proofs.AddressableImages
import SplitBoard.Proofs.BoardRun
import SplitBoard.Proofs.KeyscanInterval
import SplitBoard.Proofs.LedCoherence
import SplitBoard.Proofs.Availability
import SplitBoard.Proofs.StableKeys
import SplitBoard.Proofs.PolledKeys
import SplitBoard.Proofs.ReleasedKeys
import SplitBoard.Proofs.DamagedFrames
import SplitBoard.Proofs.RepeatedUpdate
import SplitBoard.Proofs.ScatteredUpdate
import SplitBoard.Proofs.EncodedText
import SplitBoard.Proofs.HexRecords
import SplitBoard.Proofs.HexImage
import SplitBoard.Proofs.AddressArithmetic
import SplitBoard.Proofs.HexGrammar
import SplitBoard.Proofs.FlashedHalf
import SplitBoard.Proofs.Reverification
import SplitBoard.Proofs.SuspendedHalf
import SplitBoard.Proofs.HotPlug
import SplitBoard.Proofs.BankTurns
import SplitBoard.Proofs.BusOwnership
import SplitBoard.Proofs.OtherAddresses
import SplitBoard.Proofs.MainMatrix
import SplitBoard.Proofs.ChangedBanks
import SplitBoard.Proofs.BankBytes
import SplitBoard.Proofs.FullRefresh
import SplitBoard.Proofs.TaskEnds
import SplitBoard.Proofs.DarkLed
import SplitBoard.Proofs.UnitSteps
import SplitBoard.Proofs.WriteEnds
import SplitBoard.Proofs.ReceivedBytes
import SplitBoard.Proofs.SwitchScan
import SplitBoard.Proofs.KeyEvents
import SplitBoard.Proofs.ScanPacing
import SplitBoard.Proofs.UpdateTime
import SplitBoard.Proofs.HexCorruption
import SplitBoard.Proofs.ProfileDocuments
import SplitBoard.Proofs.LedRepresentation
import SplitBoard.Proofs.ColorText
