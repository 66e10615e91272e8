import Sp11Touch.Core.Handout
import Sp11Touch.L1Encoding.CfuPayload
import Sp11Touch.L1Encoding.HeatAgree
import Sp11Touch.L2Pipeline.AssignChecked
import Sp11Touch.L2Pipeline.ClassHistory
import Sp11Touch.L2Pipeline.DetectorFeatures
import Sp11Touch.L2Pipeline.DetectorShape
import Sp11Touch.L2Pipeline.FixedScores
import Sp11Touch.L2Pipeline.FrameFits
import Sp11Touch.L2Pipeline.Isolation
import Sp11Touch.L2Pipeline.MergeOutputs
import Sp11Touch.L2Pipeline.OracleRefine
import Sp11Touch.L2Pipeline.Reordering
import Sp11Touch.L2Pipeline.Sentinel
import Sp11Touch.L2Pipeline.StrongestContacts
import Sp11Touch.L2Pipeline.TrackStates
import Sp11Touch.L2Pipeline.Translation
import Sp11Touch.L3Driver.ColdAttach
import Sp11Touch.L3Driver.InputGate
import Sp11Touch.L3Driver.ModeConfig
import Sp11Touch.L3Driver.RecoveryLaw
import Sp11Touch.L3Driver.Replies
import Sp11Touch.L3Driver.ResponseOnly
import Sp11Touch.L4Power.InputView
import Sp11Touch.L4Power.IrqDepth
import Sp11Touch.L4Power.PolledLife
import Sp11Touch.L4Power.ResetStorm
import Sp11Touch.L4Power.Suspend
import Sp11Touch.L4Power.WireLaw
import Sp11Touch.L5Dma.BiosrefXfer
import Sp11Touch.L5Dma.GpiHeld
import Sp11Touch.L5Dma.GpiSafety
import Sp11Touch.L5Dma.SpiMessage
import Sp11Touch.L5Dma.TransferRing
