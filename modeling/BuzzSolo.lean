import BuzzSolo.LogRecovery
import BuzzSolo.ReplicationDrain
import BuzzSolo.CheckpointSafety
import BuzzSolo.HandoffStrangers
import BuzzSolo.AppendAtomicity
import BuzzSolo.ArtifactAgreement
import BuzzSolo.PairingSafety
import BuzzSolo.QueueDistinct
import BuzzSolo.QueueRetries
import BuzzSolo.LiveSettling
import BuzzSolo.DroppedEvents
import BuzzSolo.ObserverFrames
import BuzzSolo.SubscriptionIntent
import BuzzSolo.BranchProtection
import BuzzSolo.CursorPaging
import BuzzSolo.PayloadBinding
import BuzzSolo.RestartBudget
import BuzzSolo.ModelSwitch
import BuzzSolo.PairHandover
import BuzzSolo.GitSignBinding
import BuzzSolo.ToolPairing
import BuzzSolo.SteerDelivery
import BuzzSolo.HandoffAcknowledgment
import BuzzSolo.GroupBackfill
import BuzzSolo.PairingQr
import BuzzSolo.EngramBody
import BuzzSolo.EngramReferences
import BuzzSolo.QueueReadiness
import BuzzSolo.UsageTracker
import BuzzSolo.SlotCircuit
import BuzzSolo.AgreementHeads
import BuzzSolo.HandoffPrompt
import BuzzSolo.DevTools
import BuzzSolo.PatchPosition
import BuzzSolo.PersonaPack
