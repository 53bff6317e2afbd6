import Csqtt.CheckedTotals
import Csqtt.ClientReplay
import Csqtt.Coalescing
import Csqtt.DeviceBindings
import Csqtt.DeviceLock
import Csqtt.EpochLock
import Csqtt.FailedActivation
import Csqtt.FlowIsolation
import Csqtt.FlowLockstep
import Csqtt.GapTimer
import Csqtt.GetconfAgreement
import Csqtt.IngressAttribution
import Csqtt.LoginLimits
import Csqtt.NonceUniqueness
import Csqtt.PermutedArrival
import Csqtt.ProxyReplies
import Csqtt.RepairBookkeeping
import Csqtt.RepairInterleavings
import Csqtt.RoundRetention
import Csqtt.SelectiveFec
import Csqtt.SessionLimit
import Csqtt.TunnelLifecycle
import Csqtt.TurnRelease
import Csqtt.UnwrapBounds
import Csqtt.WorkerGroups
