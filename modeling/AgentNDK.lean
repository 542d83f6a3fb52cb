import AgentNDK.ANRMonitor
import AgentNDK.AgentInstance
import AgentNDK.AnrBuffer
import AgentNDK.AnrException
import AgentNDK.AnrRelays
import AgentNDK.AnrReports
import AgentNDK.AnrSampling
import AgentNDK.AnrShutdown
import AgentNDK.AnrTriggers
import AgentNDK.ContextIds
import AgentNDK.CrashReports
import AgentNDK.CrashedThread
import AgentNDK.DecodedAddresses
import AgentNDK.DecodedSections
import AgentNDK.DelegateCalls
import AgentNDK.DelegateReleases
import AgentNDK.FrameLists
import AgentNDK.HandlerMutex
import AgentNDK.InstallerThreads
import AgentNDK.Interceptor
import AgentNDK.JniCalls
import AgentNDK.MonitorEntries
import AgentNDK.NativeCalls
import AgentNDK.PendingRunners
import AgentNDK.RecordedFrames
import AgentNDK.RegisterMembers
import AgentNDK.ReportExpiry
import AgentNDK.ReportLives
import AgentNDK.ReportNames
import AgentNDK.ReportedSignals
import AgentNDK.RunnerLock
import AgentNDK.SignOfLife
import AgentNDK.SignalHandlerCalls
import AgentNDK.SignalMasks
import AgentNDK.StatFields
import AgentNDK.StorageErrors
import AgentNDK.StoredReport
import AgentNDK.TerminateRun
import AgentNDK.UnwoundFrames
