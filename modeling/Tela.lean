import Tela.Library.Dict
import Tela.Library.Monitor
import Tela.Core.Family
import Tela.Core.Conflict
import Tela.Core.RecoveryHelpers
import Tela.Core.DownstreamStartup
import Tela.Library.FifoLock
import Tela.Shell.DownstreamRegistry
import Tela.Shell.DownstreamWorld
import Tela.Shell.DownstreamSystem
import Tela.Properties.SingleFlight
import Tela.Properties.LockDiscipline
import Tela.Properties.FreshHandle
import Tela.Properties.SessionTruth
import Tela.Properties.InitializeAtomicity
import Tela.Properties.ConfigFollows
import Tela.Properties.StdoutDiscipline
import Tela.Properties.Mediation
import Tela.Properties.SseFraming
import Tela.Properties.BearerAdmission
import Tela.Properties.CapabilityTokens
import Tela.Properties.SingleConvergence
import Tela.Properties.AttachmentRuns
import Tela.Properties.IdleShutdownRuns
import Tela.Shell.ToolPages
import Tela.Properties.EnforcementLaws
import Tela.Properties.Compaction
import Tela.Properties.ReplayClassification
import Tela.Properties.EnvironmentExpansion
import Tela.Properties.ConfigLoading
import Tela.Properties.ToolResolution
import Tela.Properties.ResolvedTools
import Tela.Shell.AttachmentFile
import Tela.Properties.AttachmentFile
import Tela.Properties.StdioRoundTrip
import Tela.Properties.ConflictReports
import Tela.Properties.RegistryRuns
import Tela.Properties.AuditPages
import Tela.Properties.AuditFilters
import Tela.Properties.StartupArbitration
import Tela.Properties.EventLogRuns
import Tela.Properties.LifecycleContracts
import Tela.Properties.OperatorRecovery
import Tela.Properties.SafeRetry
import Tela.Properties.SessionOwnership
import Tela.Properties.RecoveryOutcomes
import Tela.Library.Translation
import Tela.Properties.LockfileOwnership
import Tela.Properties.LifecycleTruth
