import Vcompany.Bot.ReviewVerdict
import Vcompany.Bot.AutoApproval
import Vcompany.Bot.ReviewGate
import Vcompany.Bot.PlanGate
import Vcompany.Monitor.PlanGateCheck
import Vcompany.Worker.HeadSocket
import Vcompany.Transport.Framing
import Vcompany.Autonomy.ProjectState
import Vcompany.Autonomy.BacklogLock
import Vcompany.Autonomy.BacklogStore
import Vcompany.Autonomy.BacklogLifecycle
import Vcompany.Autonomy.Delegation
import Vcompany.Supervisor.DelegationCaps
import Vcompany.Supervisor.DelegationRelease
import Vcompany.Supervisor.Scheduler
import Vcompany.Supervisor.FailureHandling
import Vcompany.Resilience.MessageConservation
import Vcompany.Integration.Isolation
import Vcompany.Bot.WorkflowOrchestratorCog
import Vcompany.Bot.QuestionEmbed
import Vcompany.Strategist.DependencyGate
import Vcompany.Integration.Branches
import Vcompany.Strategist.DecisionLog
import Vcompany.Worker.Resume
import Vcompany.Supervisor.RoutingRecords
import Vcompany.Supervisor.AgentMemory
import Vcompany.Daemon.SocketProtocol
import Vcompany.Bot.MentionRouter
import Vcompany.Communication.Standup
import Vcompany.Bot.Alerts
import Vcompany.Supervisor.ChannelReader
import Vcompany.Bot.GateReviews
import Vcompany.Worker.EntryPoints
import Vcompany.Daemon.Broadcast
import Vcompany.Bot.MessageRouting
import Vcompany.Supervisor.RestartIntensity
import Vcompany.Autonomy.StaleWork
import Vcompany.Supervisor.ProjectDelegation
import Vcompany.Supervisor.OutageDetection
import Vcompany.Supervisor.TemporaryChildren
import Vcompany.Supervisor.Shutdown
import Vcompany.Worker.PmHandler
import Vcompany.Daemon.Client
import Vcompany.Transport.SocketReplacement
import Vcompany.Supervisor.BackoffDurations
import Vcompany.Resilience.HealthLoop
import Vcompany.Resilience.MessageOrder
import Vcompany.Integration.AttributionVerdicts
import Vcompany.Integration.FailedAnswers
import Vcompany.Integration.ConflictReport
import Vcompany.Strategist.ReviewTotality
import Vcompany.Integration.ResolvedConflicts
import Vcompany.Worker.TaskQueue
import Vcompany.Worker.Conversation
import Vcompany.Bot.ReplyPolling
import Vcompany.Bot.Mentions
import Vcompany.Strategist.Confidence
import Vcompany.Daemon.RoutingCrash
import Vcompany.Monitor.PhaseCompletion
import Vcompany.Communication.Checkin
import Vcompany.Shared.SafetyValidator
import Vcompany.Bot.HealthEmbed
import Vcompany.Bot.WorkflowMasterCog
import Vcompany.Daemon.Subscriptions
import Vcompany.Supervisor.RestartStrategies
import Vcompany.Worker.StuckDetector
import Vcompany.Shared.FileOps
import Vcompany.Coordination.SyncContext
import Vcompany.Coordination.Interfaces
import Vcompany.Tools.PatchedWorkflows
import Vcompany.Daemon.Instances
import Vcompany.Foundation.CutStream
import Vcompany.Shared.ConcurrentWrites
import Vcompany.Shared.StoreContents
import Vcompany.Shared.StoreDurability
import Vcompany.Supervisor.WorkerReports
import Vcompany.Worker.Lifecycles
import Vcompany.Worker.MessagesInFlight
import Vcompany.Worker.StoreRefinement
import Vcompany.Foundation.IsoFormat
import Vcompany.Foundation.JsonText
import Vcompany.Foundation.SharedTransaction
import Vcompany.Shared.ConcurrentCalls
import Vcompany.Supervisor.ScheduleStore
import Vcompany.Worker.SessionText
import Vcompany.Worker.SessionRecovery
