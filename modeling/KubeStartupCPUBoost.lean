import KubeStartupCPUBoost.FiniteMapRange
import KubeStartupCPUBoost.JsonMergePatch
import KubeStartupCPUBoost.JsonCodec
import KubeStartupCPUBoost.LabelSelector
import KubeStartupCPUBoost.KubernetesPod
import KubeStartupCPUBoost.PodRevert
import KubeStartupCPUBoost.PodClient
import KubeStartupCPUBoost.BoostPolicies
import KubeStartupCPUBoost.BoostTracking
import KubeStartupCPUBoost.ApiServer
import KubeStartupCPUBoost.PodRevertAttempts
import KubeStartupCPUBoost.PodBoostWebhook
import KubeStartupCPUBoost.WebhookQosClass
import KubeStartupCPUBoost.CallProgram
import KubeStartupCPUBoost.GlobalBoostReconcile
import KubeStartupCPUBoost.GlobalBoostFaults
import KubeStartupCPUBoost.BoostManager
import KubeStartupCPUBoost.BoostValidation
import KubeStartupCPUBoost.ControllerRun
import KubeStartupCPUBoost.ControllerWellFormed
import KubeStartupCPUBoost.PodConditionReverts
import KubeStartupCPUBoost.PodDeletion
import KubeStartupCPUBoost.LivePods
import KubeStartupCPUBoost.TickInterleaving
import KubeStartupCPUBoost.ConcurrentUpdates
import KubeStartupCPUBoost.BoundedChannel
import KubeStartupCPUBoost.RevertPipeline
import KubeStartupCPUBoost.ManagerStates
import KubeStartupCPUBoost.TimedBoostIndex
import KubeStartupCPUBoost.PodPlaces
import KubeStartupCPUBoost.PodRouting
import KubeStartupCPUBoost.PodRetention
import KubeStartupCPUBoost.GlobalBoostQuiescence
import KubeStartupCPUBoost.GlobalBoostOwnership
import KubeStartupCPUBoost.GlobalBoostSuccess
import KubeStartupCPUBoost.ClusterSteps
import KubeStartupCPUBoost.GlobalBoostExclusion
import KubeStartupCPUBoost.InterleavedCalls
import KubeStartupCPUBoost.GlobalBoostDeletion
import KubeStartupCPUBoost.GlobalBoostWakeups
import KubeStartupCPUBoost.EnvConfig
import KubeStartupCPUBoost.GlobalBoostAdmission
import KubeStartupCPUBoost.RevertModes
import KubeStartupCPUBoost.RegisteredSpecs
import KubeStartupCPUBoost.RequestLimitOrder
import KubeStartupCPUBoost.ManagerCalls
import KubeStartupCPUBoost.UnmatchedOrphans
import KubeStartupCPUBoost.ExportedGauges
import KubeStartupCPUBoost.BoostCalls
import KubeStartupCPUBoost.TotalCounter
import KubeStartupCPUBoost.ActiveCounter
import KubeStartupCPUBoost.RestartRecovery
import KubeStartupCPUBoost.PolicyArithmetic
import KubeStartupCPUBoost.PolicyResolution
import KubeStartupCPUBoost.QosClassDefinition
import KubeStartupCPUBoost.WebhookRecord
import KubeStartupCPUBoost.FailedReverts
import KubeStartupCPUBoost.ObjectInvariants
import KubeStartupCPUBoost.PodVersions
import KubeStartupCPUBoost.ConcurrentTick
import KubeStartupCPUBoost.TickEffect
import KubeStartupCPUBoost.LevelTriggered
import KubeStartupCPUBoost.LevelTriggeredRuns
import KubeStartupCPUBoost.BoostStatus
import KubeStartupCPUBoost.GlobalBoostQueue
import KubeStartupCPUBoost.GlobalBoostDelivery
import KubeStartupCPUBoost.FeatureGates
import KubeStartupCPUBoost.StartUp
