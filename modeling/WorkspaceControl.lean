import WorkspaceControl.Bootstrap
import WorkspaceControl.Egress
import WorkspaceControl.HomeClaimRuns
import WorkspaceControl.Idempotency
import WorkspaceControl.InjectionReconcile
import WorkspaceControl.JobLeases
import WorkspaceControl.JobParking
import WorkspaceControl.KeyRevocation
import WorkspaceControl.Lifecycle
import WorkspaceControl.NodePools
import WorkspaceControl.PluginBundles
import WorkspaceControl.PluginCatalog
import WorkspaceControl.PluginLimits
import WorkspaceControl.PortMappings
import WorkspaceControl.Quotas
import WorkspaceControl.Searches
import WorkspaceControl.ShrinkJobs
import WorkspaceControl.TemplateSelectors
