import Perfana.Collection.Certification
import Perfana.Analysis.Window
import Perfana.Checks.Validity
import Perfana.Adapt.Batches
import Perfana.Adapt.Conclusion
import Perfana.Adapt.ConfigLevels
import Perfana.Adapt.Labels
import Perfana.Adapt.OverallVerdict
import Perfana.Adapt.TrackedQuery
import Perfana.Adapt.Tracking
import Perfana.Collection.Interleaving
import Perfana.Collection.Dynatrace
import Perfana.Collection.PanelQueries
import Perfana.Checks.Evaluating
import Perfana.Checks.ApdexVerdict
import Perfana.Checks.Requirement
import Perfana.Scheduling.Backoff
import Perfana.Scheduling.InFlight
import Perfana.PerformanceTest.Errors
import Perfana.Scheduling.HeavyStage
import Perfana.Scheduling.AnalyzeTest
import Perfana.Scheduling.JobLock
import Perfana.Scheduling.StuckJobs
import Perfana.Access.ApiKeyValidation
import Perfana.Access.Authorization
import Perfana.Grouping.Resolver
import Perfana.Collection.DqlRecords
import Perfana.PerformanceTest.MetricsDeletion
import Perfana.Checks.Reevaluation
import Perfana.Scheduling.JobWait
import Perfana.Adapt.ChangePoints
import Perfana.TestRuns.Finishing
import Perfana.TestRuns.InitTest
import Perfana.Benchmarks.CopyToScope
import Perfana.Shared.EncryptedColumns
import Perfana.Shared.Markdown
import Perfana.GrafanaSync.Tenancy
import Perfana.GrafanaSync.Convergence
import Perfana.Collection.TemplateVariables
import Perfana.Collection.RepeatedPanels
import Perfana.TestRuns.DeepLinks
import Perfana.GrafanaSync.VariableQuery
import Perfana.Checks.ApdexScenarios
import Perfana.Checks.Aggregation
import Perfana.PerformanceTest.ScenarioDashboards
import Perfana.SutTransfer.ImportAll
import Perfana.Shared.SectionAnchors
import Perfana.Shared.InternalTargets
import Perfana.Shared.ChunkSnapping
import Perfana.TestRuns.AnomalyDeletion
import Perfana.TestRuns.JtlTransactions
import Perfana.TestRuns.JtlFiles
import Perfana.Lib.Fields
import Perfana.Lib.HtmlText
import Perfana.Adapt.StuckStatuses
import Perfana.Shared.MarkdownElements
import Perfana.Shared.MarkdownMarkers
import Perfana.Shared.MarkdownText
import Perfana.Shared.ReportSubstitution
import Perfana.TraceAnalysis.OrderIndependence
