import DefinedQuant.Lib.PrefixCode
import DefinedQuant.Lib.SortBy
import DefinedQuant.Lib.Except
import DefinedQuant.Lib.Text
import DefinedQuant.Lib.Hex
import DefinedQuant.Lib.ByteSource
import DefinedQuant.Lib.Binary64
import DefinedQuant.Lib.Json.Value
import DefinedQuant.Lib.Decimal
import DefinedQuant.Lib.Sha256
import DefinedQuant.Lib.Sha256Evaluation
import DefinedQuant.Lib.Json.Strings
import DefinedQuant.Lib.Json.Numbers
import DefinedQuant.Lib.Json.Write
import DefinedQuant.Lib.Json.Read
import DefinedQuant.Lib.Json.Size
import DefinedQuant.Lib.Codec
import DefinedQuant.Lib.DepthFirst
import DefinedQuant.Lib.Effect
import DefinedQuant.Lib.Probe
import DefinedQuant.Lib.Interleaving
import DefinedQuant.Lib.FileTree
import DefinedQuant.Lib.Base64
import DefinedQuant.Protocol.Canonical
import DefinedQuant.Protocol.CanonicalInjective
import DefinedQuant.Protocol.CanonicalAccepts
import DefinedQuant.Protocol.Patterns
import DefinedQuant.Protocol.Operation
import DefinedQuant.Protocol.Result
import DefinedQuant.Protocol.Ports
import DefinedQuant.Shared.DataRecords.Documents
import DefinedQuant.Shared.DataRecords.RoundTrip
import DefinedQuant.Shared.DataRecords.Dataset
import DefinedQuant.Shared.DataRecords.Operation
import DefinedQuant.Shared.HostFailures
import DefinedQuant.Shared.HostEnvelopes
import DefinedQuant.Shared.FailureDetails
import DefinedQuant.Shared.LocalHost
import DefinedQuant.Shared.OperationRecords
import DefinedQuant.Shared.SessionCas
import DefinedQuant.Shared.SessionCursor
import DefinedQuant.Shared.SessionSteps
import DefinedQuant.Shared.SessionLoading
import DefinedQuant.Shared.SessionPublishing
import DefinedQuant.Shared.SessionAccounting
import DefinedQuant.Shared.SessionScope
import DefinedQuant.Shared.SessionFaithful
import DefinedQuant.Shared.SessionCorruption
import DefinedQuant.Shared.RecordViews
import DefinedQuant.Shared.WorkerRuntime
import DefinedQuant.Shared.WorkerAccounting
import DefinedQuant.Shared.WorkerController
import DefinedQuant.Shared.FailureEnvelopes
import DefinedQuant.Shared.WorkerMessages
import DefinedQuant.Shared.WorkerAgreement
import DefinedQuant.Shared.ServiceSession
import DefinedQuant.Shared.ServiceLifetime
import DefinedQuant.McpServer.ToolResults
import DefinedQuant.McpServer.CallTool
import DefinedQuant.Shared.CursorRoundTrip
import DefinedQuant.Shared.Paging
import DefinedQuant.Lib.PosixPath
import DefinedQuant.Lib.ChangingTree
import DefinedQuant.Shared.ConfinedReads
import DefinedQuant.Shared.StdioFraming
import DefinedQuant.Shared.CursorBinding
import DefinedQuant.Shared.Catalog
import DefinedQuant.Shared.CatalogBinding
import DefinedQuant.Shared.DiscoverySearch
import DefinedQuant.Categories.RollingHistoricalVolatilityGuards
import DefinedQuant.Authoring.CheckedGuidance
import DefinedQuant.Shared.RecordReconciliation
import DefinedQuant.Shared.DataRecords.FaithfulDocuments
import DefinedQuant.Shared.PageLimits
import DefinedQuant.Shared.ShallowRules
import DefinedQuant.Shared.DefaultResolution
import DefinedQuant.Lib.Calendar
import DefinedQuant.Lib.FixedDigits
import DefinedQuant.Shared.Timestamps
import DefinedQuant.Shared.Cells
import DefinedQuant.Protocol.Plan
import DefinedQuant.Shared.PlanValidation
import DefinedQuant.Shared.OperationFailures
import DefinedQuant.Shared.ClosedFailures
import DefinedQuant.Shared.OperationRuntime
import DefinedQuant.Shared.AtomicOperation
import DefinedQuant.Shared.Authorization
import DefinedQuant.Shared.DatasetRegistration
import DefinedQuant.McpServer.SearchRequests
import DefinedQuant.Shared.MemberTrees
import DefinedQuant.Categories.HistoricalVolatility
import DefinedQuant.Shared.ErrorProjection
import DefinedQuant.Protocol.PortShapes
import DefinedQuant.Categories.PriceComponents
import DefinedQuant.Categories.DrawdownAgreement
import DefinedQuant.McpServer.BoundedInput
import DefinedQuant.Shared.DatasetMappings
import DefinedQuant.Lib.Xml
import DefinedQuant.Shared.Charts
import DefinedQuant.Shared.HeatmapGrid
import DefinedQuant.Shared.ChartDocuments
import DefinedQuant.Shared.ChartLines
import DefinedQuant.Shared.ChartLayout
import DefinedQuant.Shared.RecordedBundles
import DefinedQuant.Shared.VerifiedLoads
