import OpenBao.AclPolicy
import OpenBao.BinaryRounding
import OpenBao.BootstrapComparisons
import OpenBao.BootstrapCredentials
import OpenBao.BootstrapDurations
import OpenBao.BootstrapExactness
import OpenBao.BootstrapFields
import OpenBao.BootstrapIdempotence
import OpenBao.BootstrapKv2
import OpenBao.BootstrapObjects
import OpenBao.BootstrapPlan
import OpenBao.BootstrapPreview
import OpenBao.BootstrapQuietServer
import OpenBao.BootstrapRecords
import OpenBao.BootstrapRun
import OpenBao.BootstrapServer
import OpenBao.BootstrapTruth
import OpenBao.BoundedJsonValues
import OpenBao.BoundedLogs
import OpenBao.BoundedReaders
import OpenBao.BoundedRetries
import OpenBao.CapabilityAnswers
import OpenBao.CidrValues
import OpenBao.ClientConfigs
import OpenBao.ClientErrors
import OpenBao.ClientResponses
import OpenBao.ClientTransport
import OpenBao.CommaMappings
import OpenBao.CompatibilityPolicy
import OpenBao.CompatibilityProbe
import OpenBao.CompatibilityProbeAgreement
import OpenBao.CompatibilityWaitQueue
import OpenBao.ConsistencyContexts
import OpenBao.ConsistencyIndices
import OpenBao.ConsistencyRuns
import OpenBao.ControlGroupReview
import OpenBao.ControlGroups
import OpenBao.CursorPages
import OpenBao.DatabaseConnectionJson
import OpenBao.DeadlineLoops
import OpenBao.DecimalNumerals
import OpenBao.DelimitedLists
import OpenBao.DevBootstraps
import OpenBao.DirectoryTransports
import OpenBao.DispatchedRequests
import OpenBao.DsnText
import OpenBao.DurationGrammar
import OpenBao.DurationRendering
import OpenBao.DurationText
import OpenBao.Durations
import OpenBao.EndpointVariants
import OpenBao.EnvironmentConfigs
import OpenBao.ExactLengthStreams
import OpenBao.ExternalEndpoints
import OpenBao.ExternalKeyAdministration
import OpenBao.ExternalKeyRequests
import OpenBao.ExternalKeys
import OpenBao.GatedRequests
import OpenBao.InPlaceEdits
import OpenBao.InsertionTables
import OpenBao.IpAddresses
import OpenBao.JsonTrees
import OpenBao.JwtLeeways
import OpenBao.KeyOrderedMaps
import OpenBao.KeywordValueGrammar
import OpenBao.LineFrames
import OpenBao.ListPagination
import OpenBao.LoopbackHttp
import OpenBao.MemoTables
import OpenBao.MonitorStreams
import OpenBao.MySqlDsn
import OpenBao.OidcTokenRequests
import OpenBao.OneShotEffects
import OpenBao.OwnedAddresses
import OpenBao.PanickingOperations
import OpenBao.PathSpellings
import OpenBao.PathValidation
import OpenBao.PercentCoding
import OpenBao.PkiKeyExport
import OpenBao.PkiRoutes
import OpenBao.PolicyBuilderRuns
import OpenBao.PolicyReader
import OpenBao.PolicyRendering
import OpenBao.PolledStreams
import OpenBao.PostgresDsn
import OpenBao.PostgresKeywordDsn
import OpenBao.PostgresUriDsn
import OpenBao.ProfileGates
import OpenBao.ProgramPaths
import OpenBao.RadiusPolicies
import OpenBao.RangeTables
import OpenBao.ReadinessPolling
import OpenBao.RegisteredRoutes
import OpenBao.RegistryPathBinding
import OpenBao.RequestBodyBuffers
import OpenBao.RequestContents
import OpenBao.RequestPrograms
import OpenBao.RootGenerations
import OpenBao.RotationBackups
import OpenBao.RouteExpansion
import OpenBao.RouteForms
import OpenBao.RouteIntegrity
import OpenBao.RouteSegments
import OpenBao.RouteTemplates
import OpenBao.SecretRoutes
import OpenBao.SingleFlight
import OpenBao.SubkeyShapes
import OpenBao.TokenReaders
import OpenBao.TransitRoutes
import OpenBao.TransportSafety
import OpenBao.Utf8Text
import OpenBao.VersionTexts
import OpenBao.VersionedCells
import OpenBao.WrappingRedemption
