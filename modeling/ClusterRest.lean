import ClusterRest.Main
import ClusterRest.CommandLine.Program
import ClusterRest.Endpoint
import ClusterRest.ErrorDocument
import ClusterRest.LatestVersion
import ClusterRest.Session
import ClusterRest.Duration.Reader
import ClusterRest.Proofs.SharedSession
import ClusterRest.Proofs.SessionAccount
import ClusterRest.Proofs.Cancellation
import ClusterRest.Proofs.Redaction
import ClusterRest.Proofs.ErrorDocuments
import ClusterRest.Proofs.RequestUrls
import ClusterRest.Proofs.EndpointPaths
import ClusterRest.Proofs.DumpedRuns
import ClusterRest.Proofs.QueryEncoding
import ClusterRest.Proofs.ResolvedSettings
import ClusterRest.Proofs.OpeningClients
import ClusterRest.Proofs.Toml.Documents
import ClusterRest.Proofs.Toml.Numerals
import ClusterRest.Proofs.Toml.Strings
import ClusterRest.Proofs.MergedSettings
import ClusterRest.Proofs.ValidatedSettings
import ClusterRest.Proofs.EmptyPassword
import ClusterRest.Proofs.SessionHeaders
import ClusterRest.Proofs.SessionCookies
import ClusterRest.Proofs.AssembledHeaders
import ClusterRest.Proofs.SavedFiles
import ClusterRest.Proofs.SavedConfigs
import ClusterRest.Proofs.TextVariables
import ClusterRest.Proofs.LayeredSettings
import ClusterRest.Proofs.RequestPaths
import ClusterRest.Proofs.MaskedValues
import ClusterRest.Proofs.Json.RoundTrip
import ClusterRest.Proofs.EchoedBodies
import ClusterRest.Proofs.ReportedVersions
import ClusterRest.Proofs.ComposedRequests
import ClusterRest.Proofs.ExitCodes
import ClusterRest.Proofs.PinnedSuites
