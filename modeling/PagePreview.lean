import PagePreview.Main
import PagePreview.Proofs.ArrivalTarget
import PagePreview.Proofs.Containment
import PagePreview.Proofs.Responders
import PagePreview.Server.Shutdown
import PagePreview.Proofs.RuleSources
import PagePreview.Proofs.RuleGrammar
import PagePreview.Proofs.ReceivedRequest
import PagePreview.Proofs.EarlierRequests
import PagePreview.Proofs.OverlappingReloads
import PagePreview.Proofs.LiveUpdates
import PagePreview.Proofs.StoreHistory
import PagePreview.Proofs.UpstreamTarget
import PagePreview.Proofs.StartedWatching
import PagePreview.Proofs.WatchedFiles
import PagePreview.Proofs.Redirects
import PagePreview.Proofs.Identifiers
import PagePreview.Proofs.LeastMatch
import PagePreview.Proofs.SignalDelivery
import PagePreview.Proofs.TemplateParts
import PagePreview.Proofs.CountedRequests
import PagePreview.Proofs.ConnectionFields
import PagePreview.Proofs.ForwardedRequest
import PagePreview.Proofs.RelayedResponse
import PagePreview.Proofs.ClientLocation
import PagePreview.Proofs.ClientReference
import PagePreview.Proofs.TargetParts
import PagePreview.Proofs.TriedTargets
import PagePreview.Proofs.ServerPlaceholders
import PagePreview.Fixture.PageSlices
import PagePreview.Proofs.PageNames
import PagePreview.Proofs.FileNames
import PagePreview.Proofs.FixtureNames
import PagePreview.Proofs.ServedFixtures
import PagePreview.Proofs.PageFiles
import PagePreview.Proofs.RedirectPages
import PagePreview.Proofs.EncodedPaths
import PagePreview.Proofs.PublishedUpdates
import PagePreview.Proofs.Overrides
import PagePreview.Proofs.ConfigFaults
import PagePreview.Proofs.CleanedPaths
import PagePreview.Proofs.LaidOverData
import PagePreview.Proofs.CaseBlindMatches
import PagePreview.Proofs.ToldEnough
