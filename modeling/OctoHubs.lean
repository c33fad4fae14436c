import OctoHubs.EventBridge.RejectedCredential
import OctoHubs.EventBridge.RefusedRotation
import OctoHubs.UserSync.PlaystateDelta
import OctoHubs.UserSync.PlaylistsRemoval
import OctoHubs.UserSync.BootstrapFlags
import OctoHubs.UserSync.RemovalHistory
import OctoHubs.UserLinks.Deletions
import OctoHubs.Scheduling.Occurrences
import OctoHubs.Workflows.ActiveSlot
import OctoHubs.Probe.Fencing
import OctoHubs.Latest.Deliveries
import OctoHubs.Accounts.SessionRevocation
import OctoHubs.Search.SessionQuotas
import OctoHubs.TranscodeGuard.MissingStreams
import OctoHubs.TranscodeGuard.ForgottenServers
import OctoHubs.Search.ReferenceOwnership
import OctoHubs.Latest.CollectorRemovals
import OctoHubs.Latest.MergedPublications
import OctoHubs.Realtime.ChangeDelivery
import OctoHubs.Libraries.ScanCompletion
import OctoHubs.Libraries.ScanExclusion
import OctoHubs.UserGuards.GuardExclusion
import OctoHubs.BridgeTransports.StaleSockets
import OctoHubs.Operations.Shutdowns
import OctoHubs.UserItems.MergeOrder
import OctoHubs.UserItems.PlaylistBootstrap
import OctoHubs.UserItems.PlaylistOrder
import OctoHubs.UserItems.SelfLookup
import OctoHubs.UserItems.RepeatedSync
import OctoHubs.Requests.SkipPrediction
import OctoHubs.Latest.EpisodeRanges
import OctoHubs.Latest.DateGroups
import OctoHubs.Requests.SeasonExtraction
import OctoHubs.Latest.SingleFlight
import OctoHubs.Latest.AliasCollapse
import OctoHubs.Probe.Groups
import OctoHubs.TranscodeGuard.Renormalization
import OctoHubs.Upstream.ResponseLimits
import OctoHubs.Collections.Seasons
import OctoHubs.Login.AttemptLimiter
import OctoHubs.Login.ClientAddress
import OctoHubs.Connections.PublicUrls
import OctoHubs.Accounts.TokenLifecycle
import OctoHubs.Collections.WantedItems
import OctoHubs.Libraries.ScanFinality
import OctoHubs.Libraries.StoppedServers
import OctoHubs.Realtime.RefreshDelivery
import OctoHubs.Realtime.BroadcastDelivery
import OctoHubs.Streams.RefreshRaces
import OctoHubs.Search.QueryCoverage
import OctoHubs.UserSettings.PreferenceRoundTrips
import OctoHubs.JustWatch.CachePolicy
import OctoHubs.EventBridge.BodyReading
import OctoHubs.Requests.TargetUnions
import OctoHubs.UserPasswords.KeyRotation
import OctoHubs.Libraries.NameKeys
import OctoHubs.EmbyWebsockets.ConnectionOwners
