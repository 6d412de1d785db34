import EpicKfc.Guarantees.AccessControl
import EpicKfc.Guarantees.AccountIsolation
import EpicKfc.Guarantees.AnchorConfirmation
import EpicKfc.Guarantees.AnchorProgress
import EpicKfc.Guarantees.AnchorThenVerify
import EpicKfc.Guarantees.AnchorUniqueness
import EpicKfc.Guarantees.AuditTransparency
import EpicKfc.Guarantees.BoundedRetry
import EpicKfc.Guarantees.BundleCoherence
import EpicKfc.Guarantees.CanonicalBytes
import EpicKfc.Guarantees.CommandQuoting
import EpicKfc.Guarantees.ConversationBinding
import EpicKfc.Guarantees.DevicePublication
import EpicKfc.Guarantees.DigestAgreement
import EpicKfc.Guarantees.FailClosed
import EpicKfc.Guarantees.FidelityPages
import EpicKfc.Guarantees.FidelityReports
import EpicKfc.Guarantees.FirstIdentities
import EpicKfc.Guarantees.ForbiddenKeys
import EpicKfc.Guarantees.ForwardedPlaintext
import EpicKfc.Guarantees.ForwardingLineage
import EpicKfc.Guarantees.HexCase
import EpicKfc.Guarantees.IdentityCoherence
import EpicKfc.Guarantees.KeccakDigest
import EpicKfc.Guarantees.LiveMessages
import EpicKfc.Guarantees.LocalTombstones
import EpicKfc.Guarantees.LoginAtomicity
import EpicKfc.Guarantees.LoginAuthority
import EpicKfc.Guarantees.LoginLookup
import EpicKfc.Guarantees.LogoutAll
import EpicKfc.Guarantees.MerkleCompleteness
import EpicKfc.Guarantees.MerkleSoundness
import EpicKfc.Guarantees.MessageComposition
import EpicKfc.Guarantees.MessageDeletion
import EpicKfc.Guarantees.MessageDelivery
import EpicKfc.Guarantees.MessageEvidence
import EpicKfc.Guarantees.MessageRoundTrip
import EpicKfc.Guarantees.MutualExclusion
import EpicKfc.Guarantees.NameResolution
import EpicKfc.Guarantees.OverviewAgreement
import EpicKfc.Guarantees.PackageDevices
import EpicKfc.Guarantees.PackageMessages
import EpicKfc.Guarantees.PageReading
import EpicKfc.Guarantees.PayloadAcceptance
import EpicKfc.Guarantees.PendingForwards
import EpicKfc.Guarantees.PlaintextRelease
import EpicKfc.Guarantees.PreKeyAuthenticity
import EpicKfc.Guarantees.PreKeyConsumption
import EpicKfc.Guarantees.PreKeyHandOut
import EpicKfc.Guarantees.ProtectedState
import EpicKfc.Guarantees.PublicVerification
import EpicKfc.Guarantees.PublishedBundles
import EpicKfc.Guarantees.RateLimiting
import EpicKfc.Guarantees.RouterRelease
import EpicKfc.Guarantees.SecretsAtRest
import EpicKfc.Guarantees.SegmentFreshness
import EpicKfc.Guarantees.SenderAuthenticity
import EpicKfc.Guarantees.StartupArguments
import EpicKfc.Guarantees.StaticPaging
import EpicKfc.Guarantees.StoreKeys
import EpicKfc.Guarantees.StorePersistence
import EpicKfc.Guarantees.SyncConvergence
import EpicKfc.Guarantees.TokenRecovery
import EpicKfc.Guarantees.TokenRotation
import EpicKfc.Guarantees.TombstoneHistory
import EpicKfc.Guarantees.TrustPinning
import EpicKfc.Guarantees.VisibilityAgreement
import EpicKfc.Guarantees.WriteOnce
import EpicKfc.Lib.ArrayLoops
import EpicKfc.Lib.Base64
import EpicKfc.Lib.CodeUnits
import EpicKfc.Lib.Digits
import EpicKfc.Lib.Expiry
import EpicKfc.Lib.Flows
import EpicKfc.Lib.Footprints
import EpicKfc.Lib.Grouping
import EpicKfc.Lib.HashTree
import EpicKfc.Lib.Histories
import EpicKfc.Lib.Json
import EpicKfc.Lib.JsonRoundTrip
import EpicKfc.Lib.JsonText
import EpicKfc.Lib.Keccak
import EpicKfc.Lib.KeccakEval
import EpicKfc.Lib.KeyedList
import EpicKfc.Lib.Lineage
import EpicKfc.Lib.OffsetPaging
import EpicKfc.Lib.OrmSession
import EpicKfc.Lib.PairTree
import EpicKfc.Lib.PlaceMarkers
import EpicKfc.Lib.RowTable
import EpicKfc.Lib.Runs
import EpicKfc.Lib.SoleMatches
import EpicKfc.Lib.StrictModels
import EpicKfc.Lib.Trimming
import EpicKfc.Source.AnchorChecks
import EpicKfc.Source.Blockchain.Blocks
import EpicKfc.Source.Blockchain.Bytes32
import EpicKfc.Source.Blockchain.Conversation
import EpicKfc.Source.Blockchain.ConversationCalls
import EpicKfc.Source.Blockchain.FidelityPage
import EpicKfc.Source.Blockchain.Hex32
import EpicKfc.Source.Blockchain.Merkle
import EpicKfc.Source.Blockchain.MessageFidelity
import EpicKfc.Source.Blockchain.Transactions
import EpicKfc.Source.Client.ClientFrames
import EpicKfc.Source.Client.ClientRuns
import EpicKfc.Source.Client.ClientServices
import EpicKfc.Source.Client.ClientState
import EpicKfc.Source.Client.CommandOutcomes
import EpicKfc.Source.Client.CommandRouter
import EpicKfc.Source.Client.Conversations
import EpicKfc.Source.Client.DeviceKeys
import EpicKfc.Source.Client.EthereumHash
import EpicKfc.Source.Client.HttpClient
import EpicKfc.Source.Client.HttpTraffic
import EpicKfc.Source.Client.JsonLocalStore
import EpicKfc.Source.Client.Keccak256
import EpicKfc.Source.Client.Keccak256Correspondence
import EpicKfc.Source.Client.KeyService
import EpicKfc.Source.Client.LocalMessages
import EpicKfc.Source.Client.MessageGateway
import EpicKfc.Source.Client.MessageReading
import EpicKfc.Source.Client.MessageService
import EpicKfc.Source.Client.MessageSync
import EpicKfc.Source.Client.MessageVerification
import EpicKfc.Source.Client.Models
import EpicKfc.Source.Client.NativeSignalCryptoProvider
import EpicKfc.Source.Client.RequestBodies
import EpicKfc.Source.Client.SecretFields
import EpicKfc.Source.Client.ServiceFlows
import EpicKfc.Source.Client.ServiceFrames
import EpicKfc.Source.Client.SessionService
import EpicKfc.Source.Client.SlashCommands
import EpicKfc.Source.Client.StartupConfig
import EpicKfc.Source.Client.StoreColumns
import EpicKfc.Source.Client.StoreDocuments
import EpicKfc.Source.Client.StoreRecords
import EpicKfc.Source.Cryptography.DeviceBundles
import EpicKfc.Source.Cryptography.SignalMessaging
import EpicKfc.Source.Cryptography.TrustedIdentities
import EpicKfc.Source.Cryptography.WireMessages
import EpicKfc.Source.DecodedMessages
import EpicKfc.Source.KeyRequests
import EpicKfc.Source.MessageRequests
import EpicKfc.Source.PagedFetch
import EpicKfc.Source.Server.AccessTokens
import EpicKfc.Source.Server.AnchorRelay
import EpicKfc.Source.Server.AnchorRelaySteps
import EpicKfc.Source.Server.AnchorVerification
import EpicKfc.Source.Server.AnchorWorker
import EpicKfc.Source.Server.BlockchainAnchors
import EpicKfc.Source.Server.BlockchainHashing
import EpicKfc.Source.Server.Identifiers
import EpicKfc.Source.Server.KeyRelay
import EpicKfc.Source.Server.KeyRelaySteps
import EpicKfc.Source.Server.MessageApi
import EpicKfc.Source.Server.MessageListings
import EpicKfc.Source.Server.MessageRoutes
import EpicKfc.Source.Server.Messages
import EpicKfc.Source.Server.RateLimits
import EpicKfc.Source.Server.RefreshSessionSteps
import EpicKfc.Source.Server.RefreshSessions
import EpicKfc.Source.Server.RequestModels
import EpicKfc.Source.Server.UserAccounts
import EpicKfc.Source.Server.UserDirectory
import EpicKfc.Source.Server.WirePayloads
import EpicKfc.Source.TokenRecovery
