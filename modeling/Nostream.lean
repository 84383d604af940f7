import Nostream.Adapters.CurrentSubscriptions
import Nostream.Adapters.Heartbeats
import Nostream.Adapters.RedisAdapter
import Nostream.Adapters.SubscriptionBookkeeping
import Nostream.Adapters.WebSocketAdapter
import Nostream.Adapters.WebSocketServerAdapter
import Nostream.App.BroadcastReach
import Nostream.App.Cluster
import Nostream.App.CreditedInvoices
import Nostream.App.ExpiredDelivery
import Nostream.App.LastingAdmission
import Nostream.App.MaintenanceWorker
import Nostream.App.MirrorAdmission
import Nostream.App.MirrorAgreement
import Nostream.App.MirrorWire
import Nostream.App.MirroredMessages
import Nostream.App.MutualMirrors
import Nostream.App.NoGap
import Nostream.App.NullPayments
import Nostream.App.PaidAdmission
import Nostream.App.Reconnection
import Nostream.App.RelayNetwork
import Nostream.App.RelayedOnce
import Nostream.App.ServedEvents
import Nostream.App.StaticMirroringWorker
import Nostream.App.Supervision
import Nostream.Controllers.AddressLimits
import Nostream.Controllers.AdmissionCheck
import Nostream.Controllers.LimiterKeys
import Nostream.Controllers.PostInvoiceController
import Nostream.Controllers.RequestedFees
import Nostream.Handlers.Acknowledgement
import Nostream.Handlers.AdvertisedLimits
import Nostream.Handlers.AnnouncedOnce
import Nostream.Handlers.AtomicDeletion
import Nostream.Handlers.AuthorIsolation
import Nostream.Handlers.ChannelOverwrites
import Nostream.Handlers.CommandResults
import Nostream.Handlers.Convergence
import Nostream.Handlers.CountedOnce
import Nostream.Handlers.DeletedForGood
import Nostream.Handlers.Durability
import Nostream.Handlers.EventAddresses
import Nostream.Handlers.EventMessageHandler
import Nostream.Handlers.EventStrategies
import Nostream.Handlers.FinalAnswers
import Nostream.Handlers.LastWriterWins
import Nostream.Handlers.MessageStages
import Nostream.Handlers.NewestEvents
import Nostream.Handlers.PolicedStore
import Nostream.Handlers.RateLimiters
import Nostream.Handlers.ReplacementKeys
import Nostream.Handlers.SettledEvents
import Nostream.Handlers.StoredOnce
import Nostream.Handlers.StrategyTables
import Nostream.Handlers.SubmissionPool
import Nostream.Handlers.SubmissionStages
import Nostream.Handlers.SubscribeMessageHandler
import Nostream.Handlers.SubscriptionLimits
import Nostream.Handlers.TracedRows
import Nostream.Migrations.ChannelMetadata
import Nostream.Migrations.DeduplicationUpgrade
import Nostream.Migrations.EventTagsTable
import Nostream.Migrations.TagIndex
import Nostream.Repositories.ColumnRanges
import Nostream.Repositories.EventRepository
import Nostream.Repositories.EventsTable
import Nostream.Repositories.FilterAgreement
import Nostream.Repositories.FilterCriteria
import Nostream.Repositories.FilterUnion
import Nostream.Repositories.FindByFilters
import Nostream.Repositories.PaymentTables
import Nostream.Repositories.QueriedRows
import Nostream.Repositories.QueryAgreement
import Nostream.Repositories.QueryDisagreement
import Nostream.Repositories.QueryEquivalence
import Nostream.Repositories.ReturnedRows
import Nostream.Repositories.UnionOfFilters
import Nostream.Repositories.Writes
import Nostream.Schemas
import Nostream.Schemas.AcceptedMessages
import Nostream.Schemas.MessageSchema
import Nostream.Services.CreditedAdmission
import Nostream.Services.PaymentFailures
import Nostream.Services.PaymentsService
import Nostream.Shared.Bracketed
import Nostream.Shared.Doubles
import Nostream.Shared.Effects
import Nostream.Shared.Hex
import Nostream.Shared.HexPrefix
import Nostream.Shared.Hub
import Nostream.Shared.InsertionMap
import Nostream.Shared.Joi
import Nostream.Shared.Json
import Nostream.Shared.JsonNumber
import Nostream.Shared.JsonParsed
import Nostream.Shared.JsonRoundTrip
import Nostream.Shared.JsonText
import Nostream.Shared.JsonTexts
import Nostream.Shared.JsonValue
import Nostream.Shared.Latch
import Nostream.Shared.Numeric
import Nostream.Shared.Origins
import Nostream.Shared.Positional
import Nostream.Shared.Ranking
import Nostream.Shared.Register
import Nostream.Shared.Runs
import Nostream.Shared.Slots
import Nostream.Shared.Sql
import Nostream.Shared.Superseding
import Nostream.Shared.Unwinding
import Nostream.Shared.Utf16
import Nostream.Shared.Windows
import Nostream.Types
import Nostream.Types.Settings
import Nostream.Utils.AlternativeParsers
import Nostream.Utils.Event
import Nostream.Utils.EventLimits
import Nostream.Utils.HashedForm
import Nostream.Utils.LeadingZeroBits
import Nostream.Utils.Messages
import Nostream.Utils.ProofOfWork
import Nostream.Utils.RateBound
import Nostream.Utils.RecordedCrypto
import Nostream.Utils.RuneNarrowing
import Nostream.Utils.RuneRecords
import Nostream.Utils.RuneRoundTrip
import Nostream.Utils.Runes
import Nostream.Utils.SettingsReloads
import Nostream.Utils.SettingsStatic
import Nostream.Utils.SlidingWindowRateLimiter
