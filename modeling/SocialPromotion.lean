import SocialPromotion.Properties.AtMostOnce
import SocialPromotion.Properties.KnownSuccess
import SocialPromotion.Properties.StickyAmbiguity
import SocialPromotion.Properties.CrashRecovery
import SocialPromotion.Properties.UserControl
import SocialPromotion.Properties.Finalisation
import SocialPromotion.Properties.RetryBudget
import SocialPromotion.Properties.CertainFailure
import SocialPromotion.Properties.AmbiguousFailure
import SocialPromotion.Properties.PreflightSends
import SocialPromotion.Properties.LinkKept
import SocialPromotion.Properties.LengthLimits
import SocialPromotion.Properties.Migrations
import SocialPromotion.Properties.Shortening
import SocialPromotion.Properties.FormattingTotal
import SocialPromotion.Properties.HashtagsKept
import SocialPromotion.Properties.ApprovalGate
import SocialPromotion.Properties.AlertLease
import SocialPromotion.Properties.CollectionLease
import SocialPromotion.Properties.Dashboards
import SocialPromotion.Lib.TextEncoding
import SocialPromotion.Lib.JsonText
import SocialPromotion.Lib.IsoDate
import SocialPromotion.Lib.UuidText
import SocialPromotion.Lib.Paging
import SocialPromotion.Model.RawMetrics
import SocialPromotion.Properties.RawMetricsPaging
import SocialPromotion.Properties.TerminalAlerts
import SocialPromotion.Steps.Dispatch
import SocialPromotion.Properties.Consultations
import SocialPromotion.Properties.StoredSecrets
import SocialPromotion.Steps.Verifier
import SocialPromotion.Steps.GuardCalls
import SocialPromotion.Properties.RefreshCooldown
import SocialPromotion.Properties.SigningKeys
import SocialPromotion.Properties.AuthenticationErrors
import SocialPromotion.Model.XUsage
import SocialPromotion.Sending.Billing
import SocialPromotion.Properties.UsageLedger
import SocialPromotion.Lib.Permission
import SocialPromotion.Lib.Processes
import SocialPromotion.Model.OAuth
import SocialPromotion.Model.OAuthSystem
import SocialPromotion.Steps.OAuthCalls
import SocialPromotion.Steps.OAuthTables
import SocialPromotion.Properties.SingleUse
import SocialPromotion.Steps.Tables
import SocialPromotion.Properties.OutboxConsistency
import SocialPromotion.Properties.HandOff
import SocialPromotion.Properties.FrozenContent
import SocialPromotion.Properties.PreviewedContent
import SocialPromotion.Properties.Tenants
import SocialPromotion.Steps.Deliveries
import SocialPromotion.Properties.DeliveryProgress
import SocialPromotion.Properties.DrivenJobs
import SocialPromotion.Properties.StrandedJobs
import SocialPromotion.Properties.Redelivery
import SocialPromotion.Model.Access
import SocialPromotion.Properties.SeparatedDuties
import SocialPromotion.Model.Sessions
import SocialPromotion.Steps.WebCalls
import SocialPromotion.Properties.Sessions
import SocialPromotion.Model.Media
import SocialPromotion.Properties.MediaStore
import SocialPromotion.Model.SocialAccounts
import SocialPromotion.Steps.AccountTables
import SocialPromotion.Steps.AdapterTokens
import SocialPromotion.Properties.Disconnection
