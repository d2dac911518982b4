import AsbCloudApi.Db.RateLimiter
import AsbCloudApi.Db.Usage
import AsbCloudApi.Api.RateLimiter
import AsbCloudApi.Base.Dict
import AsbCloudApi.Base.Run
import AsbCloudApi.Base.Window
import AsbCloudApi.Base.Prog
import AsbCloudApi.Session.Models
import AsbCloudApi.Workers.Pool
import AsbCloudApi.Base.Text
import AsbCloudApi.Net.IpAddress
import AsbCloudApi.Net.UrlParse
import AsbCloudApi.Net.Whatwg
import AsbCloudApi.Security.UrlSafety
import AsbCloudApi.Security.Browser
import AsbCloudApi.Base.Json
import AsbCloudApi.Db.SessionStore
import AsbCloudApi.Providers.Base
import AsbCloudApi.Workers.Worker
import AsbCloudApi.Routes.Scrape
import AsbCloudApi.Routes.Leasing
import AsbCloudApi.Routes.Cookies
import AsbCloudApi.Routes.UsageRows
import AsbCloudApi.Db.AuthStore
import AsbCloudApi.Providers.Decodo
import AsbCloudApi.Routes.Webhooks
import AsbCloudApi.Routes.WebhookRetries
import AsbCloudApi.Providers.Health
import AsbCloudApi.Providers.BreakerRuns
import AsbCloudApi.Base.Numeral
import AsbCloudApi.Billing.License
import AsbCloudApi.Routes.Licenses
import AsbCloudApi.Routes.WebhookOnce
import AsbCloudApi.Routes.BillingRuns
import AsbCloudApi.Base.Writes
import AsbCloudApi.Routes.Purchases
import AsbCloudApi.Routes.Sessions
import AsbCloudApi.Routes.Tenants
import AsbCloudApi.Session.StoreRuns
import AsbCloudApi.Db.SessionStoreRuns
import AsbCloudApi.Db.LimitersAgree
import AsbCloudApi.Api.ErrorHandler
import AsbCloudApi.Routes.Bulk
import AsbCloudApi.Routes.ForeignSessions
import AsbCloudApi.Client.Errors
import AsbCloudApi.Db.DailyUsage
import AsbCloudApi.Base.Calendar
import AsbCloudApi.Db.MonthlyOverage
import AsbCloudApi.Api.Usage
import AsbCloudApi.Routes.BulkUsage
import AsbCloudApi.Providers.BreakerCalls
import AsbCloudApi.Providers.DecodoRefresh
import AsbCloudApi.Api.ResetTime
import AsbCloudApi.Api.UsageReport
import AsbCloudApi.Api.Auth
import AsbCloudApi.Db.KeyStore
import AsbCloudApi.Security.Literals
import AsbCloudApi.Billing.Spelling
import AsbCloudApi.Security.Redaction
import AsbCloudApi.Api.ErrorCodes
import AsbCloudApi.Routes.BulkErrors
import AsbCloudApi.Api.UsageCounts
import AsbCloudApi.Workers.Runner
import AsbCloudApi.Workers.Shutdown
import AsbCloudApi.Routes.CookieHeader
import AsbCloudApi.Base.Borrow
import AsbCloudApi.Db.Connection
import AsbCloudApi.Db.AdvisoryLock
import AsbCloudApi.Db.CheckVerdict
import AsbCloudApi.Base.Linearize
import AsbCloudApi.Db.KeyCalls
import AsbCloudApi.Routes.Authorization
import AsbCloudApi.Routes.BillingFlow
import AsbCloudApi.Base.Regex
import AsbCloudApi.Startup.Config
import AsbCloudApi.Routes.ProxyFlow
import AsbCloudApi.Routes.ServiceProgress
import AsbCloudApi.Base.Cycle
import AsbCloudApi.Providers.Custom
import AsbCloudApi.Providers.Registry
import AsbCloudApi.Base.Advance
import AsbCloudApi.Startup.Lifecycle
import AsbCloudApi.Startup.LifecycleRuns
import AsbCloudApi.Db.EventCalls
import AsbCloudApi.Db.UsageCalls
