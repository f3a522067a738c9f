import Huntarr2.Activity.TimeBounds
import Huntarr2.Settings.Resolution
import Huntarr2.Scheduler.HourlyLimit
import Huntarr2.Scheduler.CooldownSafety
import Huntarr2.Scheduler.Pacing
import Huntarr2.Scheduler.IntervalBand
import Huntarr2.Scheduler.Fairness
import Huntarr2.Scheduler.Isolation
import Huntarr2.Polling.NoDuplicate
import Huntarr2.Polling.NoLoss
import Huntarr2.Scheduler.Accounting
import Huntarr2.Scheduler.Status
import Huntarr2.Scheduler.Window
import Huntarr2.Scheduler.Sweep
import Huntarr2.Encrypt.Crypto
import Huntarr2.Instance.Store
import Huntarr2.Instance.ReadBack
import Huntarr2.Foundation.ReadModifyWrite
import Huntarr2.Instance.Concurrent
import Huntarr2.Database.Migration
import Huntarr2.GoStd.Float64
import Huntarr2.Server.Pages
import Huntarr2.GoStd.DurationText
import Huntarr2.Web.Number
import Huntarr2.Api.Settings
import Huntarr2.Web.SettingsForm
import Huntarr2.Polling.Upgrades
import Huntarr2.Arr.HistorySpec
import Huntarr2.Arr.Quality
import Huntarr2.Arr.Service
import Huntarr2.Scheduler.Batch
import Huntarr2.Arr.Adapter
import Huntarr2.Scheduler.StoredSettings
import Huntarr2.Foundation.Utf8
import Huntarr2.Web.WindowTimes
import Huntarr2.Activity.LogPages
import Huntarr2.Foundation.Pattern
import Huntarr2.Activity.Search
import Huntarr2.Cooldown.Reference
import Huntarr2.Foundation.Skipping
import Huntarr2.Arr.Library
import Huntarr2.Scheduler.Arithmetic
import Huntarr2.Foundation.Regex
import Huntarr2.Arr.MediaCover
import Huntarr2.Foundation.SortedBy
import Huntarr2.Scheduler.StatusOrder
import Huntarr2.Foundation.Tally
import Huntarr2.Server.Stats
import Huntarr2.Foundation.Lockstep
import Huntarr2.Arr.Connection
import Huntarr2.Api.Instances
import Huntarr2.Server.InstancePages
import Huntarr2.Foundation.Percent
import Huntarr2.GoStd.ServeMux
import Huntarr2.Scheduler.Restart
import Huntarr2.Polling.Restart
import Huntarr2.GoStd.RequestURL
import Huntarr2.Server.Routes
import Huntarr2.Server.Links
import Huntarr2.Foundation.Progress
import Huntarr2.Server.Shutdown
import Huntarr2.GoStd.Query
import Huntarr2.Api.Activity
import Huntarr2.Web.Logs
import Huntarr2.Web.LogViewer
import Huntarr2.Web.Connections
import Huntarr2.Server.Middleware
import Huntarr2.Config.Load
import Huntarr2.Server.Start
import Huntarr2.Foundation.ForkJoin
import Huntarr2.Arr.Status
