import Dopamine.Daemon.LocalSocket
import Dopamine.Linux.SwitchRoutes
import Dopamine.Linux.NestedRequests
import Dopamine.Linux.DnsUtils
import Dopamine.Linux.Injection
import Dopamine.Linux.LiveServer
import Dopamine.Linux.Policy
import Dopamine.Macos.ResolverRestore
import Dopamine.Macos.ExclusionRoutes
import Dopamine.Windows.KillSwitch
import Dopamine.Windows.PeerRules
import Dopamine.Windows.WindowsRouteMonitor
import Dopamine.Service.Toggles
import Dopamine.Android.SubnetCover
import Dopamine.Client.AutoCandidates
import Dopamine.Client.FetchPump
import Dopamine.Client.RefreshedNames
import Dopamine.Client.UpdateTarget
import Dopamine.Client.LostUpdates
import Dopamine.Client.CatalogVersion
import Dopamine.Client.DerivedData
import Dopamine.Client.QrSeries
import Dopamine.Client.AllowedRanges
import Dopamine.Client.SiteLookups
import Dopamine.Client.SplitRoutes
import Dopamine.Client.GzipDecompress
import Dopamine.Client.CachedLists
import Dopamine.Client.PresetDirection
import Dopamine.Client.ConnectCalls
import Dopamine.Client.DaemonSession
import Dopamine.Android.LastRequest
import Dopamine.Client.RoutingSetup
