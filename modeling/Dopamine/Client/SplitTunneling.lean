import Dopamine.Client.BuiltinSplitPresets
import Dopamine.Client.ServerConfig
import Dopamine.Client.SplitSettings
import Mathlib.Data.List.Infix

/-!
# The split tunneling of a connection

`VpnConnection::appendSplitTunnelingConfig` of `client/vpnconnection.cpp` writes into the config of
a connection which sites go through the tunnel: the list of the user with its direction
(`splitTunnelType`, `splitTunnelSites`), and this list and the presets together as sites to include
and to exclude. Sites count only in a config for all IPv4 addresses (`allowsSites`).

What is looked up is given by a function from names to addresses, empty for a name that was not
answered in time.
-/

namespace Dopamine

/-- `QString::split` for a separator that is a text. `skip` characters of a separator are left, and
the piece that is read is kept in reverse. -/
def splitText (sep : List Char) : ℕ → List Char → List Char → List (List Char)
  | _, piece, [] => [piece.reverse]
  | skip + 1, piece, _ :: l => splitText sep skip piece l
  | 0, piece, c :: l =>
      if sep.isPrefixOf (c :: l) then piece.reverse :: splitText sep (sep.length - 1) [] l
      else splitText sep 0 (c :: piece) l

/-- `text.split(sep)`. -/
def textSplit (sep text : String) : List String :=
  (splitText sep.toList 0 [] text.toList).map String.ofList

/-- `text.contains(part)`. -/
def containsText (part text : String) : Bool := part.toList <:+: text.toList

end Dopamine

namespace Dopamine.Client

open QJsonObject

inductive AppsRouteMode where
  | vpnAllApps
  | vpnOnlyForwardApps
  | vpnAllExceptApps
deriving DecidableEq

/-- `InstalledAppInfo`, without the name. -/
structure InstalledAppInfo where
  packageName : String
  appPath : String

/-- The settings of split tunneling.

`splitPresetsCache` is the array that is cached as text, empty if it is none.
`localSubnetExclusions` are the normalized ones. -/
structure TunnelSettings extends SplitSettings where
  splitPresetsEnabled : List String
  splitPresetsCache : List Json
  localSubnetExclusions : List String
  isAppsSplitTunnelingEnabled : Bool
  appsRouteMode : AppsRouteMode
  vpnApps : AppsRouteMode → List InstalledAppInfo

/-! ## Old configs -/

/-- The value of the first line of a native config with a property. There may be none. `none` is a
line without a separator, whose second part is out of range. -/
def nativeValue (nativeConfig : String) (line : String → Bool) : Option (Option String) :=
  match (textSplit "\n" nativeConfig).find? line with
  | none => some none
  | some line =>
      match textSplit " = " line with
      | _ :: value :: _ => some (some value)
      | _ => none

/-- The allowed addresses become an array. They are taken from a text or from the native config. -/
def withAllowedIps (configData : QJsonObject) : Option QJsonObject :=
  let withList (list : String) :=
    configData.insert "allowed_ips" (some (.array ((textSplit ", " list).map .string)))
  match configData.value "allowed_ips" with
  | some (.string list) => some (withList list)
  | some _ => some configData
  | none =>
      (nativeValue (configData.textAt "config") (containsText "AllowedIPs")).map fun list =>
        (list.map withList).getD configData

/-- The time between keepalives is taken from the native config. -/
def withKeepalive (configData : QJsonObject) : Option QJsonObject :=
  match configData.value "persistent_keep_alive" with
  | some _ => some configData
  | none =>
      let line := containsText "PersistentKeepalive"
      (nativeValue (configData.textAt "config") line).map fun value =>
        (value.map fun text => configData.insertText "persistent_keep_alive" text).getD configData

def isWireGuardProtocol (protocolName : String) : Bool :=
  protocolName = Proto.awg.protoToString || protocolName = Proto.wireGuard.protoToString

/-- The config with the data of old configs. -/
def withNativeConfig (config : QJsonObject) : Option QJsonObject :=
  let protocolName := config.textAt "protocol"
  if isWireGuardProtocol protocolName then
    let configData := config.objectAt (protocolName ++ "_config_data")
    ((withAllowedIps configData).bind withKeepalive).map fun data =>
      if data = configData then config
      else config.insertObject (protocolName ++ "_config_data") data
  else some config

/-- `allowSiteBasedSplitTunneling`: other protocols, and a tunnel for all IPv4 addresses. -/
def allowsSites (config : QJsonObject) : Bool :=
  let protocolName := config.textAt "protocol"
  !isWireGuardProtocol protocolName ||
    (Json.string "0.0.0.0/0") ∈
      (config.objectAt (protocolName ++ "_config_data")).arrayAt "allowed_ips"

/-! ## The sites of the user -/

section Sites

variable (q : Platform) (s : TunnelSettings)

/-- `routeMode` and `sitesJsonArray`. Without sites all traffic goes through the tunnel. With only
the sites in the tunnel the name servers are added to them. -/
def manualSites (config : QJsonObject) : RouteMode × List String :=
  if s.isSitesSplitTunnelingEnabled = false then (.vpnAllSites, [])
  else if allowsSites config = false then (s.routeMode, [])
  else
    let sites := s.getVpnIps q s.routeMode
    if sites = [] then (.vpnAllSites, [])
    else if s.routeMode = .vpnOnlyForwardSites then
      (s.routeMode, sites ++ [config.textAt "dns1", config.textAt "dns2"])
    else (s.routeMode, sites)

end Sites

/-! ## The presets -/

/-- Entries of presets, by their form. -/
structure PresetBucket where
  cidrs : List String
  hosts : List String

/-- The direction of a preset. -/
inductive PresetKind where
  | followMode
  | alwaysDirect
  | alwaysVpn
deriving DecidableEq

/-- The bucket of a preset. -/
def PresetKind.ofId (id : String) : PresetKind :=
  if id = "builtin-ru-direct" ∨ id = "builtin-ru-banking" then .alwaysDirect
  else if id = "builtin-ru-vpn" then .alwaysVpn
  else .followMode

/-- The domains of the enabled presets of a kind. -/
def presetEntries (presets : List Json) (enabled : List String) (kind : PresetKind) : List String :=
  presets.flatMap fun value =>
    let preset := Json.toObject (some value)
    if preset.textAt "id" ∈ enabled ∧ PresetKind.ofId (preset.textAt "id") = kind then
      (preset.arrayAt "domains").map fun domain => Json.text (some domain)
    else []

section Presets

variable (q : Platform)

/-- The bucket of a kind: addresses and subnets, and names. -/
def presetBucket (presets : List Json) (enabled : List String) (kind : PresetKind) : PresetBucket :=
  let entries := presetEntries presets enabled kind
  ⟨entries.filter fun entry => NetworkUtilities.checkIpSubnetFormat q entry,
    entries.filter fun entry => !NetworkUtilities.checkIpSubnetFormat q entry && entry ≠ ""⟩

def parseSubnet (cidr : String) : IPAddress :=
  let parts := (cidr.toList.splitOn '/').map String.ofList
  let addr := HostAddress.ofString q (parts.headD "")
  match addr, parts with
  | .ipv4 _, _ :: bits :: _ => ⟨addr, stringToInt bits⟩
  | .ipv4 _, _ => ⟨addr, 32⟩
  | _, _ => ⟨addr, -1⟩

/-- `QHostAddress::isInSubnet` for an IPv4 address. A length that is too large is cut. -/
def isInSubnet (addr : BitVec 32) (net : IPAddress) : Bool :=
  IPAddress.covers ⟨net.address, min net.prefixLength 32⟩ (.v4 addr)

/-- An address that was found, unless one of the subnets has it. -/
def resolvedHost (nets : List IPAddress) (addresses : List Address) : Option String :=
  match firstAddress addresses with
  | none => none
  | some addr =>
      if nets.any (isInSubnet addr) then none else some (String.ofList (ipv4Chars addr))

variable (resolve : String → List Address)

def flattenBucket (bucket : PresetBucket) : List String :=
  let nets := (bucket.cidrs.map (parseSubnet q)).filter fun net => 0 ≤ net.prefixLength
  bucket.cidrs ++ bucket.hosts.filterMap fun host => resolvedHost nets (resolve host)

/-- Networks whose addresses many sites share. -/
def sharedCdn : List (String × ℤ) :=
  [("104.16.0.0", 12), ("104.64.0.0", 10), ("162.158.0.0", 15), ("172.64.0.0", 13),
    ("173.245.48.0", 20), ("188.114.96.0", 20), ("190.93.240.0", 20), ("197.234.240.0", 22),
    ("198.41.128.0", 17), ("141.101.64.0", 18), ("103.21.244.0", 22), ("103.22.200.0", 22),
    ("103.31.4.0", 22), ("151.101.0.0", 16), ("199.232.0.0", 16), ("23.32.0.0", 11),
    ("23.192.0.0", 11), ("2.16.0.0", 13), ("13.32.0.0", 12), ("13.224.0.0", 12),
    ("99.84.0.0", 16), ("76.223.0.0", 16), ("13.248.0.0", 14)]

def isSharedCdnHost (entry : String) : Bool :=
  '/' ∉ entry.toList &&
    match HostAddress.ofString q entry with
    | .ipv4 addr =>
        sharedCdn.any fun net => isInSubnet addr ⟨HostAddress.ofString q net.1, net.2⟩
    | _ => false

/-- The sites of the presets of a kind. -/
def presetSites (presets : List Json) (enabled : List String)
    (kind : PresetKind) : List String :=
  flattenBucket q resolve (presetBucket q presets enabled kind)

/-- `includeSitesJsonArray`, for the route mode and the sites of the user. -/
def includeSites (presets : List Json) (enabled : List String)
    (mode : RouteMode) (sites : List String) : List String :=
  if mode = .vpnOnlyForwardSites then
    if enabled = [] then sites
    else
      sites ++ presetSites q resolve presets enabled .followMode ++
        presetSites q resolve presets enabled .alwaysVpn
  else []

/-- `excludeSitesJsonArray`, for the route mode and the sites of the user. As soon as a preset is
enabled, addresses of shared content networks are taken out. -/
def excludeSites (presets : List Json) (enabled : List String)
    (mode : RouteMode) (sites : List String) : List String :=
  let manual := if mode = .vpnAllExceptSites then sites else []
  if enabled = [] then manual
  else
    (manual ++
      if mode = .vpnOnlyForwardSites then []
      else
        presetSites q resolve presets enabled .followMode ++
          presetSites q resolve presets enabled .alwaysDirect).filter
      fun entry => !isSharedCdnHost q entry

end Presets

/-! ## `appendSplitTunnelingConfig` -/

/-- The number of a route mode. -/
def RouteMode.toInt : RouteMode → ℤ
  | .vpnAllSites => 0
  | .vpnOnlyForwardSites => 1
  | .vpnAllExceptSites => 2

/-- The number of a route mode for applications. -/
def AppsRouteMode.toInt : AppsRouteMode → ℤ
  | .vpnAllApps => 0
  | .vpnOnlyForwardApps => 1
  | .vpnAllExceptApps => 2

/-- `appsRouteMode` and `appsJsonArray`. -/
def TunnelSettings.apps (s : TunnelSettings) : AppsRouteMode × List String :=
  if s.isAppsSplitTunnelingEnabled = false then (.vpnAllApps, [])
  else
    let apps := (s.vpnApps s.appsRouteMode).map fun app =>
      if app.appPath = "" then app.packageName else app.appPath
    if apps = [] then (.vpnAllApps, []) else (s.appsRouteMode, apps)

def stringArray (l : List String) : Option Json := some (.array (l.map .string))

section Append

variable (q : Platform) (resolve : String → List Address) (s : TunnelSettings)

/-- The presets, merged. -/
def TunnelSettings.presets : List Json := BuiltinSplitPresets.mergeWithApi s.splitPresetsCache

variable (config : QJsonObject)

/-- The sites to include and to exclude, with the presets. -/
def splitSites : List String × List String :=
  if s.isSitesSplitTunnelingEnabled && allowsSites config then
    let (mode, sites) := manualSites q s config
    (includeSites q resolve s.presets s.splitPresetsEnabled mode sites,
      excludeSites q resolve s.presets s.splitPresetsEnabled mode sites)
  else ([], [])

/-- What is written into a config whose data is complete. -/
def writeSplitTunneling : QJsonObject :=
  let (mode, sites) := manualSites q s config
  let (includeSites, excludeSites) := splitSites q resolve s config
  let (appsMode, apps) := s.apps
  let config := config.insert "splitTunnelType" (some (.double mode.toInt))
  let config := config.insert "splitTunnelSites" (stringArray sites)
  let config := config.insert "splitTunnelIncludeSites" (stringArray includeSites)
  let config := config.insert "splitTunnelExcludeSites" (stringArray excludeSites)
  let config := config.insert "localSubnetExclusions" (stringArray s.localSubnetExclusions)
  let config := config.insert "appSplitTunnelType" (some (.double appsMode.toInt))
  config.insert "splitTunnelApps" (stringArray apps)

/-- `appendSplitTunnelingConfig`. There is no config if the native config has a line that cannot be
read. -/
def appendSplitTunnelingConfig : Option QJsonObject :=
  (withNativeConfig config).map (writeSplitTunneling q resolve s)

end Append

/-! ## The subnets that are read -/

section Subnets

variable {q : Platform}

theorem exists_ipv4_of_check {ip : String} (h : NetworkUtilities.checkIPv4Format q ip = true) :
    ∃ x, HostAddress.ofString q ip = .ipv4 x := by
  unfold NetworkUtilities.checkIPv4Format at h
  rw [Bool.and_eq_true] at h
  have haddress := h.2
  split at haddress
  · exact ⟨_, by assumption⟩
  · cases haddress

variable {site : String}

theorem parseSubnet_host {x : BitVec 32} (hslash : '/' ∉ site.toList)
    (haddress : HostAddress.ofString q site = .ipv4 x) : parseSubnet q site = ⟨.ipv4 x, 32⟩ := by
  unfold parseSubnet
  dsimp only
  rw [List.splitOn_eq_singleton hslash, List.map_singleton, String.ofList_toList, List.headD_cons,
    haddress]

/-- Text that is checked is read as an IPv4 subnet. -/
theorem parseSubnet_of_check (h : NetworkUtilities.checkIpSubnetFormat q site = true) :
    ∃ x n, parseSubnet q site = ⟨.ipv4 x, n⟩ ∧ 0 ≤ n ∧ n ≤ 32 := by
  unfold NetworkUtilities.checkIpSubnetFormat at h
  by_cases hslash : '/' ∉ site.toList
  · rw [if_pos hslash] at h
    obtain ⟨x, hx⟩ := exists_ipv4_of_check h
    exact ⟨x, 32, parseSubnet_host hslash hx, by decide, by decide⟩
  · rw [if_neg hslash] at h
    unfold parseSubnet
    dsimp only
    split at h
    · rename_i address subnet hparts
      rw [hparts, List.headD_cons]
      split at h
      · rename_i n hn
        simp only [Bool.and_eq_true, decide_eq_true_eq] at h
        obtain ⟨x, hx⟩ := exists_ipv4_of_check h.2
        rw [hx]
        refine ⟨x, n, ?_, h.1⟩
        show (⟨.ipv4 x, stringToInt subnet⟩ : IPAddress) = _
        rw [stringToInt, hn]
        rfl
      · cases h
    · cases h

end Subnets

end Dopamine.Client
