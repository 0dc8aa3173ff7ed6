import Dopamine.Android.ProtocolConfig
import Dopamine.Routing.Table

/-!
# The routes of a WireGuard config

`Wireguard.parseConfig` of
`client/android/wireguard/src/main/kotlin/org/amnezia/vpn/protocol/wireguard/Wireguard.kt` and the
functions of `client/android/protocolApi/src/main/kotlin/Protocol.kt` that it calls: the routes come
from the allowed addresses, the site list of split tunneling and the local subnet exclusions.
`buildVpnInterface` hands them to the system, which routes an address by the longest prefix that
covers it.
-/

namespace Dopamine.Android

open InetNetwork

/-- The fields of the config that the routes depend on.

`other` is the outcome of reading the fields that no route depends on: the name servers, the host
and the port, the keys, the extension parameters and the split tunneling of applications. -/
structure Config where
  /-- `wireguard_config_data.client_ip`. -/
  clientIp : String
  /-- `wireguard_config_data.allowed_ips`. -/
  allowedIps : List String
  /-- `wireguard_config_data.mtu`, if it is there and not empty. -/
  mtu : Option String
  splitTunnelType : ℤ
  splitTunnelIncludeSites : Option (List String)
  splitTunnelExcludeSites : Option (List String)
  /-- The list of sites from before there were two, `none` if it is not there. -/
  splitTunnelSites : Option (List String)
  localSubnetExclusions : Option (List String)
  other : Except Failure Unit

namespace Device

variable (android : Device)

def parse (data : String) : Except Failure InetNetwork :=
  let split := (data.toList.splitOn '/').map String.ofList
  match android.getByName (split.headD "") with
  | none => .error (.unknownHost (split.headD ""))
  | some address =>
      if split.length = 1 then .ok ⟨address, address.ip.maxMask⟩
      else
        match android.toInt (split.getLastD "") with
        | none => .error (.numberFormat (split.getLastD ""))
        | some mask => .ok ⟨address, mask⟩

variable (config : Config)

/-- The MTU of `configWireguard`. -/
def readMtu : Except Failure ℤ :=
  match config.mtu with
  | none => .ok 1280
  | some text =>
      match android.toInt text with
      | none => .error (.numberFormat text)
      | some mtu => .ok mtu

/-- `configWireguard`. Split tunneling is prohibited if an allowed network is not a default route.
-/
def configWireguard : Except Failure Builder := do
  let addresses ← (config.clientIp.toList.splitOn ',').mapM fun address =>
    android.parse (android.trim (String.ofList address))
  let allowed ← config.allowedIps.mapM fun route => android.parse (android.trim route)
  let routes := addAll [] allowed
  let mtu ← android.readMtu config
  config.other
  return {
    addresses := addAll [] addresses
    routes := includeAll (android.hashOrder routes)
    includedAddresses := []
    excludedAddresses := []
    allowSplitTunneling := routes.all fun n => n = default4 || n = default6
    mtu := mtu }

/-- The sites of split tunneling. -/
def readSites (sites fallback : Option (List String)) : Except Failure (List InetNetwork) :=
  match sites.or fallback with
  | none => .error (.json "splitTunnelSites")
  | some sites => sites.mapM android.parse

def configSplitTunneling (b : Builder) : Except Failure Builder :=
  if b.allowSplitTunneling = false then .ok b
  else if config.splitTunnelType = 0 then .ok b
  else if config.splitTunnelType = 1 then do
    let sites ← android.readSites config.splitTunnelIncludeSites config.splitTunnelSites
    return { b with includedAddresses := addAll b.includedAddresses sites }
  else if config.splitTunnelType = 2 then do
    let sites ← android.readSites config.splitTunnelExcludeSites config.splitTunnelSites
    return { b with excludedAddresses := addAll b.excludedAddresses sites }
  else .error (.badConfig
    ("Unexpected value of the 'splitTunnelType' parameter: " ++ toString config.splitTunnelType))

/-- The local subnet exclusions that can be read. -/
def exclusions : List InetNetwork :=
  addAll [] ((config.localSubnetExclusions.getD []).filterMap fun entry =>
    if android.trim entry = "" then none else (android.parse (android.trim entry)).toOption)

end Device

def subtract (exclusions source : List InetNetwork) : Except Failure (List InetNetwork) := do
  let ranges ← (includeAll source ++ excludeAll exclusions).foldlM applyRoute IpRangeSet.empty
  ranges.subnets

namespace Device

variable (android : Device)

def configLocalSubnetExclusions (config : Config) (b : Builder) : Except Failure Builder :=
  if android.exclusions config = [] then .ok b
  else if b.includedAddresses ≠ [] then do
    let rest ← subtract (android.exclusions config) (android.hashOrder b.includedAddresses)
    return { b with includedAddresses := addAll [] rest }
  else if b.allowSplitTunneling = false then do
    let includes := (b.routes.filter fun r => r.included).map Route.inetNetwork
    let keep := b.routes.filter fun r => !r.included
    let rest ← subtract (android.exclusions config) includes
    return { b with routes := addAll keep (includeAll rest) }
  else .ok { b with excludedAddresses := addAll b.excludedAddresses (android.exclusions config) }

/-- The builder before the local subnet exclusions. -/
def configure (config : Config) : Except Failure Builder := do
  let b ← android.configWireguard config
  android.configSplitTunneling config b

/-- `parseConfig`: the routes of the config. -/
def parseConfig (sdk : ℕ) (config : Config) : Except Failure (List Route) := do
  let b ← android.configure config
  let b ← android.configLocalSubnetExclusions config b
  b.configBuild android sdk

end Device

/-! ## What is routed into the tunnel -/

/-- `IpPrefix`: the bits of a network that count. -/
structure IpPrefix where
  size : ℕ
  head : ℕ
  length : ℕ
deriving DecidableEq

/-- The prefix covers the address. -/
def IpPrefix.covers (p : IpPrefix) (d : IpAddress) : Bool :=
  d.size == p.size && d.value / 2 ^ (d.maxMask - p.length) == p.head

/-- The prefix of a network. -/
def InetNetwork.toPrefix (n : InetNetwork) : IpPrefix :=
  ⟨n.address.ip.size, n.address.ip.value / 2 ^ (n.address.ip.maxMask - n.mask.toNat), n.mask.toNat⟩

/-- The address lies in the network. -/
def InetNetwork.covers (n : InetNetwork) (d : IpAddress) : Bool := n.toPrefix.covers d

/-- The routes of a system: for each prefix, whether it leads into the tunnel. -/
abbrev VpnTable := Routing.Table IpPrefix Bool

/-- One route of the config in `buildVpnInterface`. Excluded routes are ignored by older versions of
Android. A later route takes the place of one for the same prefix. -/
def Device.addVpnRoute (android : Device) (sdk : ℕ) (table : VpnTable) (r : Route) :
    Except Failure VpnTable :=
  if r.included then
    if android.addRoute r.inetNetwork then .ok (table.insert ⟨r.inetNetwork.toPrefix, 0, true⟩)
    else .error .illegalRoute
  else if tiramisu ≤ sdk then
    if android.excludeRoute r.inetNetwork then .ok (table.insert ⟨r.inetNetwork.toPrefix, 0, false⟩)
    else .error .illegalRoute
  else .ok table

/-- The routes of the config in `buildVpnInterface`. The routes to the name servers that it adds on
some devices are not routes of the config. -/
def Device.buildVpnInterface (android : Device) (sdk : ℕ) (routes : List Route) :
    Except Failure VpnTable :=
  routes.foldlM (android.addVpnRoute sdk) ⟨[], List.nodup_nil⟩

/-- The config is read and the system has its routes. -/
def Device.startVpn (android : Device) (sdk : ℕ) (config : Config) : Except Failure VpnTable := do
  let routes ← android.parseConfig sdk config
  android.buildVpnInterface sdk routes

/-- The longest prefix that covers the address leads into the tunnel. -/
def Tunneled (table : VpnTable) (d : IpAddress) : Prop :=
  ∃ r, table.lookup IpPrefix.length IpPrefix.covers d = some r ∧ r.hop = true

end Dopamine.Android
