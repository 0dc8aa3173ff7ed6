import Dopamine.Android.Subnets

/-!
# The routes of a protocol config

The part of `client/android/protocolApi/src/main/kotlin/ProtocolConfig.kt` that decides on the
routes of the tunnel: `Builder`, `processSplitTunneling`, `processRoutes` and `validate`.

A Kotlin set is a list without duplicates in the order of insertion. A hash set is iterated in an
order of its own, `Device.hashOrder`.
-/

namespace Dopamine.Android

/-! ## Networks -/

/-- The address `a.b.c.d`. -/
def ipv4 (a b c d : UInt8) : InetAddress :=
  ⟨⟨[a, b, c, d], .inl rfl⟩, IpAddress.isMapped_of_size rfl⟩

/-- The IPv6 address that is zero but for its first and its last byte. -/
def ipv6 (first last : UInt8) : InetAddress :=
  ⟨⟨[first, 0, 0, 0, 0, 0, 0, 0, 0, 0, 0, 0, 0, 0, 0, last], .inr rfl⟩, by
    simp [IpAddress.isMapped]⟩

namespace InetNetwork

/-- `InetNetwork("0.0.0.0", 0)`. -/
def default4 : InetNetwork := ⟨ipv4 0 0 0 0, 0⟩

/-- `InetNetwork("::", 0)`. -/
def default6 : InetNetwork := ⟨ipv6 0 0, 0⟩

/-- `InetNetwork("2000::", 3)`. -/
def global6 : InetNetwork := ⟨ipv6 0x20 0, 3⟩

/-- `127.0.0.0/8`. -/
def loopback4 : InetNetwork := ⟨ipv4 127 0 0 0, 8⟩

/-- `::1/128`. -/
def loopback6 : InetNetwork := ⟨ipv6 0 1, 128⟩

end InetNetwork

open InetNetwork

def InetAddress.isLoopbackAddress (a : InetAddress) : Bool :=
  if a.ip.size == 4 then a.ip.address.head? == some 127 else a == loopback6.address

/-! ## The platform -/

/-- What the modelled code takes from Android, Java and Kotlin.

* `getByName` is `InetAddress.getByName`, which throws if the text is no address.
* `toInt` is `String.toInt`, and `trim` is `String.trim`.
* `hashOrder` is the order in which a hash set of networks is iterated.
* `addRoute` tells whether `VpnService.Builder.addRoute` takes a network, and `excludeRoute` the
  same for `IpPrefix` and `VpnService.Builder.excludeRoute`. They throw if a prefix length is not
  one of the family. `addRoute` takes a network that is given by its first address, unless this is
  a loopback address. -/
structure Device where
  getByName : String → Option InetAddress
  toInt : String → Option ℤ
  trim : String → String
  hashOrder : List InetNetwork → List InetNetwork
  hashOrder_perm : ∀ l, (hashOrder l).Perm l
  addRoute : InetNetwork → Bool
  excludeRoute : InetNetwork → Bool
  mask_of_addRoute : ∀ n, addRoute n = true → 0 ≤ n.mask ∧ n.mask ≤ n.address.ip.maxMask
  mask_of_excludeRoute : ∀ n, excludeRoute n = true → 0 ≤ n.mask ∧ n.mask ≤ n.address.ip.maxMask
  addRoute_of_first : ∀ n, 0 ≤ n.mask → n.mask ≤ n.address.ip.maxMask →
    2 ^ (n.address.ip.maxMask - n.mask.toNat) ∣ n.address.ip.value →
    n.address.isLoopbackAddress = false → addRoute n = true

/-! ## The builder -/

/-- Add elements to a set, each at the end unless it is in the set. -/
def addAll {α : Type} [DecidableEq α] (set xs : List α) : List α :=
  xs.foldl (fun set x => if x ∈ set then set else set ++ [x]) set

/-- The data class `Route`. -/
structure Route where
  inetNetwork : InetNetwork
  included : Bool
deriving DecidableEq

/-- The routes into the tunnel for some networks. -/
def includeAll (l : List InetNetwork) : List Route := l.map fun n => ⟨n, true⟩

/-- The routes past the tunnel for some networks. -/
def excludeAll (l : List InetNetwork) : List Route := l.map fun n => ⟨n, false⟩

/-- `ProtocolConfig.Builder`: what the routes depend on, and what `validate` checks. -/
structure Builder where
  addresses : List InetNetwork
  routes : List Route
  includedAddresses : List InetNetwork
  excludedAddresses : List InetNetwork
  allowSplitTunneling : Bool
  mtu : ℤ

namespace Builder

def removeRoute (b : Builder) (route : InetNetwork) : Builder :=
  { b with routes := b.routes.filter fun r => r.inetNetwork ≠ route }

/-- `prependRoutes`, for a block that adds `first` to the routes. -/
def prependRoutes (b : Builder) (first : List Route) : Builder :=
  { b with routes := addAll (addAll [] first) b.routes }

def processSplitTunneling (android : Device) (b : Builder) : Except Failure Builder :=
  if b.includedAddresses ≠ [] ∧ b.excludedAddresses ≠ [] then
    .error (.badConfig
      "Config contains addresses for inclusive and exclusive split tunneling at the same time")
  else if b.includedAddresses ≠ [] then
    .ok ((((b.removeRoute default4).removeRoute default6).removeRoute global6).prependRoutes
      (includeAll (android.hashOrder b.includedAddresses)))
  else if b.excludedAddresses ≠ [] then
    let hasIpv6Routes := b.routes.any fun r => r.included && !r.inetNetwork.isIpv4
    .ok (b.prependRoutes
      ([⟨default4, true⟩] ++ (if hasIpv6Routes then [⟨global6, true⟩] else []) ++
        excludeAll (android.hashOrder b.excludedAddresses)))
  else .ok b

end Builder

/-- `Build.VERSION_CODES.TIRAMISU`, Android 13. -/
def tiramisu : ℕ := 33

/-- In `processRoutes`, `::/0` is replaced by `2000::/3`. -/
def replaceDefault6 (routes : List Route) : List Route :=
  if (⟨default6, true⟩ : Route) ∈ routes then
    addAll [⟨global6, true⟩] (routes.filter fun r => r ≠ ⟨default6, true⟩)
  else routes

/-- A route in turn, added to the set of ranges or removed from it. -/
def applyRoute (set : IpRangeSet) (r : Route) : Except Failure IpRangeSet := do
  let range ← IpRange.ofNetwork r.inetNetwork
  if r.included then set.add range else set.remove range

/-- In `processRoutes`, for older versions of Android: the subnets without the excluded routes and
the loopback addresses. -/
def withoutExcluded (routes : List Route) : Except Failure (List Route) := do
  let ipRangeSet ← routes.foldlM applyRoute IpRangeSet.empty
  let ipRangeSet ← applyRoute ipRangeSet ⟨loopback4, false⟩
  let ipRangeSet ← applyRoute ipRangeSet ⟨loopback6, false⟩
  return addAll [] (includeAll (← ipRangeSet.subnets))

/-- In `processRoutes`, the filter for loopback addresses. -/
def isLoopback (n : InetNetwork) : Bool :=
  if n.isIpv4 then n.address.ip.address.head? == some 127 else n == loopback6

/-- In `processRoutes`, the routes that the version of Android can use. -/
def usableRoutes (sdk : ℕ) (routes : List Route) : Except Failure (List Route) :=
  if sdk < tiramisu ∧ (routes.any fun r => !r.included) = true then withoutExcluded routes
  else .ok routes

def processRoutes (sdk : ℕ) (routes : List Route) : Except Failure (List Route) := do
  let routes ← usableRoutes sdk (replaceDefault6 routes)
  return routes.filter fun r => !(r.included && isLoopback r.inetNetwork)

namespace Builder

def validate (b : Builder) : Except Failure Unit :=
  let errorMessage :=
    (if b.addresses = [] then "VPN interface network address not specified.\n" else "") ++
    (if b.routes = [] then "VPN interface route not specified.\n" else "") ++
    (if b.mtu = 0 then "MTU not set.\n" else "")
  if errorMessage ≠ "" then .error (.badConfig errorMessage) else .ok ()

/-- `configBuild`: the routes of the config. -/
def configBuild (android : Device) (sdk : ℕ) (b : Builder) : Except Failure (List Route) := do
  let b ← b.processSplitTunneling android
  let routes ← processRoutes sdk b.routes
  { b with routes := routes }.validate
  return routes

end Builder

end Dopamine.Android
