import Dopamine.Net.Address
import Dopamine.Routing.Table

/-!
# The route monitor of the Linux daemon

`LinuxRouteMonitor` sends a netlink request for each route and returns whether it was sent. Whether
the kernel takes it is only logged. A route into the tunnel has metric 1; an exclusion route goes
over the gateway of the host and has metric 0. Both replace the route with the same destination and
metric.

The kernel refuses an IPv4 destination with host bits and clears those of an IPv6 destination. The
gateway of an exclusion route is always an IPv4 address, so the kernel refuses it for IPv6.
-/

namespace Dopamine

/-- The bits of the address after the prefix are zero. -/
def Net.isCanonical (n : Net) : Bool :=
  match n.base with
  | .v4 b => b <<< n.len == 0#32
  | .v6 b => b <<< n.len == 0#128

namespace Linux

open Routing

/-- The destination of a route. -/
structure Dest where
  net : Net
  canonical : net.isCanonical = true
deriving DecidableEq

/-- Where a route leads: into the tunnel, to a gateway, or out of another interface. -/
inductive Hop where
  | tunnel
  | via (gateway : BitVec 32)
  | link (ifname : String)
deriving DecidableEq

/-- The routes of the host. -/
abbrev Routes := Routing.Table Dest Hop

/-- The address and the length of a netlink request. The length is a byte, and `inet_pton` does not
read a scope id. -/
def buildAllowedIp (ip : IPAddress) : Option (Address × ℕ) :=
  match ip.address with
  | .ipv4 a => some (.v4 a, (ip.prefixLength % 256).toNat)
  | .ipv6 a scopeId =>
      if scopeId = "" then some (.v6 a, (ip.prefixLength % 256).toNat) else none
  | .null => none

/-- The destination the kernel makes of a request. -/
def kernelDest : Address × ℕ → Option Dest
  | (.v4 a, n) =>
      if h : n ≤ 32 ∧ a <<< n = 0#32 then some ⟨⟨.v4 a, n, h.1⟩, beq_iff_eq.mpr h.2⟩ else none
  | (.v6 a, n) =>
      if h : n ≤ 128 then
        some ⟨⟨.v6 (a >>> (128 - n) <<< (128 - n)), n, h⟩, by
          simp only [Net.isCanonical, beq_iff_eq]
          rw [← BitVec.shiftLeft_add, Nat.sub_add_cancel h]
          exact BitVec.shiftLeft_eq_zero (Nat.le_refl _)⟩
      else none

/-- The destination of a route the kernel takes for a range. -/
def routeDest (ip : IPAddress) : Option Dest := (buildAllowedIp ip).bind kernelDest

/-- The destination of an exclusion route the kernel takes. -/
def exclusionDest (ip : IPAddress) : Option Dest :=
  (routeDest ip).filter fun dest => dest.net.base.family = .IPv4

def tunnelRoute (dest : Dest) : Route Dest Hop := ⟨dest, 1, .tunnel⟩

/-- A route around the tunnel. -/
def exclusionRoute (gateway : BitVec 32) (dest : Dest) : Route Dest Hop := ⟨dest, 0, .via gateway⟩

namespace LinuxRouteMonitor

/-- What the kernel does with the request of `insertRoute`. -/
def insertRoute (ip : IPAddress) (t : Routes) : Routes :=
  match routeDest ip with
  | some dest => t.insert (tunnelRoute dest)
  | none => t

/-- The request names the interface and the metric of the route. -/
def deleteRoute (ip : IPAddress) (t : Routes) : Routes :=
  match routeDest ip with
  | some dest => t.delete fun r => r.dest = dest ∧ r.metric = 1 ∧ r.hop = .tunnel
  | none => t

/-- Without a gateway the kernel has no use for the request. -/
def addExclusionRoute (gateway : Option (BitVec 32)) (ip : IPAddress) (t : Routes) : Routes :=
  match gateway, exclusionDest ip with
  | some gateway, some dest => t.insert (exclusionRoute gateway dest)
  | _, _ => t

/-- A metric of zero stands for any metric here. -/
def deleteExclusionRoute (gateway : Option (BitVec 32)) (ip : IPAddress) (t : Routes) : Routes :=
  match gateway, exclusionDest ip with
  | some gateway, some dest => t.delete fun r => r.dest = dest ∧ r.hop = .via gateway
  | _, _ => t

end LinuxRouteMonitor

end Linux

end Dopamine
