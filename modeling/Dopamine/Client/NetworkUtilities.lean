import Dopamine.Daemon.InterfaceConfig

/-!
# Addresses and subnets as text

The checks of `client/core/networkUtilities.cpp` for the text of an IPv4 address or subnet, and what
a route to such a text leads to. The service reads the address and the mask of a route with the same
functions (`service/server/router_linux.cpp`, `router_mac.cpp`, `router_win.cpp`).
-/

namespace Dopamine

namespace NetworkUtilities

variable (q : Platform)

/-- `checkIPv4Format`. -/
def checkIPv4Format (ip : String) : Bool :=
  ip ≠ "" && ip.toList.count '.' = 3 &&
    match HostAddress.ofString q ip with
    | .ipv4 _ => true
    | _ => false

def checkIpSubnetFormat (ip : String) : Bool :=
  if '/' ∉ ip.toList then checkIPv4Format q ip
  else
    match (ip.toList.splitOn '/').map String.ofList with
    | [address, subnet] =>
        match toInt? subnet with
        | some subnet => 0 ≤ subnet && subnet ≤ 32 && checkIPv4Format q address
        | none => false
    | _ => false

def ipAddressFromIpWithSubnet (ip : String) : String :=
  if ip.toList.count '.' ≠ 3 then ""
  else String.ofList ((ip.toList.splitOn '/').headD [])

/-- `netMaskFromIpWithSubnet`. The number of bits that are shifted counts modulo the width, as the
machine has it. -/
def netMaskFromIpWithSubnet (ip : String) : BitVec 32 :=
  match (ip.toList.splitOn '/').map String.ofList with
  | _ :: subnet :: _ =>
      match toInt? subnet with
      | some subnet => BitVec.allOnes 32 <<< ((32 - subnet) % 32).toNat
      | none => BitVec.allOnes 32
  | _ => BitVec.allOnes 32

end NetworkUtilities

/-- The first IPv4 address of an answer. -/
def firstAddress : List Address → Option (BitVec 32)
  | [] => none
  | .v4 a :: _ => some a
  | .v6 _ :: addresses => firstAddress addresses

/-- Where a route leads to. -/
structure Destination where
  network : BitVec 32
  mask : BitVec 32
deriving DecidableEq

/-- The destination of a route for the text of an address or subnet, if it is one. -/
def destination (q : Platform) (ipWithSubnet : String) : Option Destination :=
  let ip := NetworkUtilities.ipAddressFromIpWithSubnet ipWithSubnet
  let mask := NetworkUtilities.netMaskFromIpWithSubnet ipWithSubnet
  match HostAddress.ofString q ip with
  | .ipv4 a => if NetworkUtilities.checkIPv4Format q ip then some ⟨a &&& mask, mask⟩ else none
  | _ => none

end Dopamine
