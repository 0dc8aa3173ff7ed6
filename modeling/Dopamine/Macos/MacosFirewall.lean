import Dopamine.Linux.LinuxFirewall
import Dopamine.Pf.LastMatch

/-!
# The packet filter of macOS

`MacOSFirewall` of `client/platforms/macos/daemon/macosfirewall.cpp` drives `pfctl`. The root anchor
`frkn` stands at the end of the main ruleset; its sub-anchors are switched on by loading their file
of `deploy/data/macos/pf` and off by flushing them, and the tables they name are filled at run time.
As far as the program is concerned an anchor holds the rules of its file or none, so a state says
which anchors are on.

`pfctl -a frkn -F all` flushes the anchor itself and not the ones below it. The NAT and RDR anchors
hold no rules and are left out, and so is `set skip on lo0`, next to a rule that passes all of
`lo0`.
-/

namespace Dopamine.Macos

open Linux (Proto)
open Linux.LinuxFirewall (net4 net6)

/-- The sub-anchors of `frkn.conf`. -/
inductive Anchor where
  | allowLoopback
  | blockAll
  | allowNets
  | blockNets
  | allowExcludedApps
  | allowVPN
  | blockIPv6
  | allowExcludedSubnets
  | allowDHCP
  | allowLAN
  | blockDNS
  | allowHnsd
  | allowPIA
deriving DecidableEq

/-- In the order of their numbers, 000 to 400. -/
def Anchor.all : List Anchor :=
  [.allowLoopback, .blockAll, .allowNets, .blockNets, .allowExcludedApps, .allowVPN, .blockIPv6,
    .allowExcludedSubnets, .allowDHCP, .allowLAN, .blockDNS, .allowHnsd, .allowPIA]

inductive Verdict where
  | pass
  | block
deriving DecidableEq

/-- An outgoing packet. -/
structure Packet where
  iface : String
  dst : Address
  proto : Proto
  sport : ℕ
  dport : ℕ
  /-- the effective group of the sender -/
  group : String

/-- The `to` part of a rule. -/
inductive Dst where
  | any
  | nets (l : List Net)
  /-- the table of the anchor -/
  | table

/-- The condition of an outgoing rule; an empty list stands for anything. -/
structure Cond where
  on : List String := []
  family : Option Family := none
  protos : List Proto := []
  dst : Dst := .any
  sport : Option ℕ := none
  dports : List ℕ := []
  group : Option String := none

/-- The packet meets the condition of a rule of an anchor whose table is given. -/
def Packet.sat (p : Packet) (table : List Net) (c : Cond) : Bool :=
  (c.on.isEmpty || c.on.contains p.iface) &&
  c.family.all (fun f => f == p.dst.family) &&
  (c.protos.isEmpty || c.protos.contains p.proto) &&
  (match c.dst with
    | .any => true
    | .nets l => l.any fun n => n.contains p.dst
    | .table => table.any fun n => n.contains p.dst) &&
  c.sport.all (fun x => x == p.sport) &&
  (c.dports.isEmpty || c.dports.contains p.dport) &&
  c.group.all (fun g => g == p.group)

abbrev PfRule := Pf.Rule Cond Verdict

/-- `utun0` to `utun30`. -/
def utunInterfaces : List String := (List.range 31).map fun i => "utun" ++ toString i

/-- The packet leaves on an interface named as a tunnel. -/
def Packet.isTunnel (p : Packet) : Bool := utunInterfaces.contains p.iface

/-- The rules in the file of an anchor. -/
def Anchor.conf : Anchor → List PfRule
  | .allowLoopback => [⟨{ on := ["lo0"] }, .pass, true⟩]
  | .blockAll => [⟨{}, .block, false⟩]
  | .allowNets => [⟨{ dst := .table }, .pass, false⟩]
  | .blockNets => [⟨{ dst := .table }, .block, false⟩]
  | .allowExcludedApps => []
  | .allowVPN => [⟨{ on := utunInterfaces }, .pass, false⟩]
  | .blockIPv6 => [⟨{ family := some .IPv6 }, .block, false⟩]
  | .allowExcludedSubnets => [⟨{ dst := .table }, .pass, false⟩]
  | .allowDHCP =>
      [⟨{ family := some .IPv4, protos := [.udp], sport := some 68,
            dst := .nets [net4 255 255 255 255 32], dports := [67] }, .pass, false⟩,
        ⟨{ family := some .IPv6, protos := [.udp], sport := some 546,
            dst := .nets [net6 0xff00 8], dports := [547] }, .pass, false⟩]
  | .allowLAN =>
      [⟨{ dst := .nets [net4 10 0 0 0 8, net4 169 254 0 0 16, net4 172 16 0 0 12,
          net4 192 168 0 0 16, net4 224 0 0 0 4, net4 255 255 255 255 32, net6 0xfc00 7,
          net6 0xfe80 10, net6 0xff00 8] }, .pass, false⟩]
  | .blockDNS =>
      [⟨{ protos := [.tcp, .udp], dports := [53] }, .block, false⟩,
        ⟨{ protos := [.tcp, .udp], dst := .table, dports := [53] }, .pass, false⟩]
  | .allowHnsd =>
      [⟨{ group := some "frknhnsd" }, .block, false⟩,
        ⟨{ on := utunInterfaces, protos := [.tcp, .udp], dports := [53, 13038],
            group := some "frknhnsd" }, .pass, false⟩]
  | .allowPIA => [⟨{ protos := [.tcp, .udp], group := some "frknvpn" }, .pass, false⟩]

/-- A rule of the main ruleset. -/
inductive MainRule where
  | host (r : PfRule)
  /-- `anchor "frkn/*"`, or without the wildcard `anchor "frkn"` -/
  | root (wildcard : Bool)

def MainRule.isRoot : MainRule → Bool
  | .root _ => true
  | .host _ => false

/-- The packet filter, as far as the program looks at it. -/
structure PfState where
  /-- the rules of `/etc/pf.conf` -/
  conf : List PfRule
  main : List MainRule
  /-- the rules of `frkn.conf` are in the anchor `frkn` -/
  rootLoaded : Bool
  on : Anchor → Bool
  table : Anchor → List Net
  /-- the program holds a reference that keeps the filter enabled -/
  token : Bool
  /-- somebody else does -/
  others : Bool

namespace PfState

variable (st : PfState)

/-- The rules of an anchor, with its table. -/
def anchorRules (a : Anchor) : List (Pf.Rule (List Net × Cond) Verdict) :=
  if st.on a then a.conf.map fun r => ⟨(st.table a, r.cond), r.verdict, r.quick⟩ else []

/-- The sub-anchors are reached from the main ruleset: all of them by the wildcard, or one by one
from the rules of the root anchor. -/
def attached : Bool :=
  st.main.any fun r =>
    match r with
    | .root wildcard => wildcard || st.rootLoaded
    | .host _ => false

/-- The rules of the program that packets meet. -/
def rules : List (Pf.Rule (List Net × Cond) Verdict) :=
  if (st.token || st.others) && st.attached then Anchor.all.flatMap st.anchorRules else []

/-- What the anchors of the program decide for a packet. -/
def anchorVerdict (p : Packet) : Option Verdict := Pf.verdict (fun c => p.sat c.1 c.2) st.rules

end PfState

namespace MacOSFirewall

variable (st : PfState)

def uninstall : PfState :=
  { st with rootLoaded := false, token := false, main := st.conf.map .host }

def installRootAnchors : PfState :=
  { st with
    main := (st.main.filter fun r => !r.isRoot) ++ [.root true]
    rootLoaded := true }

def install : PfState := { installRootAnchors (uninstall st) with token := true }

def isPFEnabled : Bool := st.token

def isRootAnchorLoaded : Bool := st.main.any MainRule.isRoot && st.rootLoaded

def isInstalled : Bool := isPFEnabled st && isRootAnchorLoaded st

/-- The root anchor is put at the end of the main ruleset, without the wildcard, unless it is there.
-/
def ensureRootAnchorPriority : PfState :=
  if st.main.getLast?.any MainRule.isRoot then st
  else { st with main := (st.main.filter fun r => !r.isRoot) ++ [.root false] }

/-- An anchor that has rules stays as it is; otherwise its file is loaded, with empty tables. -/
def enableAnchor (a : Anchor) : PfState :=
  if (st.anchorRules a).isEmpty then
    { st with on := Function.update st.on a true, table := Function.update st.table a [] }
  else st

def disableAnchor (a : Anchor) : PfState :=
  if (st.anchorRules a).isEmpty then st
  else { st with on := Function.update st.on a false, table := Function.update st.table a [] }

def setAnchorEnabled (a : Anchor) (enabled : Bool) : PfState :=
  if enabled then enableAnchor st a else disableAnchor st a

/-- `pfctl` refuses a list with an item that it cannot read as a whole. -/
def setAnchorTable (readTable : List String → Option (List Net)) (a : Anchor) (enabled : Bool)
    (items : List String) : PfState :=
  { st with
    table := Function.update st.table a
      (if enabled then (readTable items).getD (st.table a) else []) }

end MacOSFirewall

end Dopamine.Macos
