import Dopamine.Net.Address
import Dopamine.Netfilter.Traversal
import Dopamine.Shell.Script
import Dopamine.Shell.Words

/-!
# The packet filter `LinuxFirewall` writes to

Packets and the conditions of filter rules, the tables and chains with the names the program gives
them, and rule text as a list of `iptables` options with the rules it stands for.

Rules of other programs can use conditions that are not modelled; a `Packet` says which of them it
meets, so that nothing below depends on them.
-/

namespace Dopamine.Linux

open Netfilter Shell

/-- A transport protocol, by name or number. -/
inductive Proto where
  | udp
  | tcp
  | other (number : ℕ)
deriving DecidableEq

/-- An outgoing packet. -/
structure Packet where
  /-- the interface it leaves on -/
  iface : String
  dst : Address
  proto : Proto
  sport : ℕ
  dport : ℕ
  /-- the `net_cls` class of the sender -/
  cgroup : String
  /-- the conditions of other programs' rules that it meets -/
  meets : String → Bool

/-- An interface pattern: with a trailing `+` it stands for every name that starts so. -/
def ifaceMatches (pattern name : String) : Bool :=
  if pattern.toList.getLast? = some '+' then pattern.toList.dropLast.isPrefixOf name.toList
  else pattern == name

/-- The condition of a rule; a part that is not given holds of every packet. -/
structure Cond where
  out : Option (Bool × String) := none
  dst : Option Net := none
  proto : Option Proto := none
  sport : Option ℕ := none
  dport : Option ℕ := none
  cgroup : Option String := none
  others : List String := []
deriving DecidableEq

/-- The packet meets the condition. -/
def Packet.sat (p : Packet) (c : Cond) : Bool :=
  c.out.all (fun o => o.1 != ifaceMatches o.2 p.iface) &&
  c.dst.all (fun n => n.contains p.dst) &&
  c.proto.all (fun x => x == p.proto) &&
  c.sport.all (fun x => x == p.sport) &&
  c.dport.all (fun x => x == p.dport) &&
  c.cgroup.all (fun x => x == p.cgroup) &&
  c.others.all p.meets

inductive Verdict where
  | accept
  | reject
  | drop
deriving DecidableEq

/-! ## Tables, anchors and chains -/

inductive Table where
  | filter
  | nat
  | mangle
  | raw
deriving DecidableEq

/-- The anchors of the program: numbered groups of rules that are switched as a whole. -/
inductive Anchor where
  | allowLoopback
  | blockAll
  | allowNets
  | blockNets
  | allowVPN
  | blockIPv6
  | allowDHCP
  | allowLAN
  | blockDNS
  | allowDNS
  | allowPIA
  | transIp
  | tagPkts
  | vpnTunOnly
deriving DecidableEq

/-- The chains of a table. An anchor has a placeholder chain that stays linked into the root chain,
and a chain with its rules that is linked into the placeholder while the anchor is enabled. -/
inductive Chain where
  | output
  | postRouting
  | preRouting
  /-- any other chain that is not one of the program's -/
  | other (name : String)
  | root
  | placeholder (a : Anchor)
  | actual (a : Anchor)
deriving DecidableEq

/-- The chain was made by the program. -/
def Chain.own : Chain → Bool
  | .root | .placeholder _ | .actual _ => true
  | _ => false

/-- The built-in chain the root chain of a table is linked into. -/
def Table.parent : Table → Chain
  | .filter => .output
  | .nat => .postRouting
  | .mangle => .output
  | .raw => .preRouting

abbrev FilterRule := Rule Cond Verdict Chain

abbrev IptRuleset := Ruleset Cond Verdict Chain

/-- An unconditional jump. -/
def jumpTo (c : Chain) : FilterRule := ⟨{}, .jump c⟩

/-- A rule with neither condition nor target: what `iptables -D chain` without a rule deletes. -/
def bareRule : FilterRule := ⟨{}, .none⟩

/-! ### Names -/

def Table.name : Table → String
  | .filter => "filter"
  | .nat => "nat"
  | .mangle => "mangle"
  | .raw => "raw"

def Anchor.name : Anchor → String
  | .allowLoopback => "000.allowLoopback"
  | .blockAll => "100.blockAll"
  | .allowNets => "110.allowNets"
  | .blockNets => "120.blockNets"
  | .allowVPN => "200.allowVPN"
  | .blockIPv6 => "250.blockIPv6"
  | .allowDHCP => "290.allowDHCP"
  | .allowLAN => "300.allowLAN"
  | .blockDNS => "310.blockDNS"
  | .allowDNS => "320.allowDNS"
  | .allowPIA => "400.allowPIA"
  | .transIp => "100.transIp"
  | .tagPkts => "100.tagPkts"
  | .vpnTunOnly => "100.vpnTunOnly"

def kAnchorName : String := "frkvpn"

def Chain.name : Chain → String
  | .output => "OUTPUT"
  | .postRouting => "POSTROUTING"
  | .preRouting => "PREROUTING"
  | .other name => name
  | .root => kAnchorName ++ ".anchors"
  | .placeholder a => kAnchorName ++ ".a." ++ a.name
  | .actual a => kAnchorName ++ "." ++ a.name

/-! ## Rule text -/

/-- The argument of `-d`: written in the program, with the network it means, or text that is only
known at run time. -/
inductive Dst where
  | lit (text : String) (net : Net)
  | text (s : String)

/-- An option of a rule. -/
inductive Opt where
  | out (iface : String)
  | notOut (iface : String)
  | dst (x : Dst)
  | proto (x : Proto)
  | sport (port : ℕ)
  | dport (port : ℕ)
  | cgroup (id : String)
  | jump (v : Verdict)
  | jumpChain (c : Chain)
  /-- an extension target with its options, such as `MARK --set-mark 0x3211` -/
  | jumpExt (target : String)

abbrev RuleSpec := List Opt

/-- What an option other than `-d` adds to the rule. -/
def Opt.apply (r : FilterRule) : Opt → FilterRule
  | .out i => { r with cond.out := some (false, i) }
  | .notOut i => { r with cond.out := some (true, i) }
  | .dst _ => r
  | .proto x => { r with cond.proto := some x }
  | .sport n => { r with cond.sport := some n }
  | .dport n => { r with cond.dport := some n }
  | .cgroup id => { r with cond.cgroup := some id }
  | .jump v => { r with target := .verdict v }
  | .jumpChain c => { r with target := .jump c }
  | .jumpExt x => { r with target := .ext x }

/-- The networks of a `-d` option. -/
def Dst.nets (q : Platform) (f : Family) : Dst → List Net
  | .lit _ net => if net.base.family = f then [net] else []
  | .text s => readDst q f s

def Opt.dst? : Opt → Option Dst
  | .dst x => some x
  | _ => none

/-- The rules a rule text stands for: one for each network of its `-d` option. -/
def RuleSpec.rules (q : Platform) (f : Family) (spec : RuleSpec) : List FilterRule :=
  let base := spec.foldl Opt.apply bareRule
  match spec.findSome? Opt.dst? with
  | none => [base]
  | some x => (x.nets q f).map fun n => { base with cond.dst := some n }

def Proto.name : Proto → String
  | .udp => "udp"
  | .tcp => "tcp"
  | .other n => toString n

def Verdict.name : Verdict → String
  | .accept => "ACCEPT"
  | .reject => "REJECT"
  | .drop => "DROP"

def Opt.text : Opt → List Piece
  | .out i => [.fixed ("-o " ++ i)]
  | .notOut i => [.fixed ("! -o " ++ i)]
  | .dst (.lit s _) => [.fixed ("-d " ++ s)]
  | .dst (.text s) => [.fixed "-d ", .arg s]
  | .proto x => [.fixed ("-p " ++ x.name)]
  | .sport n => [.fixed ("--sport " ++ toString n)]
  | .dport n => [.fixed ("--dport " ++ toString n)]
  | .cgroup id => [.fixed ("-m cgroup --cgroup " ++ id)]
  | .jump v => [.fixed ("-j " ++ v.name)]
  | .jumpChain c => [.fixed ("-j " ++ c.name)]
  | .jumpExt x => [.fixed ("-j " ++ x)]

def RuleSpec.text (spec : RuleSpec) : List Piece :=
  [Piece.fixed " "].intercalate (spec.map Opt.text)

end Dopamine.Linux
