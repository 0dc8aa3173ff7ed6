import Dopamine.Linux.Iptables

/-!
# `LinuxFirewall`

The class of `client/platforms/linux/daemon/linuxfirewall.cpp`. Every method is a fixed sequence of
shell scripts handed to `execute`; no method looks at an exit status except `isInstalled` and
`isAnchorEnabled`. So a method is the list of its `Action`s, and `run` carries them out on the
tables of the kernel.

`Script` has one constructor for each `execute` call with `iptables` in it. `Script.text` is the
string handed to `/bin/bash -c`, and `Script.body` is what that string says.
-/

namespace Dopamine.Linux

open Netfilter Shell

variable (q : Platform)

/-- `enum IPVersion`. -/
inductive IPVersion where
  | IPv4
  | IPv6
  | Both
deriving DecidableEq

/-- The families a call with `ip` is made for, in order. -/
def IPVersion.families : IPVersion → List Family
  | .IPv4 => [.IPv4]
  | .IPv6 => [.IPv6]
  | .Both => [.IPv4, .IPv6]

/-! ## Commands -/

/-- One `iptables` invocation, or a pipeline around one. -/
inductive Cmd where
  | new (c : Chain)
  | flush (c : Chain)
  | delete (c : Chain)
  | list (c : Chain)
  | check (c : Chain) (r : FilterRule)
  | append (c : Chain) (rl : List FilterRule)
  | insert (c : Chain) (r : FilterRule)
  | remove (c : Chain) (r : FilterRule)
  | replace (c : Chain) (rl : List FilterRule)
  /-- `-L parent --line-numbers | awk`: the first rule of the chain has the target -/
  | firstIs (parent c : Chain)
  /-- `-L parent --line-numbers | awk | xargs -D parent`: delete the first later rule with the
  target -/
  | removeLater (parent c : Chain)

/-- `awk` prints the number of the first rule below the top with the target, and `xargs` deletes
the rule of that number. Without such a rule `xargs` still runs the command once, and
`iptables -D parent` deletes a rule that has neither condition nor target. -/
def dropLaterJump (parent c : Chain) (rs : IptRuleset) : Bool × IptRuleset :=
  match (rs.rules parent).tail.findIdx? fun r => decide (r.target = .jump c) with
  | some i => rs.deleteAt parent (i + 1)
  | none => rs.delete parent bareRule

/-- What a command does to the table it is run on. -/
def Cmd.run : Cmd → IptRuleset → Bool × IptRuleset
  | .new c, rs => rs.newChain c
  | .flush c, rs => rs.flush c
  | .delete c, rs => rs.deleteChain c
  | .list c, rs => rs.list c
  | .check c r, rs => rs.check c r
  | .append c rl, rs => rs.appendAll c rl
  | .insert c r, rs => rs.insert c r
  | .remove c r, rs => rs.delete c r
  | .replace c rl, rs =>
      match rl with
      | [r] => rs.replaceFirst c r
      | _ => (false, rs)
  | .firstIs parent c, rs =>
      ((rs.rules parent).head?.any fun r => decide (r.target = .jump c), rs)
  | .removeLater parent c, rs => dropLaterJump parent c rs

/-- The scripts the class runs, each for one family and one table. -/
inductive Script where
  | createChain (c : Chain)
  | deleteChain (c : Chain)
  | linkFirst (c parent : Chain)
  | link (c parent : Chain)
  | unlink (c parent : Chain)
  | appendRule (c : Chain) (rule : RuleSpec)
  | enableAnchor (a : Anchor)
  | replaceAnchor (a : Anchor) (newRule : RuleSpec)
  | disableAnchor (a : Anchor)
  /-- `-F` of an anchor whose rules are known at run time -/
  | flushAnchor (a : Anchor)
  /-- `-A` of a rule that is known at run time -/
  | appendAnchor (a : Anchor) (rule : RuleSpec)

/-- What a script says. -/
def Script.body (f : Family) : Script → Sh Cmd
  | .createChain c => .orElse (.run (.new c)) (.run (.flush c))
  | .deleteChain c =>
      .ite (.run (.list c)) (.andThen (.run (.flush c)) (.run (.delete c))) .echo
  | .linkFirst c parent =>
      .iteNot (.run (.firstIs parent c))
        (.andThen (.run (.insert parent (jumpTo c))) (.run (.removeLater parent c))) .echo
  | .link c parent =>
      .iteNot (.run (.check parent (jumpTo c))) (.run (.append parent [jumpTo c])) .echo
  | .unlink c parent =>
      .ite (.run (.check parent (jumpTo c))) (.run (.remove parent (jumpTo c))) .echo
  | .appendRule c rule => .run (.append c (RuleSpec.rules q f rule))
  | .enableAnchor a =>
      .ite (.run (.check (.placeholder a) (jumpTo (.actual a)))) .echo
        (.seq .echo (.run (.append (.placeholder a) [jumpTo (.actual a)])))
  | .replaceAnchor a rule =>
      .seq (.run (.replace (.actual a) (RuleSpec.rules q f rule))) .echo
  | .disableAnchor a =>
      .iteNot (.run (.check (.placeholder a) (jumpTo (.actual a)))) .echo
        (.seq .echo (.run (.flush (.placeholder a))))
  | .flushAnchor a => .run (.flush (.actual a))
  | .appendAnchor a rule => .run (.append (.actual a) (RuleSpec.rules q f rule))

/-- The state a script leaves in its table. -/
def Script.apply (f : Family) (rs : IptRuleset) (s : Script) : IptRuleset :=
  ((s.body q f).exec Cmd.run rs).2

/-! ### The text of the scripts -/

def getCommand : Family → String
  | .IPv4 => "iptables"
  | .IPv6 => "ip6tables"

/-- `ipStr` of the log messages. -/
def ipStr : Family → String
  | .IPv4 => "(IPv4)"
  | .IPv6 => "(IPv6)"

/-- The string handed to `/bin/bash -c`. -/
def Script.text (f : Family) (t : Table) : Script → List Piece
  | .createChain c =>
      [.fixed (getCommand f ++ " -N " ++ c.name ++ " -t " ++ t.name ++ " || " ++
        getCommand f ++ " -F " ++ c.name ++ " -t " ++ t.name)]
  | .deleteChain c =>
      [.fixed ("if " ++ getCommand f ++ " -L " ++ c.name ++ " -n -t " ++ t.name ++
        " > /dev/null 2> /dev/null ; then " ++ getCommand f ++ " -F " ++ c.name ++ " -t " ++
        t.name ++ " && " ++ getCommand f ++ " -X " ++ c.name ++ " -t " ++ t.name ++ "; fi")]
  | .linkFirst c parent =>
      [.fixed ("if ! " ++ getCommand f ++ " -L " ++ parent.name ++ " -n --line-numbers -t " ++
        t.name ++ " 2> /dev/null | awk 'int($1) == 1 && $2 == \"" ++ c.name ++
        "\" \x7b found=1 \x7d END \x7b if(found==1) \x7b exit 0 \x7d else \x7b exit 1 \x7d \x7d'" ++
        " ; then " ++ getCommand f ++ " -I " ++ parent.name ++ " -j " ++ c.name ++ " -t " ++
        t.name ++ " && " ++ getCommand f ++ " -L " ++ parent.name ++ " -n --line-numbers -t " ++
        t.name ++ " 2> /dev/null | awk 'int($1) > 1 && $2 == \"" ++ c.name ++
        "\" \x7b print $1; exit \x7d' | xargs " ++ getCommand f ++ " -t " ++ t.name ++ " -D " ++
        parent.name ++ " ; fi")]
  | .link c parent =>
      [.fixed ("if ! " ++ getCommand f ++ " -C " ++ parent.name ++ " -j " ++ c.name ++ " -t " ++
        t.name ++ " 2> /dev/null ; then " ++ getCommand f ++ " -A " ++ parent.name ++ " -j " ++
        c.name ++ " -t " ++ t.name ++ "; fi")]
  | .unlink c parent =>
      [.fixed ("if " ++ getCommand f ++ " -C " ++ parent.name ++ " -j " ++ c.name ++ " -t " ++
        t.name ++ " 2> /dev/null ; then " ++ getCommand f ++ " -D " ++ parent.name ++ " -j " ++
        c.name ++ " -t " ++ t.name ++ "; fi")]
  | .appendRule c rule =>
      .fixed (getCommand f ++ " -A " ++ c.name ++ " ") ::
        (RuleSpec.text rule ++ [.fixed (" -t " ++ t.name)])
  | .enableAnchor a =>
      [.fixed ("if " ++ getCommand f ++ " -C " ++ (Chain.placeholder a).name ++ " -j " ++
        (Chain.actual a).name ++ " -t " ++ t.name ++ " 2> /dev/null ; then echo '" ++ a.name ++
        ipStr f ++ ": ON' ; else echo '" ++ a.name ++ ipStr f ++ ": OFF -> ON' ; " ++
        getCommand f ++ " -A " ++ (Chain.placeholder a).name ++ " -j " ++ (Chain.actual a).name ++
        " -t " ++ t.name ++ "; fi")]
  | .replaceAnchor a rule =>
      .fixed (getCommand f ++ " -R " ++ (Chain.actual a).name ++ " 1 ") ::
        (RuleSpec.text rule ++
          .fixed (" -t " ++ t.name ++ " ; echo 'Replaced rule " ++ (Chain.actual a).name ++ " " ++
            ipStr f ++ " with ") :: (RuleSpec.text rule ++ [.fixed "'"]))
  | .disableAnchor a =>
      [.fixed ("if ! " ++ getCommand f ++ " -C " ++ (Chain.placeholder a).name ++ " -j " ++
        (Chain.actual a).name ++ " -t " ++ t.name ++ " 2> /dev/null ; then echo '" ++ a.name ++
        ipStr f ++ ": OFF' ; else echo '" ++ a.name ++ ipStr f ++ ": ON -> OFF' ; " ++
        getCommand f ++ " -F " ++ (Chain.placeholder a).name ++ " -t " ++ t.name ++ "; fi")]
  | .flushAnchor a => [.fixed (getCommand f ++ " -F " ++ (Chain.actual a).name)]
  | .appendAnchor a rule =>
      .fixed (getCommand f ++ " -A " ++ (Chain.actual a).name ++ " ") :: RuleSpec.text rule

/-! ## Actions and the state they change -/

/-- The two traffic-splitting callbacks an anchor can have. -/
inductive Callback where
  | setupTrafficSplitting
  | teardownTrafficSplitting
deriving DecidableEq

/-- One thing a method of the class does. -/
inductive Action where
  | exec (f : Family) (t : Table) (s : Script)
  /-- a script that touches no table: `ip rule`, `ip route`, control groups -/
  | shell (text : String)
  /-- remember a callback under a key, if there is none yet -/
  | register (key : String) (cb : Callback)
  /-- run the callback of a key, if there is one -/
  | invoke (key : String)

/-- The tables of the kernel, for each family. -/
abbrev Kernel := Family → Table → IptRuleset

/-- The state behind the class: the kernel's tables and `anchorCallbacks`. -/
structure FwState where
  kernel : Kernel
  anchorCallbacks : List (String × Callback)

def kRtableName : String := kAnchorName ++ "rt"

def kPacketTag : String := "0x3211"

def kCGroupId : String := "0x567"

/-- The scripts of `setupTrafficSplitting` and `teardownTrafficSplitting`. -/
def Callback.scripts : Callback → List String
  | .setupTrafficSplitting =>
      let cGroupDir := "/sys/fs/cgroup/net_cls/frkvpnexclusions/"
      ["if [ ! -d " ++ cGroupDir ++ " ] ; then mkdir " ++ cGroupDir ++ " ; sleep 0.1 ; echo " ++
          kCGroupId ++ " > " ++ cGroupDir ++ "/net_cls.classid ; fi",
        "if ! ip rule list | grep -q " ++ kPacketTag ++ " ; then ip rule add from all fwmark " ++
          kPacketTag ++ " lookup " ++ kRtableName ++ " pri 100 ; fi"]
  | .teardownTrafficSplitting =>
      ["if ip rule list | grep -q " ++ kPacketTag ++ "; then ip rule del from all fwmark " ++
          kPacketTag ++ " lookup " ++ kRtableName ++ " 2> /dev/null ; fi",
        "ip route flush table " ++ kRtableName,
        "ip route flush cache"]

/-- The command strings an action hands to `/bin/bash -c`. -/
def Action.commands (st : FwState) : Action → List (List Piece)
  | .exec f t s => [s.text f t]
  | .shell text => [[.fixed text]]
  | .register _ _ => []
  | .invoke key =>
      match st.anchorCallbacks.lookup key with
      | some cb => cb.scripts.map fun text => [.fixed text]
      | none => []

/-- The state an action leaves. -/
def Action.apply (st : FwState) : Action → FwState
  | .exec f t s =>
      { st with
        kernel := fun f' t' =>
          if f' = f ∧ t' = t then s.apply q f (st.kernel f t) else st.kernel f' t' }
  | .register key cb =>
      if (st.anchorCallbacks.lookup key).isSome then st
      else { st with anchorCallbacks := st.anchorCallbacks ++ [(key, cb)] }
  | .shell _ | .invoke _ => st

/-- Carry out actions in order. -/
def run (acts : List Action) (st : FwState) : FwState := acts.foldl (Action.apply q) st

/-- The command strings handed to `/bin/bash -c` when the actions are carried out. -/
def commands (q : Platform) : List Action → FwState → List (List Piece)
  | [], _ => []
  | a :: acts, st => a.commands st ++ commands q acts (a.apply q st)

/-! ## The methods -/

namespace LinuxFirewall

variable (ip : IPVersion) (anchor : Anchor)

def execEach (t : Table) (s : Script) : List Action := ip.families.map fun f => .exec f t s

def createChain (chain : Chain) (t : Table := .filter) : List Action :=
  execEach ip t (.createChain chain)

def deleteChain (chain : Chain) (t : Table := .filter) : List Action :=
  execEach ip t (.deleteChain chain)

def linkChain (chain parent : Chain) (mustBeFirst : Bool := false)
    (t : Table := .filter) : List Action :=
  execEach ip t (if mustBeFirst then .linkFirst chain parent else .link chain parent)

def unlinkChain (chain parent : Chain) (t : Table := .filter) : List Action :=
  execEach ip t (.unlink chain parent)

def ensureRootAnchorPriority (ip : IPVersion := .Both) : List Action :=
  linkChain ip .root .output true

def enabledKey (t : Table) (a : Anchor) : String := "enabled:" ++ t.name ++ ":" ++ a.name

def disabledKey (t : Table) (a : Anchor) : String := "disabled:" ++ t.name ++ ":" ++ a.name

def installAnchor (rules : List RuleSpec)
    (t : Table := .filter) (enableFunc disableFunc : Option Callback := none) : List Action :=
  ip.families.flatMap fun f =>
    [.exec f t (.createChain (.placeholder anchor)),
      .exec f t (.link (.placeholder anchor) .root)] ++
    (enableFunc.toList.map fun cb => .register (enabledKey t anchor) cb) ++
    (disableFunc.toList.map fun cb => .register (disabledKey t anchor) cb) ++
    [.exec f t (.createChain (.actual anchor))] ++
    rules.map fun rule => .exec f t (.appendRule (.actual anchor) rule)

def uninstallAnchor (t : Table := .filter) : List Action :=
  ip.families.flatMap fun f =>
    [.exec f t (.unlink (.placeholder anchor) .root),
      .exec f t (.deleteChain (.placeholder anchor)),
      .exec f t (.deleteChain (.actual anchor))]

variable (servers : List String)

def getDNSRules : List RuleSpec :=
  servers.flatMap fun server =>
    [[.out "frkn0+", .dst (.text server), .proto .udp, .dport 53, .jump .accept],
      [.out "frkn0+", .dst (.text server), .proto .tcp, .dport 53, .jump .accept],
      [.out "tun0+", .dst (.text server), .proto .udp, .dport 53, .jump .accept],
      [.out "tun0+", .dst (.text server), .proto .tcp, .dport 53, .jump .accept],
      [.out "tun2+", .dst (.text server), .proto .udp, .dport 53, .jump .accept],
      [.out "tun2+", .dst (.text server), .proto .tcp, .dport 53, .jump .accept]]

def getBlockRule : List RuleSpec :=
  servers.map fun server => [.dst (.text server), .jump .reject]

def setupTrafficSplitting : List Action := Callback.setupTrafficSplitting.scripts.map .shell

def teardownTrafficSplitting : List Action := Callback.teardownTrafficSplitting.scripts.map .shell

/-- The IPv4 network `a.b.c.d/len`. -/
def net4 (a b c d : ℕ) (len : ℕ) : Net :=
  ⟨.v4 (BitVec.ofNat 32 (a * 16777216 + b * 65536 + c * 256 + d)), Nat.min len 32,
    Nat.min_le_right len 32⟩

/-- The IPv6 network whose first group is `g`. -/
def net6 (g : ℕ) (len : ℕ) : Net :=
  ⟨.v6 (BitVec.ofNat 128 (g * 2 ^ 112)), Nat.min len 128, Nat.min_le_right len 128⟩

/-- The destinations of `300.allowLAN`. -/
def lanNets : Family → List (String × Net)
  | .IPv4 =>
      [("10.0.0.0/8", net4 10 0 0 0 8), ("169.254.0.0/16", net4 169 254 0 0 16),
        ("172.16.0.0/12", net4 172 16 0 0 12), ("192.168.0.0/16", net4 192 168 0 0 16),
        ("224.0.0.0/4", net4 224 0 0 0 4), ("255.255.255.255/32", net4 255 255 255 255 32)]
  | .IPv6 =>
      [("fc00::/7", net6 0xfc00 7), ("fe80::/10", net6 0xfe80 10), ("ff00::/8", net6 0xff00 8)]

/-- The rules an anchor is installed with. -/
def stdRules (f : Family) : Anchor → List RuleSpec
  | .allowLoopback => [[.out "lo+", .jump .accept]]
  | .blockDNS =>
      [[.proto .udp, .dport 53, .jump .reject], [.proto .tcp, .dport 53, .jump .reject]]
  | .allowLAN => (lanNets f).map fun n => [.dst (.lit n.1 n.2), .jump .accept]
  | .allowDHCP =>
      match f with
      | .IPv4 =>
          [[.proto .udp, .dst (.lit "255.255.255.255" (net4 255 255 255 255 32)), .sport 68,
            .dport 67, .jump .accept]]
      | .IPv6 =>
          [[.proto .udp, .dst (.lit "ff00::/8" (net6 0xff00 8)), .sport 546, .dport 547,
            .jump .accept]]
  | .blockIPv6 => [[.notOut "lo+", .jump .reject]]
  | .allowVPN =>
      [[.out "frkn0+", .jump .accept], [.out "tun0+", .jump .accept],
        [.out "tun2+", .jump .accept]]
  | .blockAll => [[.jump .reject]]
  | .transIp => [[.jumpExt "MASQUERADE"]]
  | .tagPkts => [[.cgroup kCGroupId, .jumpExt ("MARK --set-mark " ++ kPacketTag)]]
  | .vpnTunOnly => [[.jump .accept]]
  | .allowDNS | .blockNets | .allowNets | .allowPIA => []

def uninstall : List Action :=
  unlinkChain .Both .root .output .filter ++ deleteChain .Both .root .filter ++
  unlinkChain .Both .root .preRouting .raw ++ deleteChain .Both .root .raw ++
  unlinkChain .Both .root .postRouting .nat ++ deleteChain .Both .root .nat ++
  unlinkChain .Both .root .output .mangle ++ deleteChain .Both .root .mangle ++
  uninstallAnchor .Both .allowLoopback ++
  uninstallAnchor .Both .allowPIA ++
  uninstallAnchor .IPv4 .allowDNS ++
  uninstallAnchor .Both .blockDNS ++
  uninstallAnchor .Both .allowLAN ++
  uninstallAnchor .Both .allowDHCP ++
  uninstallAnchor .IPv6 .blockIPv6 ++
  uninstallAnchor .Both .allowVPN ++
  uninstallAnchor .IPv4 .blockNets ++
  uninstallAnchor .Both .allowNets ++
  uninstallAnchor .Both .blockAll ++
  uninstallAnchor .Both .transIp .nat ++
  uninstallAnchor .Both .tagPkts .mangle ++
  uninstallAnchor .Both .vpnTunOnly .raw ++
  teardownTrafficSplitting

def install : List Action :=
  uninstall ++
  createChain .Both .root .filter ++
  createChain .Both .root .raw ++
  createChain .Both .root .nat ++
  createChain .Both .root .mangle ++
  installAnchor .Both .allowLoopback (stdRules .IPv4 .allowLoopback) ++
  installAnchor .IPv4 .allowDNS [] ++
  installAnchor .Both .blockDNS (stdRules .IPv4 .blockDNS) ++
  installAnchor .IPv4 .allowLAN (stdRules .IPv4 .allowLAN) ++
  installAnchor .IPv6 .allowLAN (stdRules .IPv6 .allowLAN) ++
  installAnchor .IPv4 .allowDHCP (stdRules .IPv4 .allowDHCP) ++
  installAnchor .IPv6 .allowDHCP (stdRules .IPv6 .allowDHCP) ++
  installAnchor .IPv6 .blockIPv6 (stdRules .IPv6 .blockIPv6) ++
  installAnchor .Both .allowVPN (stdRules .IPv4 .allowVPN) ++
  installAnchor .IPv4 .blockNets [] ++
  installAnchor .Both .allowNets [] ++
  installAnchor .Both .blockAll (stdRules .IPv4 .blockAll) ++
  installAnchor .Both .transIp (stdRules .IPv4 .transIp) .nat ++
  installAnchor .Both .tagPkts (stdRules .IPv4 .tagPkts) .mangle
    (some .setupTrafficSplitting) (some .teardownTrafficSplitting) ++
  installAnchor .Both .vpnTunOnly (stdRules .IPv4 .vpnTunOnly) .raw ++
  linkChain .Both .root .output true .filter ++
  linkChain .Both .root .postRouting true .nat ++
  linkChain .Both .root .output true .mangle ++
  linkChain .Both .root .preRouting true .raw ++
  setupTrafficSplitting

/-- `iptables -C OUTPUT -j frkvpn.anchors`, for IPv4 only. -/
def isInstalled (st : FwState) : Bool := ((st.kernel .IPv4 .filter).check .output (jumpTo .root)).1

/-- One `-C` with the command `getCommand` gives, which for `Both` is `iptables`. -/
def isAnchorEnabled (a : Anchor) (t : Table) (st : FwState) : Bool :=
  let f : Family := if ip = .IPv6 then .IPv6 else .IPv4
  ((st.kernel f t).check (.placeholder a) (jumpTo (.actual a))).1

def enableAnchor (t : Table := .filter) : List Action := execEach ip t (.enableAnchor anchor)

def disableAnchor (t : Table := .filter) : List Action := execEach ip t (.disableAnchor anchor)

def replaceAnchor (newRule : RuleSpec) (t : Table) : List Action :=
  execEach ip t (.replaceAnchor anchor newRule)

def setAnchorEnabled (enabled : Bool) (t : Table := .filter) : List Action :=
  if enabled then enableAnchor ip anchor t ++ [.invoke (enabledKey t anchor)]
  else disableAnchor ip anchor t ++ [.invoke (disabledKey t anchor)]

/-- Replace the rules of an anchor by the ones given. -/
def updateRules (f : Family) (a : Anchor) (rules : List RuleSpec) : List Action :=
  .exec f .filter (.flushAnchor a) :: rules.map fun rule => .exec f .filter (.appendAnchor a rule)

def updateDNSServers : List Action :=
  updateRules .IPv4 .allowDNS (getDNSRules servers)

/-- `server.split('/').first().trimmed()`. -/
def addressPart (server : String) : String :=
  String.ofList (trimmed ((server.toList.splitOn '/').headD []))

/-- The entry goes to the IPv6 chain of `110.allowNets`. -/
def isIPv6Entry (server : String) : Bool := (HostAddress.ofString q (addressPart server)).isIPv6

/-- The entries of one family. -/
def allowNetsFor (f : Family) (servers : List String) : List String :=
  servers.filter fun server => isIPv6Entry q server == decide (f = .IPv6)

/-- `getAllowRule`; `updateAllowNets` writes the same text out by hand. -/
def getAllowRule : List RuleSpec :=
  servers.map fun server => [.dst (.text server), .jump .accept]

def updateAllowNets : List Action :=
  updateRules .IPv4 .allowNets (getAllowRule (allowNetsFor q .IPv4 servers)) ++
  updateRules .IPv6 .allowNets (getAllowRule (allowNetsFor q .IPv6 servers))

def updateBlockNets : List Action :=
  updateRules .IPv4 .blockNets (getBlockRule servers)

end LinuxFirewall

end Dopamine.Linux
