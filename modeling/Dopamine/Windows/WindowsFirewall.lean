import Dopamine.Daemon.InterfaceConfig

/-!
# The Windows firewall

`WindowsFirewall` of `client/platforms/windows/daemon/windowsfirewall.cpp`, with the filter engine
of the Windows Filtering Platform. Every call of the platform may fail; `ok` says for each call, by
its number and its kind, whether it succeeds.

A rule of the class is a list of filters that are added one after another, up to the first that
cannot be added (`enableFilters`). The texts of the filters are left out, and so is the session
handle.

The engine gives every filter a new id. The ids of `m_peerRules` belong to one peer each, which is
what makes removing the filters of one peer leave those of the others.
-/

namespace Dopamine.Windows

/-! ## Filters -/

/-- `FWP_ACTION_PERMIT` and `FWP_ACTION_BLOCK`. -/
inductive WfpAction where
  | permit
  | block
deriving DecidableEq

/-- The layers of `filter.layerKey`. -/
inductive Layer where
  | connectV4
  | recvAcceptV4
  | connectV6
  | recvAcceptV6
  | outboundMacFrame
  | inboundMacFrame
deriving DecidableEq

inductive Condition where
  | appId (path : String)
  | interfaceIndex (index : ℕ)
  | protocol (number : ℕ)
  | localPort (port : ℕ)
  | remotePort (port : ℕ)
  | remoteAddress (a : Address)
  | remoteRange (low high : Address)
  /-- `FWP_CONDITION_L2_IS_VM2VM` -/
  | vm2vm
deriving DecidableEq

/-- A filter. `hard` is `FWPM_FILTER_FLAG_CLEAR_ACTION_RIGHT`. -/
structure WfpFilter where
  action : WfpAction
  weight : ℕ
  layer : Layer
  hard : Bool
  conditions : List Condition
deriving DecidableEq

def lowWeight : ℕ := 0
def medWeight : ℕ := 7
def highWeight : ℕ := 13
def maxWeight : ℕ := 15

/-- What `importAddress` makes of an address. -/
def importAddress : HostAddress → Address
  | .ipv4 a => .v4 a
  | .ipv6 a _ => .v6 a
  | .null => .v6 0#128

/-- `IPAddress::broadcastAddress`. A shift of 32 bits counts modulo 32. -/
def broadcastAddress (ip : IPAddress) : HostAddress :=
  match ip.address with
  | .ipv4 a =>
      if ip.prefixLength < 32 then
        .ipv4 (a ||| BitVec.allOnes 32 >>> (ip.prefixLength % 32).toNat)
      else .ipv4 a
  | .ipv6 a _ => .ipv6 (a ||| BitVec.allOnes 128 >>> ip.prefixLength.toNat) ""
  | .null => .null

/-- The layers for traffic to and from an address. -/
def addressLayers : HostAddress → List Layer
  | .ipv4 _ => [.connectV4, .recvAcceptV4]
  | _ => [.connectV6, .recvAcceptV6]

/-- The filters of both directions for a range. -/
def rangeFilters (action : WfpAction) (weight : ℕ) (addr : IPAddress) : List WfpFilter :=
  (addressLayers addr.address).map fun layer =>
    ⟨action, weight, layer, false,
      [.remoteRange (importAddress addr.address) (importAddress (broadcastAddress addr))]⟩

def udp : ℕ := 17
def tcp : ℕ := 6

/-- The filters of `allowTrafficTo` with a port. -/
def portFilters (targetIP : HostAddress) (port weight : ℕ) : List WfpFilter :=
  (addressLayers targetIP).map fun layer =>
    ⟨.permit, weight, layer, true,
      [.protocol udp, .protocol tcp, .remotePort port, .remoteAddress (importAddress targetIP)]⟩

/-- The filters of `allowTrafficForAppOnAll`, once the app has its id. -/
def appFilters (path : String) (weight : ℕ) : List WfpFilter :=
  [Layer.connectV4, .recvAcceptV4].map fun layer =>
    ⟨.permit, weight, layer, true, [.appId path]⟩

/-- The filters of `allowTrafficOfAdapter`. -/
def adapterFilters (networkAdapter weight : ℕ) : List WfpFilter :=
  [Layer.connectV4, .recvAcceptV4, .connectV6, .recvAcceptV6].map fun layer =>
    ⟨.permit, weight, layer, false, [.interfaceIndex networkAdapter]⟩

/-- The filters of `allowDHCPTraffic`. Only the first one names the broadcast address. -/
def dhcpFilters (weight : ℕ) : List WfpFilter :=
  ⟨.permit, weight, .connectV4, false,
    [.protocol udp, .localPort 68, .remotePort 67, .remoteAddress (.v4 0xffffffff#32)]⟩ ::
  [Layer.recvAcceptV4, .connectV6, .recvAcceptV6].map fun layer =>
    ⟨.permit, weight, layer, false, [.protocol udp, .localPort 68, .remotePort 67]⟩

/-- The filters of `allowHyperVTraffic`. -/
def hyperVFilters (weight : ℕ) : List WfpFilter :=
  [Layer.outboundMacFrame, .inboundMacFrame].map fun layer =>
    ⟨.permit, weight, layer, false, [.vm2vm]⟩

/-- The filters of `blockTrafficOnPort`. -/
def blockPortFilters (port weight : ℕ) : List WfpFilter :=
  [Layer.connectV6, .connectV4, .recvAcceptV4, .recvAcceptV6].map fun layer =>
    ⟨.block, weight, layer, false, [.protocol udp, .protocol tcp, .remotePort port]⟩

/-- The filters of `enablePeerTraffic`. -/
def peerFilters (q : Platform) (config : InterfaceConfig) : List WfpFilter :=
  let dns (server : String) := portFilters (HostAddress.ofString q server) 53 highWeight
  let server (text : String) :=
    if text = "" then []
    else dns text ++
      if text = config.serverIpv4Gateway then dns config.serverIpv6Gateway else []
  config.allowedIPAddressRanges.flatMap (rangeFilters .block lowWeight) ++
    server config.primaryDnsServer ++ server config.secondaryDnsServer ++
    config.allowedDnsServers.flatMap dns ++
    config.excludedAddresses.flatMap fun i =>
      rangeFilters .permit highWeight (IPAddress.ofString q i)

/-! ## The engine -/

/-- The calls of the platform. -/
inductive WfpCall where
  | transactionBegin
  | transactionAbort
  | transactionCommit
  | filterAdd
  | filterDelete
  | getAppId
deriving DecidableEq

/-- `WindowsFirewall` with the filter engine. -/
structure Firewall where
  /-- the filters in the engine, with their ids -/
  filters : List (ℕ × WfpFilter)
  /-- the filters when the transaction began, if there is one -/
  saved : Option (List (ℕ × WfpFilter))
  nextId : ℕ
  /-- `m_activeRules` -/
  activeRules : List ℕ
  /-- `m_peerRules` -/
  peerRules : List (String × ℕ)
  /-- how many calls of the platform were made -/
  calls : ℕ
  filters_lt : ∀ entry ∈ filters, entry.1 < nextId
  saved_lt : ∀ l, saved = some l → ∀ entry ∈ l, entry.1 < nextId
  peerRules_lt : ∀ entry ∈ peerRules, entry.2 < nextId
  peerRules_inj : ∀ entry ∈ peerRules, ∀ entry' ∈ peerRules, entry.2 = entry'.2 → entry = entry'

namespace WindowsFirewall

/-- A new engine. -/
def create : Firewall where
  filters := []
  saved := none
  nextId := 0
  activeRules := []
  peerRules := []
  calls := 0
  filters_lt _ h := nomatch h
  saved_lt _ h := nomatch h
  peerRules_lt _ h := nomatch h
  peerRules_inj _ h := nomatch h

variable (ok : ℕ → WfpCall → Bool)

/-- A call of the platform, and whether it succeeds. -/
def ask (c : WfpCall) (fw : Firewall) : Bool × Firewall :=
  (ok fw.calls c, { fw with calls := fw.calls + 1 })

variable (fw : Firewall)

def transactionBegin : Bool × Firewall :=
  let r := ask ok .transactionBegin fw
  (r.1, if r.1 then
    { r.2 with
      saved := some r.2.filters
      saved_lt := fun _ h => Option.some.inj h ▸ r.2.filters_lt }
  else r.2)

/-- The transaction is over. -/
def endTransaction : Firewall :=
  { fw with
    saved := none
    saved_lt := fun _ h => nomatch h }

/-- Back to the filters of the beginning, if a transaction has begun. -/
def rollback : Firewall :=
  match h : fw.saved with
  | none => fw
  | some filters => endTransaction { fw with filters, filters_lt := fw.saved_lt filters h }

def transactionAbort : Firewall :=
  let r := ask ok .transactionAbort fw
  if r.1 then rollback r.2 else r.2

/-- A commit that fails has no effect. -/
def transactionCommit : Bool × Firewall :=
  let r := ask ok .transactionCommit fw
  (r.1, if r.1 then endTransaction r.2 else rollback r.2)

/-- Remove filters from the engine. -/
def dropFilters (p : ℕ × WfpFilter → Bool) (fw : Firewall) : Firewall :=
  { fw with
    filters := fw.filters.filter p
    filters_lt := fun entry h => fw.filters_lt entry (List.mem_of_mem_filter h) }

/-- `FwpmFilterDeleteById0`; nobody looks at the result. -/
def filterDeleteById (id : ℕ) : Firewall :=
  let r := ask ok .filterDelete fw
  if r.1 then dropFilters (·.1 ≠ id) r.2 else r.2

/-- Forget rules of peers. -/
def dropPeerRules (p : String × ℕ → Bool) (fw : Firewall) : Firewall :=
  { fw with
    peerRules := fw.peerRules.filter p
    peerRules_lt := fun entry h => fw.peerRules_lt entry (List.mem_of_mem_filter h)
    peerRules_inj := fun entry h entry' h' =>
      fw.peerRules_inj entry (List.mem_of_mem_filter h) entry' (List.mem_of_mem_filter h') }

/-- A filter with a new id, and its record. -/
def addFilter (peer : String) (filter : WfpFilter) (fw : Firewall) : Firewall :=
  have hlt : ∀ {id}, id < fw.nextId → id < fw.nextId + 1 := fun h => Nat.lt_succ_of_lt h
  have hfilters : ∀ entry ∈ (fw.nextId, filter) :: fw.filters, entry.1 < fw.nextId + 1 := by
    intro entry hentry
    rcases List.mem_cons.mp hentry with rfl | hentry
    · exact Nat.lt_succ_self _
    · exact hlt (fw.filters_lt entry hentry)
  if peer = "" then
    { fw with
      filters := (fw.nextId, filter) :: fw.filters
      nextId := fw.nextId + 1
      activeRules := fw.activeRules ++ [fw.nextId]
      filters_lt := hfilters
      saved_lt := fun l h entry hentry => hlt (fw.saved_lt l h entry hentry)
      peerRules_lt := fun entry h => hlt (fw.peerRules_lt entry h) }
  else
    { fw with
      filters := (fw.nextId, filter) :: fw.filters
      nextId := fw.nextId + 1
      peerRules := (peer, fw.nextId) :: fw.peerRules
      filters_lt := hfilters
      saved_lt := fun l h entry hentry => hlt (fw.saved_lt l h entry hentry)
      peerRules_lt := by
        intro entry hentry
        rcases List.mem_cons.mp hentry with rfl | hentry
        · exact Nat.lt_succ_self _
        · exact hlt (fw.peerRules_lt entry hentry)
      peerRules_inj := by
        intro entry hentry entry' hentry' heq
        rcases List.mem_cons.mp hentry with rfl | hentry <;>
          rcases List.mem_cons.mp hentry' with rfl | hentry'
        · rfl
        · exact absurd heq (fw.peerRules_lt entry' hentry').ne'
        · exact absurd heq (fw.peerRules_lt entry hentry).ne
        · exact fw.peerRules_inj entry hentry entry' hentry' heq }

def enableFilter (peer : String) (filter : WfpFilter) (fw : Firewall) : Bool × Firewall :=
  let r := ask ok .filterAdd fw
  (r.1, if r.1 then addFilter peer filter r.2 else r.2)

/-- The filters of a rule, up to the first that cannot be added. -/
def enableFilters (peer : String) : List WfpFilter → Firewall → Bool × Firewall
  | [], fw => (true, fw)
  | filter :: filters, fw =>
      let r := enableFilter ok peer filter fw
      if r.1 then enableFilters peer filters r.2 else r

def allowTrafficForAppOnAll (path : String) (weight : ℕ) (fw : Firewall) : Bool × Firewall :=
  let r := ask ok .getAppId fw
  if r.1 then enableFilters ok "" (appFilters path weight) r.2 else r

/-! ## Removing filters -/

/-- What follows a transaction that could not begin or commit: it is aborted once more. -/
def giveUp : Bool × Firewall := (false, transactionAbort ok fw)

def disablePeerTraffic (pubkey : String) (fw : Firewall) : Bool × Firewall :=
  let r := transactionBegin ok fw
  if r.1 then
    let ids := (r.2.peerRules.filter (·.1 = pubkey)).map (·.2)
    let fw := ids.foldl
      (fun fw id => dropPeerRules (· ≠ (pubkey, id)) (filterDeleteById ok fw id)) r.2
    let r := transactionCommit ok fw
    if r.1 then r else giveUp ok r.2
  else giveUp ok r.2

def allowAllTraffic : Bool × Firewall :=
  let r := transactionBegin ok fw
  if r.1 then
    let fw := (r.2.peerRules.map (·.2) ++ r.2.activeRules).foldl (filterDeleteById ok) r.2
    let r := transactionCommit ok fw
    if r.1 then (true, { dropPeerRules (fun _ => false) r.2 with activeRules := [] })
    else giveUp ok r.2
  else giveUp ok r.2

/-! ## The kill switch -/

/-- How a part of `enableInterface` ends: go on with the next one, return false, or call
`disableKillSwitch` and return false. -/
inductive Exit where
  | next
  | failed
  | fallback
deriving DecidableEq

/-- The macro `FW_OK`, up to the call of `disableKillSwitch`. -/
def fwOk (rule : Firewall → Bool × Firewall) (fw : Firewall) : Exit × Firewall :=
  let r := transactionBegin ok fw
  if r.1 then
    let r := rule r.2
    if r.1 then
      let r := transactionCommit ok r.2
      (if r.1 then .next else .failed, r.2)
    else (.fallback, transactionAbort ok r.2)
  else (.fallback, r.2)

/-- A rule outside of a transaction, which returns false if it fails. -/
def plain (rule : Firewall → Bool × Firewall) (fw : Firewall) : Exit × Firewall :=
  let r := rule fw
  (if r.1 then .next else .failed, r.2)

/-- The parts of a function, one after another. -/
def stages : List (Firewall → Exit × Firewall) → Firewall → Exit × Firewall
  | [], fw => (.next, fw)
  | stage :: rest, fw =>
      match stage fw with
      | (.next, fw) => stages rest fw
      | r => r

end WindowsFirewall

/-- What the functions read from the host. -/
structure WindowsHost where
  /-- the stored setting of the strict kill switch -/
  strict : Bool
  currentPath : String
  /-- the indices of the loopback interfaces -/
  loopbacks : List ℕ

namespace WindowsFirewall

variable (host : WindowsHost) (ok : ℕ → WfpCall → Bool)

/-- The parts of `enableInterface`. A negative index blocks everything, outside of a transaction. -/
def interfaceStages (vpnAdapterIndex : ℤ) : List (Firewall → Exit × Firewall) :=
  (if vpnAdapterIndex < 0 then
    [plain (enableFilters ok "killswitch" (rangeFilters .block medWeight .any4)),
      plain (enableFilters ok "killswitch" (rangeFilters .block medWeight ⟨.ipv6 0#128 "", 0⟩))]
  else [fwOk ok (enableFilters ok "" (adapterFilters vpnAdapterIndex.toNat medWeight))]) ++
  [fwOk ok (enableFilters ok "" (dhcpFilters medWeight)),
    fwOk ok (enableFilters ok "" (hyperVFilters maxWeight)),
    fwOk ok (allowTrafficForAppOnAll ok host.currentPath maxWeight),
    fwOk ok (enableFilters ok "" (blockPortFilters 53 medWeight)),
    fwOk ok (enableFilters ok "" (host.loopbacks.flatMap (adapterFilters · medWeight)))]

/-- `enableInterface`, up to the call of `disableKillSwitch`. -/
def attempt (vpnAdapterIndex : ℤ) : Firewall → Exit × Firewall :=
  stages (interfaceStages host ok vpnAdapterIndex)

mutual

/-- The three functions call one another; there is no result if the calls would be nested deeper
than the given depth. -/
def enableInterface : ℕ → ℤ → Firewall → Option (Bool × Firewall)
  | 0, _, _ => none
  | depth + 1, vpnAdapterIndex, fw =>
      match attempt host ok vpnAdapterIndex fw with
      | (.next, fw) => some (true, fw)
      | (.failed, fw) => some (false, fw)
      | (.fallback, fw) => (disableKillSwitch depth fw).map fun r => (false, r.2)

def disableKillSwitch : ℕ → Firewall → Option (Bool × Firewall)
  | 0, _ => none
  | depth + 1, fw =>
      if host.strict then disableAllTraffic depth fw else some (allowAllTraffic ok fw)

/-- `KillSwitch::disableAllTraffic`, which does not look at the result. -/
def disableAllTraffic : ℕ → Firewall → Option (Bool × Firewall)
  | 0, _ => none
  | depth + 1, fw => (enableInterface depth (-1) fw).map fun r => (true, r.2)

end

/-- The rules of a peer or of the local network, in one transaction: a failure disables the kill
switch, after an abort if the transaction has begun. -/
def enableRules (depth : ℕ) (peer : String) (filters : List WfpFilter) (fw : Firewall) :
    Option (Bool × Firewall) :=
  let fallback (fw : Firewall) := (disableKillSwitch host ok depth fw).map fun r => (false, r.2)
  let r := transactionBegin ok fw
  if r.1 then
    let r := enableFilters ok peer filters r.2
    if r.1 then
      let r := transactionCommit ok r.2
      if r.1 then some r else fallback (transactionAbort ok r.2)
    else fallback (transactionAbort ok r.2)
  else fallback r.2

def enableLanBypass (depth : ℕ) (ranges : List IPAddress) : Firewall → Option (Bool × Firewall) :=
  enableRules host ok depth "" (ranges.flatMap (rangeFilters .permit (lowWeight + 1)))

def enablePeerTraffic (q : Platform) (depth : ℕ) (config : InterfaceConfig) :
    Firewall → Option (Bool × Firewall) :=
  enableRules host ok depth config.serverPublicKey (peerFilters q config)

end WindowsFirewall

end Dopamine.Windows
