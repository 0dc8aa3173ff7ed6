import Dopamine.Service.KillSwitch

/-!
# The WireGuard interface of the Linux daemon

`WireguardUtilsLinux::addInterface` starts the tunnel process, configures it and, with the kill
switch on, applies the firewall rules of the configuration; `deleteInterface` stops the process and
hands the firewall back to the service.

The UAPI message that configures the tunnel is left out: only its outcome counts here.

`paramsSettings` are the settings `applyFirewallRules` leaves (`holds_applyFirewallRules`).
-/

namespace Dopamine.Linux

open Netfilter Shell LinuxFirewall

/-- The fields of `FirewallParams` that `applyFirewallRules` reads. -/
structure FirewallParams where
  dnsServers : List String
  allowAddrs : List String
  blockAddrs : List String
  excludedSubnets : List String
  blockAll : Bool
  allowNets : Bool
  blockNets : Bool

namespace WireguardUtilsLinux

variable (q : Platform) (config : InterfaceConfig)

/-- The tunnel takes all IPv4 traffic. -/
def isFullTunnel : Bool := decide (IPAddress.any4 ∈ config.allowedIPAddressRanges)

/-- The excluded addresses that are addresses, as text. -/
def excludedSubnets : List String :=
  (config.excludedAddresses.map (IPAddress.ofString q)).filter (fun addr => addr.address ≠ .null)
    |>.map (IPAddress.toString q)

/-- The parameters `addInterface` fills in. -/
def firewallParams : FirewallParams where
  dnsServers := config.primaryDnsServer ::
    if config.secondaryDnsServer = "" then [] else [config.secondaryDnsServer]
  blockAll := isFullTunnel config
  allowNets := isFullTunnel config && !config.excludedAddresses.isEmpty
  allowAddrs := if isFullTunnel config then config.excludedAddresses else []
  blockNets := !isFullTunnel config
  blockAddrs :=
    if isFullTunnel config then [] else config.allowedIPAddressRanges.map (IPAddress.toString q)
  excludedSubnets := excludedSubnets q config

/-- The allow list: the excluded subnets are added unless they are there. -/
def mergeAddrs (allowAddrs excludedSubnets : List String) : List String :=
  excludedSubnets.foldl (fun l subnet => if subnet ∈ l then l else l ++ [subnet]) allowAddrs

/-- The calls of `applyFirewallRules`, after the firewall is installed. -/
def applyCalls (params : FirewallParams) : List Op :=
  [.ensureRootAnchorPriority .Both,
    .setAnchorEnabled .Both .allowLoopback true,
    .setAnchorEnabled .Both .blockAll params.blockAll,
    .setAnchorEnabled .Both .allowNets (params.allowNets || !params.excludedSubnets.isEmpty),
    .updateAllowNets (mergeAddrs params.allowAddrs params.excludedSubnets),
    .setAnchorEnabled .IPv4 .blockNets params.blockNets,
    .updateBlockNets params.blockAddrs,
    .setAnchorEnabled .IPv4 .allowVPN true,
    .setAnchorEnabled .IPv6 .blockIPv6 true,
    .setAnchorEnabled .Both .allowDHCP true,
    .setAnchorEnabled .Both .allowLAN true,
    .setAnchorEnabled .IPv4 .blockDNS true,
    .updateDNSServers params.dnsServers,
    .setAnchorEnabled .IPv4 .allowDNS true,
    .setAnchorEnabled .Both .allowPIA true]

/-- The calls of `applyFirewallRules`. -/
def applyFirewallRules (params : FirewallParams) (installed : Bool) : List Op :=
  installIfNeeded installed ++ applyCalls params

inductive ProcessState where
  | NotRunning
  | Starting
  | Running
deriving DecidableEq

/-- What happens while `addInterface` runs. -/
structure Outcome where
  /-- the tunnel process starts in time -/
  started : Bool
  /-- the name of the interface, if it can be read -/
  ifname : Option String
  /-- the reply to the UAPI message -/
  errno : ℤ
  /-- a process that was killed is still there on return -/
  lingers : Bool

/-- A process that has started gets its name and its configuration. -/
def Outcome.configured (out : Outcome) : Bool := out.ifname.isSome && out.errno == 0

/-- The tunnel process and the service. -/
structure WgState where
  /-- `m_tunnel.state()` -/
  tunnel : ProcessState
  ifname : String
  service : Service

def interfaceExists (w : WgState) : Bool := decide (w.tunnel = .Running)

/-- `addInterface`, once the tunnel process has started. A process without a name is killed. -/
def finishInterface (out : Outcome) (w : WgState) : Bool × WgState :=
  match out.ifname with
  | none =>
      (false, { w with tunnel := if out.lingers then w.tunnel else .NotRunning, ifname := "" })
  | some ifname =>
      let w := { w with ifname := ifname }
      if out.errno ≠ 0 then (false, w)
      else if config.killSwitchEnabled then
        (true, { w with
          service.fw :=
            runOps q (applyFirewallRules (firewallParams q config) (isInstalled w.service.fw))
              w.service.fw })
      else (true, w)

/-- `addInterface`: the process must not run yet. A process that does not come up is killed. -/
def addInterface (out : Outcome) (w : WgState) : Bool × WgState :=
  if w.tunnel ≠ .NotRunning then (false, w)
  else if !out.started then
    (false, { w with tunnel := if out.lingers then .Starting else .NotRunning })
  else finishInterface q config out { w with tunnel := .Running }

/-- `deleteInterface`: without a running process it gives up before the kill switch is lifted. A
process that does not end by itself is killed. -/
def deleteInterface (w : WgState) : Bool × WgState :=
  if w.tunnel = .NotRunning then (false, w)
  else
    (true, { w with tunnel := .NotRunning, service := KillSwitch.disableKillSwitch q w.service })

/-- The service after the rules of a configuration have been applied. -/
def applyConfig (s : Service) : Service :=
  { s with
    fw := runOps q (applyFirewallRules (firewallParams q config) (isInstalled s.fw)) s.fw }

theorem finishInterface_fst (out : Outcome)
    (w : WgState) : (finishInterface q config out w).1 = out.configured := by
  unfold finishInterface Outcome.configured
  cases out.ifname with
  | none => rfl
  | some ifname =>
    by_cases herr : out.errno = 0
    · simp only [herr, ne_eq, not_true_eq_false, if_false]
      split <;> rfl
    · simp [herr]

variable {q : Platform} {config : InterfaceConfig} {out : Outcome}

/-- A tunnel that gets its configuration gets, with the kill switch on, the rules of it; otherwise
the service stays as it is. -/
theorem finishInterface_eq {w w' : WgState} {ok : Bool}
    (h : finishInterface q config out w = (ok, w')) :
    ok = true ∧ w'.tunnel = w.tunnel ∧
        w'.service = (if config.killSwitchEnabled then applyConfig q config w.service
          else w.service) ∨
      ok = false ∧ (w'.tunnel = w.tunnel ∨ w'.tunnel = .NotRunning) ∧ w'.service = w.service := by
  unfold finishInterface at h
  split at h
  · obtain ⟨rfl, rfl⟩ := Prod.mk.inj h
    refine .inr ⟨rfl, ?_, rfl⟩
    cases out.lingers
    · exact .inr rfl
    · exact .inl rfl
  · dsimp only at h
    split at h
    · obtain ⟨rfl, rfl⟩ := Prod.mk.inj h
      exact .inr ⟨rfl, .inl rfl, rfl⟩
    split at h
    · next hkill =>
      obtain ⟨rfl, rfl⟩ := Prod.mk.inj h
      exact .inl ⟨rfl, rfl, (if_pos hkill).symm⟩
    · next hkill =>
      obtain ⟨rfl, rfl⟩ := Prod.mk.inj h
      exact .inl ⟨rfl, rfl, (if_neg hkill).symm⟩

/-- A successful `addInterface` leaves a running process and, with the kill switch on, the rules of
the configuration. -/
theorem addInterface_eq_true {w w' : WgState} (h : addInterface q config out w = (true, w')) :
    w'.tunnel = .Running ∧
      w'.service = if config.killSwitchEnabled then applyConfig q config w.service
        else w.service := by
  unfold addInterface at h
  split at h
  · exact Bool.noConfusion (Prod.mk.inj h).1
  split at h
  · exact Bool.noConfusion (Prod.mk.inj h).1
  rcases finishInterface_eq h with ⟨-, htunnel, hservice⟩ | ⟨hfalse, -⟩
  · exact ⟨htunnel, hservice⟩
  · cases hfalse

/-! ## The settings that are left -/

/-- The settings after `applyFirewallRules`, from settings `x`. For each family, an anchor it does
not mention stays as it was. -/
def paramsSettings (params : FirewallParams) (x : Settings) : Settings where
  enabled f a :=
    match f, a with
    | _, .allowLoopback | _, .allowDHCP | _, .allowLAN | _, .allowPIA => true
    | _, .blockAll => params.blockAll
    | _, .allowNets => params.allowNets || !params.excludedSubnets.isEmpty
    | .IPv4, .blockNets => params.blockNets
    | .IPv4, .allowVPN | .IPv4, .blockDNS | .IPv4, .allowDNS => true
    | .IPv6, .blockIPv6 => true
    | f, a => x.enabled f a
  dnsServers := params.dnsServers
  allowedNets := mergeAddrs params.allowAddrs params.excludedSubnets
  blockedNets := params.blockAddrs

theorem foldl_applyCalls (params : FirewallParams) (x : Settings) :
    (applyCalls params).foldl Op.set x = paramsSettings params x :=
  Settings.ext (funext₂ fun f a => by cases f <;> cases a <;> rfl) rfl rfl rfl

theorem holds_applyFirewallRules {st : FwState} {o : Option Settings} (hst : Holds q st o)
    (params : FirewallParams) :
    Holds q (runOps q (applyFirewallRules params (isInstalled st)) st)
      (some (paramsSettings params (o.getD .initial))) := by
  rw [← foldl_applyCalls]
  exact hst.installIfNeeded (by simp [applyCalls, Op.Sets])

end WireguardUtilsLinux

end Dopamine.Linux
