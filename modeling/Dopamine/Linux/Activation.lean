import Dopamine.Linux.LinuxUtils
import Dopamine.Linux.Ownership

/-!
# What an activation leaves behind

Only `addInterface` configures the device, and it does so only for a process it has started itself.
An activation that finds an interface, because the hop is switched or because an earlier activation
failed later on, uses the device as it is (`device_params_iff`).

Only `deactivate` stops the process. So an activation that fails leaves the interface up unless the
process never came up (`failed_activation_clean_iff`).

Both follow from what holds between requests: the tunnel runs, or everything of it is gone
(`Sound`).
-/

namespace Dopamine.Linux.LinuxUtils

open Prog Daemon Routing WireguardUtilsLinux List

variable {q : Platform} {R : LinuxReply → Prop} {config lastConfig : InterfaceConfig}

/-! ## Calls that leave the process alone -/

/-- The calls that neither start nor stop the process, nor configure it. -/
def IsQuiet : LinuxCall → Prop
  | .startTunnel => False
  | .waitForTunnelName => False
  | .deleteInterface => False
  | .applyFirewallRules _ => False
  | .uapiCommand lines => ∀ line ∈ lines, ∀ key value, line ≠ .assign key value
  | _ => True

theorem isQuiet_updatePeer : IsQuiet (.uapiCommand (updatePeerMessage config)) := by
  intro line hline key value heq
  rw [mem_singleton.mp hline] at heq
  cases heq

theorem isQuiet_deletePeer : IsQuiet (.uapiCommand (deletePeerMessage config)) := by
  intro line hline key value heq
  rw [mem_singleton.mp hline] at heq
  cases heq

section Quiet

variable {I : World → Prop}
  (hcall : ∀ c, IsQuiet c → Triple (exec q) R I (perform c) fun _ => I)
include hcall

theorem updatePeer_quiet : Triple (exec q) R I (updatePeer q config) fun _ => I :=
  (Triple.each fun ip _ => hcall (.addExclusionRoute ip) trivial).bind fun _ =>
    hcall _ isQuiet_updatePeer

theorem deletePeer_quiet : Triple (exec q) R I (deletePeer q config) fun _ => I :=
  (Triple.each fun ip _ => hcall (.deleteExclusionRoute ip) trivial).bind fun _ =>
    hcall _ isQuiet_deletePeer

theorem every_quiet {α : Type} {f : α → LinuxCall} {l : List α} (hf : ∀ a, IsQuiet (f a)) :
    Triple (exec q) R I (every (fun a => perform (f a)) l) fun _ => I :=
  .every_keep fun a _ => hcall (f a) (hf a)

variable (ip : IPAddress)

theorem updateRoutePrefix_quiet : Triple (exec q) R I (updateRoutePrefix ip) fun _ => I :=
  .ite (fun _ => hcall (.insertRoute ip) trivial) fun _ =>
    .ite (fun _ => .skip) fun _ => every_quiet hcall fun _ => trivial

theorem deleteRoutePrefix_quiet : Triple (exec q) R I (deleteRoutePrefix ip) fun _ => I :=
  .ite (fun _ => hcall (.insertRoute ip) trivial) fun _ =>
    .ite (fun _ => .skip) fun _ => every_quiet hcall fun _ => trivial

theorem excludeLocalNetworks_quiet (routes : List IPAddress) :
    Triple (exec q) R I (excludeLocalNetworks routes) fun _ => I := by
  induction routes with
  | nil => exact .skip
  | cons ip routes ih =>
    exact (hcall (.insertRoute ip) trivial).bind fun _ => ih.bind fun _ =>
      .skip

theorem maybeUpdateResolvers_quiet :
    Triple (exec q) R I (maybeUpdateResolvers (utils q) q config) fun _ => I :=
  .ite (fun _ => hcall (.updateResolvers _) trivial) fun _ => .skip

end Quiet

section Frames

variable {τ : Type} {view : World → τ}
  (hquiet : ∀ c, IsQuiet c → Keeps (exec q) R view (perform c))
  (hset : ∀ (s : World) l, view { s with vars.excludedAddrSet := l } = view s)
include hquiet

theorem call_frame (I : τ → Prop) (c : LinuxCall) (hc : IsQuiet c) :
    Triple (exec q) R (fun s => I (view s)) (perform c) fun _ s => I (view s) :=
  (hquiet c hc).triple I

include hset

/-- Once the interface is there, an activation keeps what the quiet calls keep. -/
theorem configure_frame {I : τ → Prop} {S F : World → Prop} (hfail : ∀ s, I (view s) → F s)
    (hconnect : ∀ s, I (view s) → S { s with vars := connect config s.vars }) :
    Triple (exec q) R (fun s => I (view s)) (configure (utils q) q config) (Post S F) := by
  have hcall := call_frame hquiet I
  have hexclude : Keeps (exec q) R view (excludeRoutes (utils q) q config) :=
    keeps_excludeRoutes hset (fun ip => hquiet (.addExclusionRoute ip) trivial) fun l =>
      keeps_of_triple fun v =>
        excludeLocalNetworks_quiet (fun c hc => (hquiet c hc).triple (· = v)) l
  exact configure_rule ((hcall .interfaceIoctl trivial).keep hfail)
    ((hcall .interfaceIoctl trivial).keep hfail) (hexclude.triple I)
    ((updatePeer_quiet hcall).keep hfail) ((maybeUpdateResolvers_quiet hcall).keep hfail)
    (.every fun ip _ => (updateRoutePrefix_quiet hcall ip).keep hfail)
    .skip hconnect

omit hquiet hset in
/-- There is nothing to prepare for an activation. -/
theorem bringUp_stages {P M S F : World → Prop}
    (hinterface : Triple (exec q) R P (ensureInterface (utils q) config) (Post M F))
    (hconfigure : Triple (exec q) R M (configure (utils q) q config) (Post S F)) :
    Triple (exec q) R P (bringUp (utils q) q config) (Post S F) :=
  bringUp_rule .skip hinterface hconfigure

/-- A switch keeps what the quiet calls keep. -/
theorem switchTo_frame
    (hconnect : ∀ s : World, view { s with vars := connect config s.vars } = view s)
    (I : τ → Prop) :
    Triple (exec q) R (fun s => I (view s)) (switchTo (utils q) q config lastConfig)
      (Post (fun s => I (view s)) fun s => I (view s)) := by
  have hcall := call_frame hquiet I
  have hadd : Keeps (exec q) R view (each (addExclusionRoute (utils q)) (excluded q config)) :=
    .each fun ip _ => keeps_addExclusionRoute hset (hquiet (.addExclusionRoute ip) trivial)
  have hdel : Keeps (exec q) R view
      (each (delExclusionRoute (utils q)) (excluded q lastConfig)) :=
    .each fun ip _ => keeps_delExclusionRoute hset (fun _ => hquiet .qAssert trivial)
      (hquiet (.deleteExclusionRoute ip) trivial)
  have hconnected : ∀ s : World, I (view s) →
      I (view { s with vars := connect config s.vars }) := by
    intro s hs
    rw [hconnect]
    exact hs
  have hswitch : Triple (exec q) R (fun s => I (view s)) (switchServer (utils q) q config lastConfig)
      (Post (fun s => I (view s)) fun s => I (view s)) :=
    switchServer_rule (hadd.triple I) ((updatePeer_quiet hcall).keep fun _ h => h)
      (.every_keep fun ip _ => updateRoutePrefix_quiet hcall ip)
      (hdel.triple I) (.each fun ip _ => deleteRoutePrefix_quiet hcall ip)
      (removeLast_rule (fun _ => (deletePeer_quiet hcall).keep fun _ h => h) fun _ _ h => h)
      hconnected
  exact switchTo_rule hswitch ((hcall .restoreResolvers trivial).keep fun _ h => h)
    ((maybeUpdateResolvers_quiet hcall).keep fun _ h => h) .skip hconnected

end Frames

/-! ## The process and its parameters -/

/-- What only `addInterface` and `deactivate` change. -/
def tunnelView (s : World) : Bool × ProcessState × (String → Option String) :=
  (s.vars.deactivating, s.env.tunnel, s.env.device.params)

theorem keeps_tunnelView (c : LinuxCall) (hc : IsQuiet c) :
    Keeps (exec q) R tunnelView (perform c) := by
  refine .perform fun s r => ?_
  have henv : (exec q c r s.env).2.tunnel = s.env.tunnel ∧
      (exec q c r s.env).2.device.params = s.env.device.params := by
    cases c with
    | startTunnel | waitForTunnelName | deleteInterface | applyFirewallRules => exact hc.elim
    | uapiCommand lines =>
      refine ⟨rfl, ?_⟩
      simp only [exec]
      split
      · exact Device.params_apply_take hc ..
      · rfl
    | insertRoute | deleteRoute => simp only [exec, tunnelNetlink_snd, and_self]
    | _ => exact ⟨rfl, rfl⟩
  unfold tunnelView
  rw [henv.1, henv.2]

/-- The parameters the message of `addInterface` sets in a new process. -/
def configured (config : InterfaceConfig) : String → Option String :=
  (Device.init.apply (interfaceMessage config)).params

/-- Nothing is left of a tunnel. -/
structure Rest (s : World) : Prop where
  connections : s.vars.connections = fun _ => none
  counts : s.vars.excludedAddrSet = []
  monitor : s.env.monitor = false
  device : s.env.device = .init
  untunneled : ∀ r ∈ s.env.routes, r.hop ≠ .tunnel
  resolvers : s.env.resolvers = none

/-- The tunnel runs, or nothing is left of it. -/
def Calm (s : World) : Prop := s.env.tunnel ≠ .Running → Rest s

/-- What holds between requests. -/
structure Sound (s : World) : Prop where
  idle : s.vars.deactivating = false
  calm : Calm s

/-- The interface is up with its own parameters. -/
def Up (params : String → Option String)
    (v : Bool × ProcessState × (String → Option String)) : Prop :=
  v.1 = false ∧ v.2.1 = .Running ∧ v.2.2 = params

variable {params : String → Option String} {s : World} {rs : List LinuxReply}

theorem Up.sound (h : Up params (tunnelView s)) : Sound s := ⟨h.1, fun hne => absurd h.2.1 hne⟩

theorem addInterface_triple :
    Triple (exec q) R (fun s => Sound s ∧ s.env.tunnel ≠ .Running) (addInterface config)
      (Post (fun s => Up (configured config) (tunnelView s)) Sound) := by
  -- a process that has just started runs, and the rest is as it was
  refine .stage (M := fun s => s.vars.deactivating = false ∧ s.env.tunnel = .Running ∧ Rest s)
    (.perform fun s r _ hs => ?_) (.stage
    (M := fun s => s.vars.deactivating = false ∧ s.env.tunnel = .Running ∧ s.env.device = .init)
    (.perform fun s r _ hs => ?_) (.stage (.perform fun s r _ hs => ?_)
    (.ite (fun _ => .perform fun _ _ _ hs => hs) fun _ => .skip)))
  · obtain ⟨h, hne⟩ := hs
    have hrest := h.calm hne
    simp only [exec]
    split
    · exact h
    · split
      · exact ⟨h.idle, rfl, { hrest with device := rfl }⟩
      · exact ⟨h.idle, fun _ => { hrest with }⟩
  · obtain ⟨hidle, hrun, hrest⟩ := hs
    simp only [exec]
    split
    · exact ⟨hidle, hrun, hrest.device⟩
    · split
      · exact ⟨hidle, fun hne => absurd hrun hne⟩
      · refine ⟨hidle, fun _ =>
          { hrest with device := rfl, resolvers := rfl, untunneled := fun r hr => ?_ }⟩
        exact (Table.mem_dropHop.mp hr).2
  · obtain ⟨hidle, hrun, hdevice⟩ := hs
    cases hok : r.ok with
    | true =>
      simp only [exec, hrun, hok, hdevice, decide_true, Bool.and_true, if_true, take_length]
      exact ⟨hidle, rfl, rfl⟩
    | false =>
      simp only [exec, hok, Bool.and_false]
      exact ⟨hidle, fun hne => absurd hrun hne⟩

/-- An interface that is there is not added. -/
theorem ensureInterface_up {I F : World → Prop} (hI : ∀ s, I s → s.env.tunnel = .Running) :
    Triple (exec q) R I (ensureInterface (utils q) config) (Post I F) :=
  ensureInterface_rule (M := fun b s => I s ∧ b = true)
    (.perform fun s _ _ hs => ⟨hs, decide_eq_true (hI s hs)⟩) (fun _ hs => hs.1)
    fun _ _ _ hs _ => nomatch hs.2

theorem ensureInterface_down :
    Triple (exec q) R (fun s => Sound s ∧ s.env.tunnel ≠ .Running)
      (ensureInterface (utils q) config)
      (Post (fun s => Up (configured config) (tunnelView s)) Sound) :=
  ensureInterface_rule (M := fun b s => (Sound s ∧ s.env.tunnel ≠ .Running) ∧ b = false)
    (.perform fun _ _ _ hs => ⟨hs, decide_eq_false hs.2⟩)
    (fun _ hs => nomatch hs.2)
    (addInterface_triple.pre fun _ hs => hs.1)

theorem bringUp_triple {params : String → Option String} {P : World → Prop}
    (hinterface : Triple (exec q) R P (ensureInterface (utils q) config)
      (Post (fun s => Up params (tunnelView s)) Sound)) :
    Triple (exec q) R P (bringUp (utils q) q config)
      (Post (fun s => Up params (tunnelView s)) Sound) :=
  bringUp_stages hinterface (configure_frame keeps_tunnelView (fun _ _ => rfl)
    (fun _ h => h.sound) fun _ h => h)

/-! ## Deactivation -/

/-- Without a process the quiet calls do nothing. -/
theorem exec_quiet_of_rest {c : LinuxCall} (hc : IsQuiet c) (hrest : Rest s)
    (hne : s.env.tunnel ≠ .Running) (r : LinuxReply) : (exec q c r s.env).2 = s.env := by
  obtain ⟨vars, tunnel, device, monitor, routes, gateway, resolvers, service⟩ := s
  obtain rfl : monitor = false := hrest.monitor
  obtain rfl : resolvers = none := hrest.resolvers
  replace hne : tunnel ≠ .Running := hne
  cases c with
  | startTunnel | waitForTunnelName | deleteInterface | applyFirewallRules => exact hc.elim
  | uapiCommand lines => simp only [exec, if_neg hne]
  | insertRoute | deleteRoute => simp only [exec, tunnelNetlink, if_neg hne]
  | updateResolvers resolvers =>
    simp only [exec, decide_eq_false hne, Bool.false_and, Bool.false_eq_true, if_false]
  | _ => rfl

theorem calm_quiet (c : LinuxCall) (hc : IsQuiet c) :
    Triple (exec q) R Calm (perform c) fun _ => Calm := by
  refine .perform fun s r _ hs => ?_
  by_cases hrun : s.env.tunnel = .Running
  · have hview := keeps_tunnelView (q := q) (R := fun _ => True) c hc s _ _ ⟨r, trivial, rfl, rfl⟩
    have htunnel : (exec q c r s.env).2.tunnel = s.env.tunnel := congrArg (fun v => v.2.1) hview
    exact fun hne => absurd (htunnel.trans hrun) hne
  · rw [exec_quiet_of_rest hc (hs hrun) hrun]
    exact hs

/-- Nothing is left of the tunnel, and no deactivation is under way. -/
structure Down (s : World) : Prop where
  idle : s.vars.deactivating = false
  rest : Rest s
  tunnel : s.env.tunnel = .NotRunning

theorem Down.sound (h : Down s) : Sound s := ⟨h.idle, fun _ => h.rest⟩

/-- A deactivation ends the process, and then nothing is left of the tunnel. -/
theorem deactivate_triple : Triple (exec q) R Sound (deactivate (utils q)) fun _ => Down := by
  have hdown : Keeps (exec q) R (fun s : World => s) (runDown (utils q)) :=
    keeps_runDown fun _ => .return true
  have hremove : Triple (exec q) R Calm (each (removeConnection (utils q)) hops) fun _ => Calm :=
    .each fun hop _ => removeConnection_rule (deleteRoutePrefix_quiet calm_quiet)
      fun _ => deletePeer_quiet calm_quiet
  refine deactivate_rule Calm Calm Calm Calm
    (fun s => Calm s ∧ (s.vars.connections = fun _ => none) ∧ s.vars.excludedAddrSet = [])
    (fun _ s => Rest s ∧ s.env.tunnel = .NotRunning) (fun _ h => h.idle)
    (fun _ h hne => { h.calm hne with })
    (hdown.triple Calm) (calm_quiet .restoreResolvers trivial) hremove (fun l => ?_)
    (fun s h => ⟨fun hne => { h hne with connections := rfl, counts := rfl }, rfl, rfl⟩)
    (.perform fun s r _ hs => ?_) fun b s h => ?_
  · exact (Triple.each fun ip _ => calm_quiet (.deleteExclusionRoute ip) trivial).pre fun _ h => h.1
  · obtain ⟨hcalm, hconn, hset⟩ := hs
    by_cases htunnel : s.env.tunnel = .NotRunning
    · have hrest := hcalm (by rw [htunnel]; decide)
      simp only [exec, htunnel, if_true]
      exact ⟨{ hrest with monitor := rfl }, trivial⟩
    · simp only [exec, if_neg htunnel]
      exact ⟨⟨hconn, hset, rfl, rfl, fun r hr => (Table.mem_dropHop.mp hr).2, rfl⟩, rfl⟩
  · exact ⟨rfl, { h.1 with }, h.2⟩

theorem down_deactivate (h : Sound s) (rs : List LinuxReply) :
    Down (serveStep q s (.deactivate, rs)) :=
  deactivate_triple.run_any rs h

/-! ## Activation -/

/-- The activation starts a process: the hop is not connected and there is none, or everything is
deactivated first. -/
def Restarts (s : World) (config : InterfaceConfig) : Prop :=
  match s.vars.connections config.hopType with
  | none => s.env.tunnel ≠ .Running
  | some lastConfig => supportServerSwitching lastConfig config = false

/-- A connected hop has a running tunnel. -/
theorem Sound.running_of_connected (h : Sound s) {hop : HopType}
    (hsome : s.vars.connections hop = some lastConfig) : s.env.tunnel = .Running := by
  by_contra hne
  rw [(h.calm hne).connections] at hsome
  cases hsome

/-- A new process has the parameters of the configuration. -/
theorem activate_restarts (h : Sound s) (hrestarts : Restarts s config) :
    Triple (exec q) R (· = s) (activate (utils q) q config)
      (Post (fun t => Up (configured config) (tunnelView t)) Sound) := by
  unfold Restarts at hrestarts
  refine activate_rule ?_ (fun lastConfig hsupport => ?_) (fun lastConfig hsupport => ?_)
    .skip
  · refine (bringUp_triple ensureInterface_down).pre fun t ht => ?_
    obtain ⟨rfl, hnone⟩ := ht
    rw [hnone] at hrestarts
    exact ⟨h, hrestarts⟩
  · rintro t b t' ⟨rfl, hsome⟩
    rw [hsome] at hrestarts
    cases hsupport.symm.trans hrestarts
  · refine (reactivate_rule (deactivate_triple.keep fun _ ht => ht.sound)
      (fun _ ht => by rw [ht.rest.connections])
      ((bringUp_triple ensureInterface_down).pre fun t ht => ⟨ht.sound, ?_⟩)
      .skip).pre fun t ht => ht.1 ▸ h
    rw [ht.tunnel]
    decide

/-- A process that runs already keeps its parameters. -/
theorem activate_continues (h : Sound s) (hrestarts : ¬Restarts s config) :
    Triple (exec q) R (· = s) (activate (utils q) q config)
      (Post (fun t => Up s.env.device.params (tunnelView t)) Sound) := by
  unfold Restarts at hrestarts
  refine activate_rule ?_ (fun lastConfig hsupport => ?_) (fun lastConfig hsupport => ?_)
    .skip
  · refine (bringUp_triple (ensureInterface_up fun _ h => h.2.1)).pre fun t ht => ?_
    obtain ⟨rfl, hnone⟩ := ht
    rw [hnone] at hrestarts
    exact ⟨h.idle, not_not.mp hrestarts, rfl⟩
  · refine ((switchTo_frame keeps_tunnelView (fun _ _ => rfl) (fun _ => rfl)
      (Up s.env.device.params)).mono (fun _ h => h) fun _ => Up.sound).pre fun t ht => ?_
    obtain ⟨rfl, hsome⟩ := ht
    exact ⟨h.idle, h.running_of_connected hsome, rfl⟩
  · rintro t b t' ⟨rfl, hsome⟩
    rw [hsome] at hrestarts
    exact absurd hsupport hrestarts

theorem sound_boot (host : LinuxHost) : Sound (boot host) :=
  ⟨rfl, fun _ => ⟨rfl, rfl, rfl, rfl, host.untunneled, rfl⟩⟩

theorem sound_serveStep (s : World) (e : Served) (h : Sound s) : Sound (serveStep q s e) := by
  obtain ⟨request, rs⟩ := e
  cases request with
  | activate config =>
    by_cases hrestarts : Restarts s config
    · exact ((activate_restarts h hrestarts).run_any rs rfl).elim Up.sound fun h => h
    · exact ((activate_continues h hrestarts).run_any rs rfl).elim Up.sound fun h => h
  | deactivate =>
    exact (down_deactivate h rs).sound

theorem sound_run (host : LinuxHost) (es : List Served) : Sound (served q host es) :=
  Trace.run_invariant sound_serveStep (sound_boot host) es

/-- The parameters after an activation that succeeds. -/
theorem params_of_activate (h : Sound s) (hok : (serve q s (.activate config, rs)).1 = true) :
    (Restarts s config →
      (serve q s (.activate config, rs)).2.env.device.params = configured config) ∧
    (¬Restarts s config →
      (serve q s (.activate config, rs)).2.env.device.params = s.env.device.params) := by
  constructor
  · intro hrestarts
    exact (((activate_restarts h hrestarts).run_any rs rfl).of_true hok).2.2
  · intro hrestarts
    exact (((activate_continues h hrestarts).run_any rs rfl).of_true hok).2.2

/-- After any history, an activation that succeeds gives the device the parameters of a first
activation exactly if it starts the process or the device has them already. -/
theorem device_params_iff (host : LinuxHost) (es : List Served) (config : InterfaceConfig)
    {rs : List LinuxReply}
    (hok : (serve q (served q host es) (.activate config, rs)).1 = true)
    (host₀ : LinuxHost) {rs₀ : List LinuxReply}
    (hfirst : (serve q (boot host₀) (.activate config, rs₀)).1 = true) :
    (serve q (served q host es) (.activate config, rs)).2.env.device.params =
        (serve q (boot host₀) (.activate config, rs₀)).2.env.device.params ↔
      Restarts (served q host es) config ∨
        (served q host es).env.device.params = configured config := by
  have hboot : Restarts (boot host₀) config := fun h => ProcessState.noConfusion h
  obtain ⟨hnew, hold⟩ := params_of_activate (sound_run host es) hok
  rw [(params_of_activate (sound_boot host₀) hfirst).1 hboot]
  by_cases hrestarts : Restarts (served q host es) config
  · exact ⟨fun _ => .inl hrestarts, fun _ => hnew hrestarts⟩
  · rw [hold hrestarts]
    exact ⟨.inr, fun h => h.resolve_left hrestarts⟩

/-- A host with a gateway and no route. -/
def bareHost : LinuxHost :=
  ⟨⟨[], nodup_nil⟩, fun _ h => (nomatch h), some 0xc0a80001#32,
    ⟨sampleTables, false, []⟩⟩

/-- A tunnel for all traffic, with a number of junk packets. -/
def junkConfig (junkPacketCount : String) : InterfaceConfig :=
  { blankConfig with junkPacketCount, allowedIPAddressRanges := [.any4] }

/-- After an activation with other parameters and a deactivation. -/
theorem device_params_iff_sample :
    (serve .plain (served .plain bareHost [(.activate (junkConfig "3"), []), (.deactivate, [])])
      (.activate (junkConfig "7"), [])).2.env.device.params =
    (serve .plain (boot bareHost) (.activate (junkConfig "7"), [])).2.env.device.params := by
  refine (device_params_iff bareHost _ _ ?_ bareHost ?_).mpr (.inl fun h => absurd h ?_)
  · decide +kernel
  · decide +kernel
  · decide +kernel

/-- A switch to a configuration with other parameters leaves the old ones in place. -/
theorem device_params_stale :
    (serve .plain (served .plain bareHost [(.activate (junkConfig "3"), [])])
      (.activate (junkConfig "7"), [])).1 = true ∧
    (serve .plain (served .plain bareHost [(.activate (junkConfig "3"), [])])
      (.activate (junkConfig "7"), [])).2.env.device.params ≠
    (serve .plain (boot bareHost) (.activate (junkConfig "7"), [])).2.env.device.params := by
  refine ⟨by decide +kernel, fun h => ?_⟩
  have hjunk := congrFun h "jc"
  revert hjunk
  decide +kernel

/-! ## A failed activation

The replies that decide whether the process comes up are the second and the third one: the first
goes to `interfaceExists`. -/

/-- The run of `addInterface`. -/
abbrev added (q : Platform) (config : InterfaceConfig) :
    List LinuxReply → World → Bool × List LinuxReply × World :=
  Prog.run (exec q) (addInterface config)

/-- The run that brings up a hop. -/
abbrev brought (q : Platform) (config : InterfaceConfig) :
    List LinuxReply → World → Bool × List LinuxReply × World :=
  Prog.run (exec q) (bringUp (utils q) q config)

/-- Without an interface, `addInterface` decides. -/
theorem run_ensureInterface_down (hne : s.env.tunnel ≠ .Running) (rs : List LinuxReply) :
    Prog.run (exec q) (ensureInterface (utils q) config) rs s = added q config rs.tail s := by
  show Prog.run (exec q) (if decide (s.env.tunnel = .Running) = true then pure true
    else addInterface config) rs.tail s = _
  rw [decide_eq_false hne]
  rfl

/-- A failure of `addInterface` ends the activation. -/
theorem run_bringUp_of_false (hne : s.env.tunnel ≠ .Running)
    (hfail : (added q config rs.tail s).1 = false) :
    brought q config rs s = added q config rs.tail s := by
  rw [← run_ensureInterface_down hne] at hfail ⊢
  exact run_guard_of_false hfail

/-- A process that does not start, or that gets no name, is killed and does not linger. -/
def BacksOut (rs : List LinuxReply) : Prop :=
  rs.tail.headI.ok = false ∧ rs.tail.headI.lingers = false ∨
    rs.tail.headI.ok = true ∧ rs.tail.tail.headI.ok = false ∧ rs.tail.tail.headI.lingers = false

/-- A tunnel process that runs goes on running. -/
def IsRunning (s : World) : Prop := s.env.tunnel = .Running

theorem running_configureInterface :
    Triple (exec q) R IsRunning (configureInterface config) fun _ => IsRunning := by
  refine .guard (M := fun _ => IsRunning) (.perform fun _ _ _ hs => hs) (fun _ h => h)
    (.ite (fun _ => ?_) fun _ => .skip)
  exact .perform fun _ _ _ hs => hs

theorem running_configure :
    Triple (exec q) R IsRunning (configure (utils q) q config) (Post IsRunning IsRunning) :=
  configure_frame (I := fun v => v.2.1 = .Running) keeps_tunnelView (fun _ _ => rfl)
    (fun _ h => h) fun _ h => h

section Failure

variable {s : World} {rs : List LinuxReply}

/-- The process does not start. -/
theorem run_addInterface_of_start {e : LinuxState}
    (hstart : exec q .startTunnel rs.headI s.env = (false, e)) :
    added q config rs s = (false, rs.tail, { s with env := e }) :=
  run_call_of_false hstart

/-- The state of a process that has started. -/
def started (s : World) : World := { s with env.tunnel := .Running, env.device := .init }

section

variable (htunnel : s.env.tunnel = .NotRunning)
include htunnel

/-- The process starts, and the rest of `addInterface` follows. -/
theorem run_addInterface_started (hstart : rs.headI.ok = true) :
    added q config rs s =
      Prog.run (exec q) (do
        if !(← perform .waitForTunnelName) then
          return false
        configureInterface config) rs.tail (started s) := by
  refine run_call_of_true (e := (started s).env) ?_
  simp only [exec, htunnel, hstart, ne_eq, not_true_eq_false, if_false, if_true]
  rfl

/-- The process starts and gets no name. -/
theorem run_addInterface_of_name (hstart : rs.headI.ok = true) (hname : rs.tail.headI.ok = false) :
    added q config rs s =
      (false, rs.tail.tail, { started s with
        env := if rs.tail.headI.lingers then (started s).env else endTunnel (started s).env }) := by
  rw [run_addInterface_started htunnel hstart]
  refine run_call_of_false ?_
  simp only [exec, hname, Bool.false_eq_true, and_false, if_false]

/-- The process starts and gets its name: it runs, whether the configuration succeeds or not. -/
theorem running_addInterface (hstart : rs.headI.ok = true) (hname : rs.tail.headI.ok = true) :
    IsRunning (added q config rs s).2.2 := by
  have hexec : exec q .waitForTunnelName rs.tail.headI (started s).env =
      (true, { (started s).env with monitor := true }) := by
    simp only [exec, started, hname, and_self, if_true]
  rw [run_addInterface_started htunnel hstart, run_call_of_true hexec]
  exact running_configureInterface.run_any _ rfl

theorem ne_running : s.env.tunnel ≠ .Running := by
  rw [htunnel]
  decide

/-- The process does not start. -/
theorem run_bringUp_of_start (hstart : rs.tail.headI.ok = false) :
    brought q config rs s = (false, rs.tail.tail, { s with
      env.tunnel := if rs.tail.headI.lingers then .Starting else .NotRunning }) := by
  have hexec : exec q .startTunnel rs.tail.headI s.env =
      (false, { s.env with
        tunnel := if rs.tail.headI.lingers then .Starting else .NotRunning }) := by
    simp only [exec, htunnel, hstart, ne_eq, not_true_eq_false, if_false, Bool.false_eq_true]
  have hadd : added q config rs.tail s = _ := run_addInterface_of_start hexec
  rw [run_bringUp_of_false (ne_running htunnel) (by rw [hadd]), hadd]

/-- What the process is after an activation that had none. -/
theorem tunnel_bringUp_iff :
    (brought q config rs s).2.2.env.tunnel = .NotRunning ↔ BacksOut rs := by
  unfold BacksOut
  cases hstart : rs.tail.headI.ok with
  | false =>
    rw [run_bringUp_of_start htunnel hstart]
    cases rs.tail.headI.lingers <;> simp
  | true =>
    cases hname : rs.tail.tail.headI.ok with
    | false =>
      have hadd : added q config rs.tail s = _ := run_addInterface_of_name htunnel hstart hname
      rw [run_bringUp_of_false (ne_running htunnel) (by rw [hadd]), hadd]
      cases rs.tail.tail.headI.lingers <;> simp [started, endTunnel]
    | true =>
      have hadd : IsRunning (Prog.run (exec q) (ensureInterface (utils q) config) rs s).2.2 := by
        rw [run_ensureInterface_down (ne_running htunnel)]
        exact running_addInterface htunnel hstart hname
      have hrunning : IsRunning (brought q config rs s).2.2 := by
        cases hok : (Prog.run (exec q) (ensureInterface (utils q) config) rs s).1 with
        | false =>
          have hrun : brought q config rs s = _ := run_guard_of_false hok
          rw [hrun]
          exact hadd
        | true =>
          have hrun : brought q config rs s = _ := run_guard_of_true hok
          rw [hrun]
          exact (running_configure.run_any _ hadd).same
      rw [show _ = ProcessState.Running from hrunning]
      simp

end

/-- A process that was there before an activation is there after it. -/
theorem tunnel_bringUp_ne (h : s.env.tunnel ≠ .NotRunning) :
    (brought q config rs s).2.2.env.tunnel ≠ .NotRunning := by
  by_cases hrun : s.env.tunnel = .Running
  · have hrunning : IsRunning (brought q config rs s).2.2 :=
      ((bringUp_stages (ensureInterface_up fun _ h => h) running_configure).run_any rs hrun).same
    rw [show _ = ProcessState.Running from hrunning]
    decide
  · -- a process that is still starting cannot be started
    have hexec : exec q .startTunnel rs.tail.headI s.env = (false, s.env) := by
      simp only [exec, ne_eq, h, not_false_eq_true, if_true]
    have hadd : added q config rs.tail s = _ := run_addInterface_of_start hexec
    rw [run_bringUp_of_false hrun (by rw [hadd]), hadd]
    exact h

/-- An activation that fails leaves the connections as they are. -/
theorem connections_bringUp (hfail : (brought q config rs s).1 = false) :
    (brought q config rs s).2.2.vars.connections = s.vars.connections := by
  have hcall : ∀ c, Keeps (exec q) (fun _ => True) (fun s : World => s.vars.connections)
      (perform c) := fun c => .perform fun _ _ => rfl
  have hadd : Keeps (exec q) (fun _ => True) (fun s : World => s.vars.connections)
      (addInterface config) :=
    (hcall _).bind fun _ => (Keeps.return _).ite ((hcall _).bind fun _ => (Keeps.return _).ite
      ((hcall _).bind fun _ => (Keeps.return _).ite ((hcall _).ite (Keeps.return _))))
  have hinterface := keeps_ensureInterface (u := utils q) (hcall .interfaceExists) hadd
  have hpost := (bringUp_stages (hinterface.post (I := (· = s.vars.connections)) fun _ h => h)
    (configure_frame (S := fun _ => True) (I := (· = s.vars.connections)) (fun c _ => hcall c)
      (fun _ _ => rfl) (fun _ h => h) fun _ _ => trivial)).run_any rs rfl
  rw [hfail] at hpost
  exact hpost

/-- Nothing of what a failed activation has done is left. -/
structure NoResidue (s s' : World) : Prop where
  tunnel : s'.env.tunnel ≠ .NotRunning → s.env.tunnel ≠ .NotRunning
  routes : ∀ r ∈ s'.env.routes, r ∈ s.env.routes
  resolvers : s'.env.resolvers ≠ none → s'.env.resolvers = s.env.resolvers
  service : s'.env.service = s.env.service

/-- A process that is not there any more has left nothing. -/
theorem noResidue_bringUp (htunnel : s.env.tunnel = .NotRunning) (hback : BacksOut rs) :
    NoResidue s (brought q config rs s).2.2 := by
  have hdown : (brought q config rs s).2.2.env.tunnel = .NotRunning :=
    (tunnel_bringUp_iff htunnel).mpr hback
  rcases hback with ⟨hstart, -⟩ | ⟨hstart, hname, hlingers⟩
  · rw [run_bringUp_of_start htunnel hstart] at hdown ⊢
    exact ⟨fun h => absurd hdown h, fun _ h => h, fun _ => rfl, rfl⟩
  · have hadd : added q config rs.tail s = _ := run_addInterface_of_name htunnel hstart hname
    rw [run_bringUp_of_false (ne_running htunnel) (by rw [hadd]), hadd, hlingers] at hdown ⊢
    exact ⟨fun h => absurd hdown h, fun _ h => (Table.mem_dropHop.mp h).1,
      fun h => absurd rfl h, rfl⟩

end Failure

/-- A daemon that has just started, with the rest of the system as it is. -/
def fresh (s : World) : World := ⟨.init, { endTunnel s.env with monitor := false }⟩

/-- Every activation goes as it would go on a fresh daemon. -/
def BehavesFresh (q : Platform) (s : World) : Prop :=
  ∀ config rs, serve q s (.activate config, rs) = serve q (fresh s) (.activate config, rs)

/-- Without a process the daemon is a fresh one. -/
theorem fresh_eq_self (h : Sound s) (htunnel : s.env.tunnel = .NotRunning) : fresh s = s := by
  obtain ⟨⟨connections, excludedAddrSet, deactivating⟩, tunnel, device, monitor, ⟨routes, nodup⟩,
    gateway, resolvers, service⟩ := s
  obtain rfl : tunnel = .NotRunning := htunnel
  have hrest := h.calm fun h => ProcessState.noConfusion h
  obtain rfl : deactivating = false := h.idle
  obtain rfl : connections = fun _ => none := hrest.connections
  obtain rfl : excludedAddrSet = [] := hrest.counts
  obtain rfl : device = .init := hrest.device
  obtain rfl : monitor = false := hrest.monitor
  obtain rfl : resolvers = none := hrest.resolvers
  have hroutes : routes.filter (fun r => r.hop ≠ .tunnel) = routes :=
    filter_eq_self.mpr fun r hr => decide_eq_true (hrest.untunneled r hr)
  simp only [fresh, endTunnel, Table.dropHop, hroutes]
  rfl

/-- The guard only tells the client. -/
theorem run_guarded (p : Prog LinuxCall Daemon.State Bool) (rs : List LinuxReply) (s : World) :
    Prog.run (exec q) (guarded (utils q) p) rs s = Prog.run (exec q) p rs s := by
  unfold guarded
  rw [run_bind]
  cases h : (Prog.run (exec q) p rs s).1 <;> exact Prod.ext h.symm rfl

/-- A hop that is not connected is brought up. -/
theorem serve_activate_none (hnone : s.vars.connections config.hopType = none)
    (rs : List LinuxReply) :
    serve q s (.activate config, rs) = ((brought q config rs s).1, (brought q config rs s).2.2) := by
  have hrun : Prog.run (exec q) (activate (utils q) q config) rs s =
      Prog.run (exec q) (guarded (utils q)
        (match s.vars.connections config.hopType with
        | none => bringUp (utils q) q config
        | some lastConfig =>
            if supportServerSwitching lastConfig config then switchTo (utils q) q config lastConfig
            else reactivate (utils q) q config)) rs s := rfl
  rw [hnone, run_guarded] at hrun
  show ((Prog.run (exec q) (activate (utils q) q config) rs s).1,
    (Prog.run (exec q) (activate (utils q) q config) rs s).2.2) = _
  rw [hrun]

/-- A daemon that behaves as a fresh one has no process. -/
theorem tunnel_of_behavesFresh (hnone : s.vars.connections .SingleHop = none)
    (h : BehavesFresh q s) : s.env.tunnel = .NotRunning := by
  by_contra hne
  -- an activation whose process does not start tells them apart
  have hserve := h blankConfig [default, ⟨false, true, false, 0⟩]
  rw [serve_activate_none hnone, serve_activate_none rfl] at hserve
  have htunnel := congrArg (fun r => r.2.env.tunnel) hserve
  refine tunnel_bringUp_ne hne (htunnel.trans ?_)
  exact (tunnel_bringUp_iff rfl).mpr (.inl ⟨rfl, rfl⟩)

/-- A failed activation, when nothing was connected, leaves no residue and a daemon like a fresh one
exactly if there was no process before and it backs out while it starts one. -/
theorem failed_activation_clean_iff (host : LinuxHost) (es : List Served)
    (hlive : (served q host es).vars.live = []) (config : InterfaceConfig)
    {rs : List LinuxReply}
    (hfail : (serve q (served q host es) (.activate config, rs)).1 = false) :
    (NoResidue (served q host es)
          (serve q (served q host es) (.activate config, rs)).2 ∧
        BehavesFresh q
          (serve q (served q host es) (.activate config, rs)).2) ↔
      (served q host es).env.tunnel = .NotRunning ∧ BacksOut rs := by
  have hsound := sound_run (q := q) host es
  generalize served q host es = s at *
  have hnone := State.connections_eq_none hlive
  have hafter := sound_serveStep (q := q) s (.activate config, rs) hsound
  unfold serveStep at hafter
  rw [serve_activate_none (hnone _)] at hfail hafter ⊢
  constructor
  · rintro ⟨-, hfresh⟩
    have hconn := (congrFun (connections_bringUp hfail) .SingleHop).trans (hnone _)
    have hdown := tunnel_of_behavesFresh hconn hfresh
    have htunnel : s.env.tunnel = .NotRunning := by
      by_contra hne
      exact tunnel_bringUp_ne hne hdown
    exact ⟨htunnel, (tunnel_bringUp_iff htunnel).mp hdown⟩
  · rintro ⟨htunnel, hback⟩
    refine ⟨noResidue_bringUp htunnel hback, fun config' rs' => ?_⟩
    rw [fresh_eq_self hafter ((tunnel_bringUp_iff htunnel).mpr hback)]

/-- The process does not start. -/
theorem failed_activation_clean_sample :
    NoResidue (boot bareHost) (serve .plain (boot bareHost)
        (.activate (junkConfig "3"), [default, ⟨false, true, false, 0⟩])).2 ∧
      BehavesFresh .plain (serve .plain (boot bareHost)
        (.activate (junkConfig "3"), [default, ⟨false, true, false, 0⟩])).2 := by
  refine (failed_activation_clean_iff bareHost [] rfl (junkConfig "3") ?_).mpr
    ⟨rfl, .inl ⟨rfl, rfl⟩⟩
  decide +kernel

/-- The device refuses its address: the activation fails and the interface stays. -/
theorem failed_activation_leaves_interface :
    (serve .plain (boot bareHost)
      (.activate (junkConfig "3"), replicate 4 default ++ [⟨false, true, false, 0⟩])).1 =
        false ∧
    ¬NoResidue (boot bareHost) (serve .plain (boot bareHost)
      (.activate (junkConfig "3"), replicate 4 default ++ [⟨false, true, false, 0⟩])).2 := by
  refine ⟨by decide +kernel, fun h => h.tunnel ?_ rfl⟩
  decide +kernel

end Dopamine.Linux.LinuxUtils
