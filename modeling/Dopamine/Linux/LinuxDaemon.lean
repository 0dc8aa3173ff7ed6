import Dopamine.Linux.WireguardUtils
import Dopamine.Trace.Runs

/-!
# The daemon, event by event

`Daemon` of `client/daemon/daemon.cpp` on the Linux utilities. `uapiCommand` and `waitForTunnelName`
process events while they wait, so a request, a call of the client to the kill switch or the end of
the tunnel process can come in the middle of another request. A request that waits is a `Frame`; the
frames are a stack, as the nested event loops are, and the innermost one is answered first. An
`Event` takes the daemon up to its next wait.

Routes, resolvers, addresses and the handshake timer touch neither the process nor the firewall:
what counts of them is whether the request goes on, and that is part of the `Answer`. A peer always
has an endpoint, since `parseConfig` refuses a request without one. `Daemon/Daemon` has the same
requests with all of this as programs, and without the calls to the kill switch.

`step_service` says what an event can do to the kill switch, and from it every run keeps the tables
of the firewall in order (`inOrder_runEvents`).
-/

namespace Dopamine.Linux

open LinuxFirewall WireguardUtilsLinux List KillSwitch

variable (q : Platform)

/-- What the calls up to the next wait return. -/
structure Answer where
  /-- of the tunnel process, and the reply to the UAPI message that was waited for -/
  out : Outcome
  /-- `addInterfaceIPs` and `setMTUAndUp` succeed -/
  addressed : Bool
  /-- `maybeUpdateResolvers` and `updateRoutePrefix` succeed -/
  routed : Bool

/-- A request that waits. -/
inductive Frame where
  /-- in `addInterface`, for the name of the interface and for the reply -/
  | addInterface (config : InterfaceConfig)
  /-- in `activate`, for the reply to `updatePeer` -/
  | updatePeer (config : InterfaceConfig)
  /-- in `switchServer`, for the reply to `updatePeer` -/
  | switchPeer (config lastConfig : InterfaceConfig)
  /-- in `switchServer`, for the reply to `deletePeer` -/
  | deletePeer (config : InterfaceConfig)
  /-- in `deactivate`, for the replies to `deletePeer`; `activate` goes on with `next` -/
  | deactivate (next : Option InterfaceConfig)

/-- The configuration an interface may yet be added for. -/
def Frame.pending : Frame → Option InterfaceConfig
  | .addInterface config => some config
  | .deactivate next => next
  | _ => none

/-- The daemon, with the requests that wait. -/
structure DaemonState where
  connections : HopType → Option InterfaceConfig
  deactivating : Bool
  wg : WgState
  /-- innermost first -/
  waiting : List Frame

namespace LinuxDaemon

/-- The values of `m_connections`. -/
def connected (s : DaemonState) : List InterfaceConfig :=
  [HopType.SingleHop, .MultiHopEntry, .MultiHopExit].filterMap s.connections

/-- `!m_connections.isEmpty()`. -/
def isConnected (s : DaemonState) : Bool := !(connected s).isEmpty

def wait (frame : Frame) (s : DaemonState) : DaemonState := { s with waiting := frame :: s.waiting }

variable (config : InterfaceConfig)

/-- `m_connections[config.m_hopType] = ConnectionState(config)`. -/
def connect (s : DaemonState) : DaemonState :=
  { s with connections := Function.update s.connections config.hopType (some config) }

/-- `activate`, from where the interface exists. -/
def addPeer (ans : Answer) (s : DaemonState) : DaemonState :=
  if ans.addressed then wait (.updatePeer config) s else s

/-- `activate`, from where the hop is not connected. An interface that exists is used as it is. -/
def bringUp (ans : Answer) (s : DaemonState) : DaemonState :=
  if interfaceExists s.wg then addPeer config ans s
  else if s.wg.tunnel = .NotRunning ∧ ans.out.started then
    wait (.addInterface config) { s with wg.tunnel := .Running }
  else { s with wg := (addInterface q config ans.out s.wg).2 }

/-- `deactivate`, from where the peers are deleted. -/
def finishDeactivate (next : Option InterfaceConfig) (ans : Answer)
    (s : DaemonState) : DaemonState :=
  let removed := deleteInterface q s.wg
  let s := { s with connections := fun _ => none, wg := removed.2, deactivating := false }
  match next with
  | some config => if removed.1 then bringUp q config ans s else s
  | none => s

/-- `deactivate`. Without connections there is no peer to wait for. -/
def deactivate (next : Option InterfaceConfig) (ans : Answer) (s : DaemonState) : DaemonState :=
  if s.deactivating then s
  else if isConnected s then wait (.deactivate next) { s with deactivating := true }
  else finishDeactivate q next ans s

/-- `activate`. When `deactivate` returns at once, the hop is still connected and the request is
given up. -/
def activate (ans : Answer) (s : DaemonState) : DaemonState :=
  match s.connections config.hopType with
  | some current =>
      if Daemon.supportServerSwitching current config then wait (.switchPeer config current) s
      else deactivate q (some config) ans s
  | none => bringUp q config ans s

/-- A waiting request goes on. -/
def resume (ans : Answer) (s : DaemonState) : Frame → DaemonState
  | .addInterface config =>
      let added := finishInterface q config ans.out s.wg
      if added.1 then addPeer config ans { s with wg := added.2 } else { s with wg := added.2 }
  | .updatePeer config => if ans.out.errno = 0 ∧ ans.routed then connect config s else s
  | .switchPeer config lastConfig =>
      if ans.out.errno ≠ 0 then s
      else if config.serverPublicKey ≠ lastConfig.serverPublicKey then wait (.deletePeer config) s
      else connect config s
  | .deletePeer config => if ans.out.errno = 0 then connect config s else s
  | .deactivate next => finishDeactivate q next ans s

/-- The innermost waiting request goes on. -/
def answer (ans : Answer) (s : DaemonState) : DaemonState :=
  match s.waiting with
  | [] => s
  | frame :: waiting => resume q ans { s with waiting := waiting } frame

end LinuxDaemon

/-- What reaches the event loop of the service. -/
inductive Event where
  | activate (config : InterfaceConfig) (ans : Answer)
  | deactivate (ans : Answer)
  | answer (ans : Answer)
  /-- the tunnel process ends -/
  | exit
  | call (c : Call)

namespace LinuxDaemon

def step (s : DaemonState) : Event → DaemonState
  | .activate config ans => activate q config ans s
  | .deactivate ans => deactivate q none ans s
  | .answer ans => answer q ans s
  | .exit => { s with wg.tunnel := .NotRunning }
  | .call c => { s with wg.service := c.run q s.wg.service }

/-- The service when it starts. -/
def init (start : FwState) (strict : Bool) : DaemonState where
  connections _ := none
  deactivating := false
  wg := ⟨.NotRunning, "", KillSwitch.init q ⟨start, strict, []⟩⟩
  waiting := []

/-- The state after events. -/
def runEvents (start : FwState) (strict : Bool) (es : List Event) : DaemonState :=
  Trace.run (step q) (init q start strict) es

/-- The configuration whose rules an event applies: that of an interface that is configured with the
kill switch on. -/
def appliedConfig (s : DaemonState) : Event → Option InterfaceConfig
  | .answer ans =>
      match s.waiting with
      | .addInterface config :: _ =>
          if ans.out.configured && config.killSwitchEnabled then some config else none
      | _ => none
  | _ => none

/-! ## What an event does -/

section Steps

variable (config : InterfaceConfig) (ans : Answer) (s : DaemonState)

@[simp]
theorem addPeer_wg : (addPeer config ans s).wg = s.wg := by
  unfold addPeer
  split <;> rfl

@[simp]
theorem addPeer_connections : (addPeer config ans s).connections = s.connections := by
  unfold addPeer
  split <;> rfl

/-- An activation uses the interface that exists, starts the process and waits, or gives up without
a running process. -/
theorem bringUp_cases :
    s.wg.tunnel = .Running ∧ bringUp q config ans s = addPeer config ans s ∨
      (s.wg.tunnel = .NotRunning ∧ ans.out.started = true) ∧
        bringUp q config ans s = wait (.addInterface config) { s with wg.tunnel := .Running } ∨
      (s.wg.tunnel ≠ .Running ∧ ¬(s.wg.tunnel = .NotRunning ∧ ans.out.started = true)) ∧
        ∃ t, t ≠ .Running ∧ bringUp q config ans s = { s with wg.tunnel := t } := by
  unfold bringUp interfaceExists
  cases htunnel : s.wg.tunnel with
  | Running => exact .inl ⟨rfl, rfl⟩
  | Starting =>
    refine .inr (.inr ⟨⟨nofun, nofun⟩, .Starting, nofun, ?_⟩)
    rw [if_neg (by decide), if_neg fun h => ProcessState.noConfusion h.1, addInterface, htunnel,
      if_pos nofun, ← htunnel]
  | NotRunning =>
    rw [if_neg (by decide)]
    cases hstarted : ans.out.started with
    | true => exact .inr (.inl ⟨⟨rfl, rfl⟩, if_pos ⟨rfl, rfl⟩⟩)
    | false =>
      refine .inr (.inr ⟨⟨nofun, nofun⟩,
        if ans.out.lingers then .Starting else .NotRunning, ?_, ?_⟩)
      · split <;> nofun
      · rw [if_neg fun h => Bool.noConfusion h.2, addInterface, htunnel, if_neg fun h => h rfl,
          hstarted]
        rfl

theorem bringUp_service : (bringUp q config ans s).wg.service = s.wg.service := by
  rcases bringUp_cases q config ans s with ⟨-, h⟩ | ⟨-, h⟩ | ⟨-, t, -, h⟩ <;> rw [h]
  · rw [addPeer_wg]
  · rfl

/-- The kill switch is lifted exactly when there is a process to stop. -/
theorem deleteInterface_service (w : WgState) :
    (deleteInterface q w).2.service =
      if w.tunnel = .NotRunning then w.service else KillSwitch.disableKillSwitch q w.service := by
  unfold deleteInterface
  split <;> rfl

variable (next : Option InterfaceConfig)

theorem finishDeactivate_service :
    (finishDeactivate q next ans s).wg.service = (deleteInterface q s.wg).2.service := by
  unfold finishDeactivate
  cases next with
  | none => rfl
  | some config =>
    dsimp only
    split
    · exact bringUp_service ..
    · rfl

@[simp]
theorem bringUp_connections : (bringUp q config ans s).connections = s.connections := by
  rcases bringUp_cases q config ans s with ⟨-, h⟩ | ⟨-, h⟩ | ⟨-, t, -, h⟩ <;> rw [h]
  · exact addPeer_connections ..
  · rfl

theorem finishDeactivate_connections :
    (finishDeactivate q next ans s).connections = fun _ => none := by
  unfold finishDeactivate
  cases next with
  | none => rfl
  | some config =>
    dsimp only
    split
    · exact bringUp_connections ..
    · rfl

/-- What a step does to the service when it is no call and applies no rules: nothing, or it lifts
the kill switch and leaves no connection. -/
def KeepsOrLifts (s s' : DaemonState) : Prop :=
  s'.wg.service = s.wg.service ∨
    (s'.connections = fun _ => none) ∧
      s'.wg.service = KillSwitch.disableKillSwitch q s.wg.service

theorem keepsOrLifts_finishDeactivate : KeepsOrLifts q s (finishDeactivate q next ans s) := by
  unfold KeepsOrLifts
  rw [finishDeactivate_service, deleteInterface_service]
  split
  · exact .inl rfl
  · exact .inr ⟨finishDeactivate_connections .., rfl⟩

theorem keepsOrLifts_deactivate : KeepsOrLifts q s (deactivate q next ans s) := by
  unfold deactivate
  split
  · exact .inl rfl
  split
  · exact .inl rfl
  · exact keepsOrLifts_finishDeactivate ..

theorem keepsOrLifts_activate : KeepsOrLifts q s (activate q config ans s) := by
  unfold activate
  split
  · split
    · exact .inl rfl
    · exact keepsOrLifts_deactivate ..
  · exact .inl (bringUp_service ..)

/-- An interface that is added changes no connection. -/
theorem resume_addInterface :
    (resume q ans s (.addInterface config)).wg = (finishInterface q config ans.out s.wg).2 ∧
      (resume q ans s (.addInterface config)).connections = s.connections := by
  unfold resume
  dsimp only
  split
  · rw [addPeer_wg, addPeer_connections]
    exact ⟨rfl, rfl⟩
  · exact ⟨rfl, rfl⟩

/-- An interface that is added gets its rules when the kill switch is on and it is configured. -/
theorem resume_addInterface_service :
    (resume q ans s (.addInterface config)).wg.service =
      if ans.out.configured && config.killSwitchEnabled then applyConfig q config s.wg.service
      else s.wg.service := by
  rw [(resume_addInterface ..).1, ← finishInterface_fst q config ans.out s.wg]
  rcases finishInterface_eq (Prod.mk.eta (p := finishInterface q config ans.out s.wg)).symm with
    ⟨hok, -, hservice⟩ | ⟨hok, -, hservice⟩
  · rw [hok, hservice, Bool.true_and]
  · rw [hok, hservice, Bool.false_and]
    rfl

variable {frame : Frame} {waiting : List Frame}

/-- Every other request that goes on keeps the service or lifts the kill switch. -/
theorem keepsOrLifts_resume (hframe : ∀ config, frame ≠ .addInterface config) :
    KeepsOrLifts q s (resume q ans s frame) := by
  unfold resume
  cases frame with
  | addInterface config => exact absurd rfl (hframe config)
  | updatePeer config | deletePeer config =>
    dsimp only
    split <;> exact .inl rfl
  | switchPeer config lastConfig =>
    dsimp only
    split
    · exact .inl rfl
    · split <;> exact .inl rfl
  | deactivate next => exact keepsOrLifts_finishDeactivate ..

theorem step_answer_cons (hwaiting : s.waiting = frame :: waiting) :
    step q s (.answer ans) = resume q ans { s with waiting := waiting } frame := by
  unfold step answer
  rw [hwaiting]

/-- An answer that adds no interface applies no rules. -/
theorem appliedConfig_answer_of_ne (hwaiting : s.waiting = frame :: waiting)
    (hframe : ∀ config, frame ≠ .addInterface config) : appliedConfig s (.answer ans) = none := by
  unfold appliedConfig
  rw [hwaiting]
  cases frame with
  | addInterface config => exact absurd rfl (hframe config)
  | _ => rfl

/-- What an event can do to the kill switch and its firewall. -/
theorem step_service (e : Event) :
    (∃ config, appliedConfig s e = some config ∧
        (step q s e).wg.service = applyConfig q config s.wg.service) ∨
      (∃ c, e = .call c ∧ (step q s e).wg.service = Call.run q s.wg.service c) ∨
      appliedConfig s e = none ∧ (∀ c, e ≠ .call c) ∧ KeepsOrLifts q s (step q s e) := by
  cases e with
  | activate config ans =>
    exact .inr (.inr ⟨rfl, fun _ h => Event.noConfusion h, keepsOrLifts_activate ..⟩)
  | deactivate ans =>
    exact .inr (.inr ⟨rfl, fun _ h => Event.noConfusion h, keepsOrLifts_deactivate ..⟩)
  | exit => exact .inr (.inr ⟨rfl, fun _ h => Event.noConfusion h, .inl rfl⟩)
  | call c => exact .inr (.inl ⟨c, rfl, rfl⟩)
  | answer ans =>
    have hcall : ∀ c, Event.answer ans ≠ .call c := fun _ h => Event.noConfusion h
    cases hwaiting : s.waiting with
    | nil =>
      have hsame : step q s (.answer ans) = s := by
        unfold step answer
        rw [hwaiting]
      have hnone : appliedConfig s (.answer ans) = none := by
        unfold appliedConfig
        rw [hwaiting]
      exact .inr (.inr ⟨hnone, hcall, .inl (by rw [hsame])⟩)
    | cons frame waiting =>
      rw [step_answer_cons q ans s hwaiting]
      by_cases hframe : ∃ config, frame = .addInterface config
      · obtain ⟨config, rfl⟩ := hframe
        have hservice := resume_addInterface_service q config ans { s with waiting := waiting }
        have happ : appliedConfig s (.answer ans) =
            if ans.out.configured && config.killSwitchEnabled then some config else none := by
          unfold appliedConfig
          rw [hwaiting]
        rw [happ]
        cases hconf : ans.out.configured && config.killSwitchEnabled with
        | true =>
          rw [hconf] at hservice
          exact .inl ⟨config, rfl, hservice⟩
        | false =>
          rw [hconf] at hservice
          exact .inr (.inr ⟨rfl, hcall, .inl hservice⟩)
      · have hne : ∀ config, frame ≠ .addInterface config := fun config h => hframe ⟨config, h⟩
        exact .inr (.inr ⟨appliedConfig_answer_of_ne ans s hwaiting hne, hcall,
          keepsOrLifts_resume q ans { s with waiting := waiting } hne⟩)

/-! ## Which interfaces may yet be added -/

/-- The configurations of interfaces that waiting requests may yet add. -/
def pendingConfigs (s : DaemonState) : List InterfaceConfig := s.waiting.filterMap Frame.pending

end Steps

section Pending

variable {q} {config c : InterfaceConfig} {ans : Answer} {s : DaemonState}
  {frame : Frame} {next : Option InterfaceConfig} {e : Event}

theorem mem_pendingConfigs_wait (h : c ∈ pendingConfigs (wait frame s)) :
    frame.pending = some c ∨ c ∈ pendingConfigs s := by
  unfold pendingConfigs wait at h
  rw [filterMap_cons] at h
  cases hp : frame.pending with
  | none =>
    rw [hp] at h
    exact .inr h
  | some c' =>
    rw [hp] at h
    rcases mem_cons.mp h with rfl | h
    · exact .inl rfl
    · exact .inr h

theorem mem_pendingConfigs_bringUp (h : c ∈ pendingConfigs (bringUp q config ans s)) :
    config = c ∨ c ∈ pendingConfigs s := by
  rcases bringUp_cases q config ans s with ⟨-, hb⟩ | ⟨-, hb⟩ | ⟨-, t, -, hb⟩ <;> rw [hb] at h
  · unfold addPeer at h
    split at h
    · exact (mem_pendingConfigs_wait h).imp_left fun h => nomatch h
    · exact .inr h
  · exact (mem_pendingConfigs_wait h).imp_left Option.some.inj
  · exact .inr h

theorem mem_pendingConfigs_finishDeactivate
    (h : c ∈ pendingConfigs (finishDeactivate q next ans s)) :
    next = some c ∨ c ∈ pendingConfigs s := by
  unfold finishDeactivate at h
  cases next with
  | none => exact .inr h
  | some config =>
    dsimp only at h
    split at h
    · exact (mem_pendingConfigs_bringUp h).imp_left (congrArg some)
    · exact .inr h

theorem mem_pendingConfigs_deactivate (h : c ∈ pendingConfigs (deactivate q next ans s)) :
    next = some c ∨ c ∈ pendingConfigs s := by
  unfold deactivate at h
  split at h
  · exact .inr h
  split at h
  · exact mem_pendingConfigs_wait h
  · exact mem_pendingConfigs_finishDeactivate h

theorem mem_pendingConfigs_resume (h : c ∈ pendingConfigs (resume q ans s frame)) :
    frame.pending = some c ∨ c ∈ pendingConfigs s := by
  unfold resume at h
  cases frame with
  | addInterface config =>
    dsimp only at h
    split at h
    · unfold addPeer at h
      split at h
      · exact (mem_pendingConfigs_wait h).imp_left fun h => nomatch h
      · exact .inr h
    · exact .inr h
  | updatePeer config | deletePeer config =>
    dsimp only at h
    split at h <;> exact .inr h
  | switchPeer config lastConfig =>
    dsimp only at h
    split at h
    · exact .inr h
    split at h
    · exact (mem_pendingConfigs_wait h).imp_left fun h => nomatch h
    · exact .inr h
  | deactivate next => exact mem_pendingConfigs_finishDeactivate h

/-- Only a request to activate brings a new configuration. -/
theorem mem_pendingConfigs_step (h : c ∈ pendingConfigs (step q s e)) :
    (∃ ans, e = .activate c ans) ∨ c ∈ pendingConfigs s := by
  cases e with
  | activate config ans =>
    unfold step activate at h
    dsimp only at h
    split at h
    · split at h
      · exact (mem_pendingConfigs_wait h).imp_left fun h => nomatch h
      · rcases mem_pendingConfigs_deactivate h with h | h
        · exact .inl ⟨ans, by rw [Option.some.inj h]⟩
        · exact .inr h
    · rcases mem_pendingConfigs_bringUp h with rfl | h
      · exact .inl ⟨ans, rfl⟩
      · exact .inr h
  | deactivate ans =>
    exact (mem_pendingConfigs_deactivate h).imp_left fun h => nomatch h
  | answer ans =>
    unfold step answer at h
    cases hwaiting : s.waiting with
    | nil =>
      rw [hwaiting] at h
      exact .inr h
    | cons frame waiting =>
      rw [hwaiting] at h
      have hmem : c ∈ (frame :: waiting).filterMap Frame.pending := by
        rcases mem_pendingConfigs_resume h with h | h
        · exact mem_filterMap.mpr ⟨frame, mem_cons_self, h⟩
        · obtain ⟨frame', hframe', hp⟩ := mem_filterMap.mp h
          exact mem_filterMap.mpr ⟨frame', mem_cons_of_mem _ hframe', hp⟩
      rw [← hwaiting] at hmem
      exact .inr hmem
  | exit | call c => exact .inr h

/-- Rules are applied with the answer for an interface that was to be added. -/
theorem eq_answer_of_applied (h : appliedConfig s e = some config) :
    ∃ ans waiting, e = .answer ans ∧ s.waiting = .addInterface config :: waiting ∧
      ans.out.configured = true := by
  unfold appliedConfig at h
  cases e with
  | answer ans =>
    dsimp only at h
    split at h
    · next config' waiting hwaiting =>
      split at h
      · next hconf =>
        obtain rfl := Option.some.inj h
        exact ⟨ans, waiting, rfl, hwaiting, ((Bool.and_eq_true _ _).mp hconf).1⟩
      · cases h
    · cases h
  | _ => cases h

theorem mem_pendingConfigs_of_applied (h : appliedConfig s e = some c) : c ∈ pendingConfigs s := by
  obtain ⟨ans, waiting, -, hwaiting, -⟩ := eq_answer_of_applied h
  refine mem_filterMap.mpr ⟨.addInterface c, ?_, rfl⟩
  rw [hwaiting]
  exact mem_cons_self

end Pending

/-! ## The firewall along a run -/

section Runs

variable {q}

/-- The filter tables are as some settings say. -/
def InOrder (q : Platform) (s : DaemonState) : Prop := ∃ o, Holds q s.wg.service.fw o

/-- An event keeps the tables in order. -/
theorem InOrder.step {s : DaemonState} (h : InOrder q s) (e : Event) : InOrder q (step q s e) := by
  obtain ⟨o, ho⟩ := h
  unfold InOrder
  rcases step_service q s e with ⟨config, -, h⟩ | ⟨c, -, h⟩ | ⟨-, -, h | ⟨-, h⟩⟩ <;> rw [h]
  · exact ⟨_, holds_applyFirewallRules ho _⟩
  · exact Call.exists_holds ho c
  · exact ⟨o, ho⟩
  · exact ⟨_, holds_disableKillSwitch ho⟩

/-- Every run keeps the tables in order, from tables the program has not touched. -/
theorem inOrder_runEvents (host : Family → (t : Table) → Host t) {start : FwState}
    (hstart : ∀ f, start.kernel f .filter = (host f .filter).rs) (strict : Bool)
    (es : List Event) : InOrder q (runEvents q start strict es) := by
  have hinit : InOrder q (init q start strict) :=
    exists_holds_init (holds_none host hstart) strict
  have hstep : ∀ s e, InOrder q s → InOrder q (LinuxDaemon.step q s e) := fun _ e h => h.step e
  exact Trace.run_invariant hstep hinit es

end Runs

end LinuxDaemon

end Dopamine.Linux
