import Dopamine.Android.AmneziaVpnService

/-!
# The last request to the service

The last request of the user should win: when no job is left, the tunnel is up if this request was
to connect, with its config, and a tunnel that is down after a request to disconnect stays down.

This holds as long as requests are made when no job is left (`Orderly`), and a status job does not
store what it has read of a tunnel that was stopped. At most one job is at work then, and `Expected`
says what holds at each of its tasks. It is a server switch, with the config that waits in
`pendingVpnConfig`, in which a request to disconnect gets lost (`last_request_overtaken`).
-/

namespace Dopamine.Android.AmneziaVpnService

open List Option Bool Function Trace

variable {κ : Type}

/-! ## Jobs -/

/-- A job that does nothing any more. -/
def Job.Inert (j : Job κ) : Prop := j.task = .done ∨ j.task = .leave

theorem Job.Inert.not_awaiting {j : Job κ} (h : Job.Inert j) : j.task ≠ .awaitDisconnected := by
  rcases h with h | h <;> rw [h] <;> exact fun h => nomatch h

/-- All jobs do nothing any more. -/
def AllInert (jobs : List (Job κ)) : Prop := ∀ (k : ℕ) (j : Job κ), jobs[k]? = some j → Job.Inert j

/-- Only this job does something, and it is not cancelled. -/
def OnlyJob (jobs : List (Job κ)) (job : ℕ) (t : JobTask κ) : Prop :=
  jobs[job]? = some ⟨t, false⟩ ∧ ∀ (k : ℕ) (j : Job κ), k ≠ job → jobs[k]? = some j → Job.Inert j

section Jobs

variable {s : AmneziaVpnService κ} {job k : ℕ} {t t' : JobTask κ} {jobs : List (Job κ)}
  {f : Job κ → Job κ}

theorem OnlyJob.goTo (h : OnlyJob s.jobs job t) : OnlyJob (s.goTo job t').jobs job t' := by
  refine ⟨by rw [AmneziaVpnService.goTo, getElem?_modify_eq, h.1]; rfl,
    fun k j hk hj => h.2 k j hk ?_⟩
  rwa [AmneziaVpnService.goTo, getElem?_modify_ne _ _ hk.symm] at hj

theorem OnlyJob.goTo_inert (h : OnlyJob s.jobs job t) (hinert : t' = .done ∨ t' = .leave) :
    AllInert (s.goTo job t').jobs := by
  intro k j hj
  rcases eq_or_ne k job with rfl | hk
  · rw [AmneziaVpnService.goTo, getElem?_modify_eq, h.1] at hj
    rw [← some.inj hj]
    exact hinert
  · rw [AmneziaVpnService.goTo, getElem?_modify_ne _ _ hk.symm] at hj
    exact h.2 k j hk hj

theorem OnlyJob.modify (h : OnlyJob jobs job t) (hk : k ≠ job)
    (hf : ∀ j, Job.Inert j → Job.Inert (f j)) : OnlyJob (jobs.modify k f) job t := by
  refine ⟨(getElem?_modify_ne _ _ hk).trans h.1, fun i j hi hj => ?_⟩
  rw [getElem?_modify] at hj
  obtain ⟨j', hj', rfl⟩ := map_eq_some_iff.mp hj
  have hinert := h.2 i j' hi hj'
  split_ifs
  · exact hf j' hinert
  · exact hinert

theorem OnlyJob.goTo_other (h : OnlyJob s.jobs job t) (hk : k ≠ job) :
    OnlyJob (s.goTo k .done).jobs job t :=
  h.modify hk fun _ _ => .inl rfl

theorem AllInert.goTo_done (h : AllInert s.jobs) : AllInert (s.goTo k .done).jobs := by
  intro i j hj
  rw [AmneziaVpnService.goTo, getElem?_modify] at hj
  obtain ⟨j', hj', rfl⟩ := map_eq_some_iff.mp hj
  split_ifs
  · exact .inl rfl
  · exact h i j' hj'

theorem OnlyJob.cancel (h : OnlyJob s.jobs job t) (hk : k ≠ job) :
    OnlyJob (s.cancel (some k)).jobs job t :=
  h.modify hk fun _ hj => hj

theorem AllInert.launch (h : AllInert s.jobs) : OnlyJob (s.launch t).jobs s.jobs.length t := by
  refine ⟨by simp [AmneziaVpnService.launch], fun k j hk hj => h k j ?_⟩
  rw [AmneziaVpnService.launch, getElem?_append] at hj
  split_ifs at hj with hlt
  · exact hj
  · have hnone : [(⟨t, false⟩ : Job κ)][k - s.jobs.length]? = none := by
      rw [getElem?_eq_none_iff, length_singleton]
      omega
    rw [hnone] at hj
    cases hj

theorem OnlyJob.not_settled (h : OnlyJob s.jobs job t) (ht : t.isDone = false) : ¬ s.Settled :=
  fun hs => by
    have hdone := hs _ (mem_of_getElem? h.1)
    rw [ht] at hdone
    cases hdone

end Jobs

/-! ## What holds at each task -/

/-- No tunnel is up, and no status job has anything to say. -/
structure Down (tunnels : ProtocolObject → ProtocolTunnel κ) (reports : List ProtocolState) :
    Prop where
  running : ∀ o, (tunnels o).running = none
  isRunning : ∀ o, (tunnels o).isRunning = false
  statusJob : ∀ o, (tunnels o).statusJob = false
  reports : reports = []

/-- The tunnel of the config is the only one that is up. -/
structure Up (tunnels : ProtocolObject → ProtocolTunnel κ) (reports : List ProtocolState)
    (config : κ) (o : ProtocolObject) : Prop where
  running : (tunnels o).running = some config
  isInitialized : (tunnels o).isInitialized = true
  others : ∀ o', o' ≠ o → (tunnels o').running = none ∧ (tunnels o').isRunning = false ∧
    (tunnels o').statusJob = false
  reports : ∀ state ∈ reports, state = .connected

section Expected

variable (proto : κ → Option VpnProto) (s : AmneziaVpnService κ)

/-- The protocol of the config is the current one, and its tunnel is the only one that is up. -/
def Runs (config : κ) (p : VpnProto) : Prop :=
  s.vpnProto = some p ∧ proto config = some p ∧ Up s.tunnels s.reports config p.protocol

/-- The config for reconnecting is the one of the tunnel. -/
def Saved (config : κ) (p : VpnProto) : Prop :=
  p.protocol ≠ .xray → (s.tunnels p.protocol).config = some config

/-- A request to connect is under way, or was carried out. -/
def Wanted (config : κ) : Prop :=
  s.last = some config ∧ s.pendingVpnConfig = none ∧ s.stopping = false

/-- What waits is the last request, and its config can be started. -/
def Target : Prop :=
  s.last = s.pendingVpnConfig ∧ ∀ config, s.pendingVpnConfig = some config →
    (proto config).isSome ∧ s.isServiceBound = true ∧ s.stopping = false

/-- The tunnel goes down. -/
def Tearing : Prop :=
  (∃ config p, Runs proto s config p) ∧ Target proto s ∧
    (s.protocolState = .disconnecting ∨ s.protocolState = .connected) ∧ s.stopping = false

/-- The tunnel is down. -/
def Torn : Prop := Down s.tunnels s.reports ∧ s.protocolState = .disconnected ∧ Target proto s

/-- A config that waited is about to be started. -/
def Switching (config : κ) : Prop :=
  Down s.tunnels s.reports ∧ s.protocolState = .disconnected ∧ s.last = some config ∧
    (proto config).isSome ∧ s.isServiceBound = true ∧ s.stopping = false

/-- What holds while the job is at the task, and no other job does anything. -/
def Expected (job : ℕ) : JobTask κ → Prop
  | .joinDisconnection config | .awaitDisconnection config _ | .clearDisconnection config
  | .startVpn config =>
      Down s.tunnels s.reports ∧ Wanted s config ∧ s.protocolState = .connecting ∧
        ∃ p, s.vpnProto = some p ∧ proto config = some p
  | .saveStart o config =>
      ∃ p, p.protocol = o ∧ Runs proto s config p ∧ Wanted s config ∧
        (s.protocolState = .connecting ∨ s.protocolState = .connected)
  | .reconnectVpn =>
      ∃ config p, Runs proto s config p ∧ Saved s config p ∧ Wanted s config ∧
        (s.protocolState = .reconnecting ∨ s.protocolState = .connected)
  | .cancelConnection => Tearing proto s ∧ ∀ other, s.connectionJob = some other → other ≠ job
  | .awaitConnection _ | .clearConnection | .stopVpn => Tearing proto s
  | .awaitDisconnected | .readPending => Torn proto s
  | .clearPending config => Switching proto s config ∧ s.pendingVpnConfig = some config
  | .connectPending config => Switching proto s config ∧ s.pendingVpnConfig = none
  | .leave | .done => False

/-- No tunnel is up, as it should be. -/
def IdleDown : Prop :=
  Down s.tunnels s.reports ∧ (s.protocolState = .unknown ∨ s.protocolState = .disconnected) ∧
    s.last = none ∧ s.pendingVpnConfig = none

/-- The tunnel is up, as it should be. -/
def IdleUp (config : κ) (p : VpnProto) : Prop :=
  Runs proto s config p ∧ Saved s config p ∧ Wanted s config ∧
    (s.protocolState = .connecting ∨ s.protocolState = .connected ∨
      s.protocolState = .reconnecting)

/-- What holds in an orderly run: no job does anything, or a single one does what is expected. -/
def Stage : Prop :=
  (AllInert s.jobs ∧ (IdleDown s ∨ ∃ config p, IdleUp proto s config p)) ∨
    ∃ job t, OnlyJob s.jobs job t ∧ Expected proto s job t

/-- The connection job, if there is one, was launched. -/
def Launched : Prop := ∀ other, s.connectionJob = some other → other < s.jobs.length

end Expected

section Tunnels

variable {proto : κ → Option VpnProto} {tunnels : ProtocolObject → ProtocolTunnel κ}
  {reports : List ProtocolState} {config : κ} {o : ProtocolObject} {t : ProtocolTunnel κ}

/-- The tunnel is down, and its status job is not at work. -/
def Idle (t : ProtocolTunnel κ) : Prop :=
  t.running = none ∧ t.isRunning = false ∧ t.statusJob = false

theorem Down.idle (h : Down tunnels reports) (o : ProtocolObject) : Idle (tunnels o) :=
  ⟨h.running o, h.isRunning o, h.statusJob o⟩

theorem up_update (hothers : ∀ o', o' ≠ o → Idle (tunnels o'))
    (hreports : ∀ state ∈ reports, state = .connected) (hrunning : t.running = some config)
    (hinitialized : t.isInitialized = true) : Up (update tunnels o t) reports config o where
  running := by rw [update_self]; exact hrunning
  isInitialized := by rw [update_self]; exact hinitialized
  others o' ho' := by rw [update_of_ne ho']; exact hothers o' ho'
  reports := hreports

theorem Down.up (h : Down tunnels reports) (hrunning : t.running = some config)
    (hinitialized : t.isInitialized = true) : Up (update tunnels o t) reports config o := by
  refine up_update (fun o' _ => h.idle o') (fun state hstate => ?_) hrunning hinitialized
  rw [h.reports] at hstate
  cases hstate

theorem Up.update (h : Up tunnels reports config o) :
    t.running = some config → t.isInitialized = true → Up (update tunnels o t) reports config o :=
  up_update h.others h.reports

theorem Up.update_other {o' : ProtocolObject} (h : Up tunnels reports config o) (hne : o' ≠ o)
    (ht : Idle t) : Up (Function.update tunnels o' t) reports config o where
  running := by rw [update_of_ne hne.symm]; exact h.running
  isInitialized := by rw [update_of_ne hne.symm]; exact h.isInitialized
  others o'' ho'' := by
    rcases eq_or_ne o'' o' with rfl | hne'
    · rw [update_self]
      exact ht
    · rw [update_of_ne hne']
      exact h.others o'' ho''
  reports := h.reports

theorem down_update (hothers : ∀ o', o' ≠ o → Idle (tunnels o')) (ht : Idle t)
    (hreports : reports = []) : Down (update tunnels o t) reports := by
  have hother : ∀ o', Idle (update tunnels o t o') := by
    intro o'
    rcases eq_or_ne o' o with rfl | ho'
    · rwa [update_self]
    · rw [update_of_ne ho']
      exact hothers o' ho'
  exact ⟨fun o' => (hother o').1, fun o' => (hother o').2.1, fun o' => (hother o').2.2, hreports⟩

end Tunnels

/-! ## Orderly events -/

section Orderly

variable (proto : κ → Option VpnProto)

/-- The task is one of `disconnect`, before it has read the config that waits. -/
def JobTask.tearsDown : JobTask κ → Bool
  | .cancelConnection | .awaitConnection _ | .clearConnection | .stopVpn | .awaitDisconnected
  | .readPending => true
  | _ => false

/-- The tunnel goes down or is down, and no config waits. -/
def GoesDown (s : AmneziaVpnService κ) : Prop :=
  s.pendingVpnConfig = none ∧
    (s.protocolState = .disconnecting ∨ s.protocolState = .disconnected) ∧
    ∀ j ∈ s.jobs, (JobTask.tearsDown j.task || j.task.isDone) = true

/-- The condition on an event. Requests are made when no job is left; to disconnect again is fine
while the tunnel goes down. A request to connect has a config that can be read and the permission,
the service is not about to stop or reconnecting, and it is bound if another tunnel is replaced.
Starting a tunnel succeeds. A status job stores nothing after the tunnel was stopped, and one that
was cancelled reads nothing. -/
def Orderly (s : AmneziaVpnService κ) : ServiceEvent κ → Prop
  | .connect vpnConfig granted =>
      s.Settled ∧ s.stopping = false ∧ s.protocolState ≠ .reconnecting ∧ granted = true ∧
        (proto (vpnConfig.getD s.lastConf)).isSome ∧
        (s.protocolState = .connecting ∨ s.protocolState = .connected → s.isServiceBound = true)
  | .disconnect => s.Settled ∨ GoesDown s
  | .reconnect => s.Settled ∨ s.protocolState ≠ .connected
  | .run job outcome granted =>
      outcome = .started ∧ granted = true ∧
        (s.jobs[job]?.map Job.task = some .stopVpn → s.reports = [])
  | .endStatus _ reads => reads = false
  | _ => True

end Orderly

/-! ## Steps -/

section Steps

variable {proto : κ → Option VpnProto} {s : AmneziaVpnService κ} {job : ℕ} {t t' : JobTask κ}

/-- What holds in an orderly run. -/
def Inv (proto : κ → Option VpnProto) (s : AmneziaVpnService κ) : Prop := Launched s ∧ Stage proto s

theorem Launched.goTo (h : Launched s) : Launched (s.goTo job t) := by
  intro other hother
  rw [AmneziaVpnService.goTo, length_modify]
  exact h other hother

theorem Launched.cancel (h : Launched s) : Launched (s.cancel (some job)) := by
  intro other hother
  rw [AmneziaVpnService.cancel, length_modify]
  exact h other hother

theorem Launched.launch (h : Launched s) : Launched (s.launch t) := by
  intro other hother
  rw [AmneziaVpnService.launch, length_append]
  exact Nat.lt_add_right _ (h other hother)

variable {outcome : StartOutcome} {granted : Bool} {k : ℕ} {config : κ} {o : ProtocolObject}

/-- A job that was done or is about to end goes on. -/
theorem inv_runJob_inert {j : Job κ} (h : Inv proto s) (hj : s.jobs[k]? = some j)
    (hinert : Job.Inert j) : Inv proto (s.runJob proto k outcome granted) := by
  have hrun : s.runJob proto k outcome granted = s ∨
      s.runJob proto k outcome granted = s.goTo k .done := by
    rw [runJob, hj]
    rcases hinert with htask | htask <;> simp [htask, JobTask.suspends, runTask]
  rcases hrun with hrun | hrun
  · rw [hrun]
    exact h
  · rw [hrun]
    refine ⟨h.1.goTo, ?_⟩
    rcases h.2 with ⟨hall, hidle⟩ | ⟨job, t, honly, hexpected⟩
    · exact .inl ⟨hall.goTo_done, hidle⟩
    · have hne : k ≠ job := by
        rintro rfl
        rw [honly.1] at hj
        rw [← some.inj hj] at hinert
        rcases hinert with rfl | rfl <;> exact hexpected
      exact .inr ⟨job, t, honly.goTo_other hne, by cases t <;> exact hexpected⟩

/-- What holds at the tasks of a job, whichever it is: a tunnel is started, is up, goes down, is
down, or a config that waited is about to be started. -/
theorem Expected.stages (h : Expected proto s job t) :
    (Down s.tunnels s.reports ∧ s.protocolState = .connecting ∧ ∃ config, Wanted s config) ∨
      (∃ config p, Runs proto s config p ∧ Wanted s config ∧ s.protocolState ≠ .disconnected) ∨
      Tearing proto s ∨ (Torn proto s ∧ (t = .awaitDisconnected ∨ t = .readPending)) ∨
      ∃ config, Switching proto s config := by
  cases t with
  | joinDisconnection config | awaitDisconnection config | clearDisconnection config
  | startVpn config => exact .inl ⟨h.1, h.2.2.1, config, h.2.1⟩
  | saveStart o config =>
    obtain ⟨p, -, hruns, hwanted, hstate⟩ := h
    refine .inr (.inl ⟨config, p, hruns, hwanted, ?_⟩)
    rcases hstate with hstate | hstate <;> rw [hstate] <;> decide
  | reconnectVpn =>
    obtain ⟨config, p, hruns, -, hwanted, hstate⟩ := h
    refine .inr (.inl ⟨config, p, hruns, hwanted, ?_⟩)
    rcases hstate with hstate | hstate <;> rw [hstate] <;> decide
  | cancelConnection => exact .inr (.inr (.inl h.1))
  | awaitConnection | clearConnection | stopVpn => exact .inr (.inr (.inl h))
  | awaitDisconnected => exact .inr (.inr (.inr (.inl ⟨h, .inl rfl⟩)))
  | readPending => exact .inr (.inr (.inr (.inl ⟨h, .inr rfl⟩)))
  | clearPending config | connectPending config => exact .inr (.inr (.inr (.inr ⟨config, h.1⟩)))
  | leave | done => exact h.elim

/-- A job that is at work is not done. -/
theorem not_settled (honly : OnlyJob s.jobs job t) (h : Expected proto s job t) : ¬ s.Settled := by
  refine honly.not_settled ?_
  cases t <;> first | rfl | exact h.elim

/-- A tunnel is started when no other one is up. -/
theorem inv_connectToVpn (hinert : AllInert s.jobs) (hdown : Down s.tunnels s.reports)
    (hwanted : Wanted s config)
    (hstate : ¬(s.protocolState = .connected ∨ s.protocolState = .connecting))
    (hproto : (proto config).isSome) : Inv proto (s.connectToVpn proto config true) := by
  obtain ⟨p, hp⟩ := isSome_iff_exists.mp hproto
  rw [connectToVpn, if_neg hstate, hp]
  dsimp only
  rw [if_pos rfl]
  refine ⟨?_, .inr ⟨s.jobs.length, _, hinert.launch, hdown, hwanted, rfl, p, rfl, hp⟩⟩
  intro other hother
  rw [← some.inj hother]
  simp [launch]

/-- `initialize` leaves the tunnels down. -/
theorem Down.initializeProtocol (h : Down s.tunnels s.reports) (o : ProtocolObject) :
    Down (s.initializeProtocol o).tunnels (s.initializeProtocol o).reports :=
  down_update (fun o' _ => h.idle o') ⟨h.running o, h.isRunning o, rfl⟩ h.reports

section AtWork

variable (hl : Launched s) (honly : OnlyJob s.jobs job t)
include hl honly

/-- The job goes on to a task at which what holds is expected. -/
theorem inv_goTo (h : Expected proto s job t') : Inv proto (s.goTo job t') :=
  ⟨hl.goTo, .inr ⟨job, t', honly.goTo, by cases t' <;> exact h⟩⟩

/-! ### The job of `connectToVpn` -/

theorem inv_startVpn (h : Expected proto s job (.startVpn config)) :
    Inv proto (s.runTask proto job .started granted (.startVpn config)) := by
  obtain ⟨hdown, hwanted, hstate, p, hp, hproto⟩ := h
  rw [runTask, hp]
  dsimp only
  rw [if_pos rfl, startTunnel]
  have hdown' := hdown.initializeProtocol p.protocol
  have hinitialized : ((s.initializeProtocol p.protocol).tunnels p.protocol).isInitialized =
      true := by
    rw [initializeProtocol, setTunnel]
    simp only [update_self]
  have honly' : OnlyJob (s.initializeProtocol p.protocol).jobs job t := honly
  split_ifs with hxray hrunning
  · rw [hdown'.isRunning] at hrunning
    cases hrunning
  · refine ⟨hl.goTo, .inr ⟨job, _, honly'.goTo, p, rfl, ⟨hp, hproto, ?_⟩, hwanted, .inr rfl⟩⟩
    exact hdown'.up rfl hinitialized
  · refine ⟨hl.goTo, .inr ⟨job, _, honly'.goTo, p, rfl, ⟨hp, hproto, ?_⟩, hwanted, .inl hstate⟩⟩
    refine hdown'.up ?_ ?_
    · simp only [hdown'.running, isNone_none, if_true]
    · simp only [hdown'.running, isNone_none, if_true, hinitialized]

theorem inv_saveStart (h : Expected proto s job (.saveStart o config)) :
    Inv proto (s.runTask proto job outcome granted (.saveStart o config)) := by
  obtain ⟨p, rfl, ⟨hp, hproto, hup⟩, hwanted, hstate⟩ := h
  have honly' : OnlyJob (s.setTunnel p.protocol fun t =>
      if p.protocol = .xray then { t with isRunning := true }
      else { t with config := some config }).jobs job t := honly
  refine ⟨hl.goTo, .inl ⟨honly'.goTo_inert (.inl rfl), .inr ⟨config, p, ⟨hp, hproto, ?_⟩, ?_,
    hwanted, hstate.imp_right .inl⟩⟩⟩
  · refine hup.update ?_ ?_
    · split_ifs <;> exact hup.running
    · split_ifs <;> exact hup.isInitialized
  · intro hxray
    show (update s.tunnels p.protocol _ p.protocol).config = _
    rw [update_self, if_neg hxray]

/-! ### The job of `reconnect` -/

theorem inv_reconnectVpn (h : Expected proto s job .reconnectVpn) :
    Inv proto (s.runTask proto job .started granted .reconnectVpn) := by
  obtain ⟨config, p, ⟨hp, hproto, hup⟩, hsaved, hwanted, hstate⟩ := h
  have hinert : AllInert (s.goTo job .done).jobs := honly.goTo_inert (.inl rfl)
  rw [runTask, hp]
  dsimp only
  unfold reconnectTunnel
  by_cases hxray : p.protocol = .xray
  · rw [if_pos hxray]
    have hinitialized : ((s.goTo job .done).tunnels p.protocol).isInitialized = true :=
      hup.isInitialized
    rw [if_pos hinitialized]
    exact ⟨hl.goTo, .inl ⟨hinert, .inr ⟨config, p, ⟨hp, hproto, hup⟩, hsaved, hwanted,
      .inr (.inl rfl)⟩⟩⟩
  · have hconfig : ((s.goTo job .done).tunnels p.protocol).config = some config := hsaved hxray
    rw [if_neg hxray, hconfig]
    have hstate' : s.protocolState = .connecting ∨ s.protocolState = .connected ∨
        s.protocolState = .reconnecting :=
      hstate.elim (fun h => .inr (.inr h)) fun h => .inr (.inl h)
    refine ⟨hl.goTo, .inl ⟨hinert, .inr ⟨config, p, ⟨hp, hproto, ?_⟩, ?_, hwanted, hstate'⟩⟩⟩
    · exact hup.update rfl hup.isInitialized
    · intro _
      show (update s.tunnels p.protocol _ p.protocol).config = _
      rw [update_self]
      exact hconfig

/-! ### The job of `disconnect` -/

theorem inv_cancelConnection (h : Expected proto s job .cancelConnection) :
    Inv proto (s.runTask proto job outcome granted .cancelConnection) := by
  obtain ⟨htearing, hother⟩ := h
  rw [runTask]
  cases hjob : s.connectionJob with
  | none => exact inv_goTo hl honly htearing
  | some other => exact inv_goTo hl.cancel (honly.cancel (hother other hjob)) htearing

theorem inv_stopVpn (h : Expected proto s job .stopVpn) (hreports : s.reports = []) :
    Inv proto (s.runTask proto job outcome granted .stopVpn) := by
  obtain ⟨⟨config, p, hp, hproto, hup⟩, htarget, -, -⟩ := h
  rw [runTask, hp]
  dsimp only
  have hrunning : ¬(p.protocol ≠ .xray ∧ (s.tunnels p.protocol).running.isNone = true) := by
    rw [hup.running]
    exact fun h => false_ne_true h.2
  have hinitialized : ¬(p.protocol = .xray ∧ (s.tunnels p.protocol).isInitialized = false) := by
    rw [hup.isInitialized]
    exact fun h => false_ne_true h.2.symm
  rw [stopTunnel, if_neg hinitialized, if_neg hrunning]
  refine inv_goTo hl honly ⟨?_, rfl, htarget⟩
  exact down_update hup.others ⟨rfl, rfl, rfl⟩ hreports

theorem inv_readPending (h : Expected proto s job .readPending) :
    Inv proto (s.runTask proto job outcome granted .readPending) := by
  obtain ⟨hdown, hstate, hlast, hreadable⟩ := h
  rw [runTask]
  cases hpending : s.pendingVpnConfig with
  | none =>
    exact ⟨hl.goTo, .inl ⟨honly.goTo_inert (.inl rfl), .inl ⟨hdown, .inr hstate,
      hlast.trans hpending, hpending⟩⟩⟩
  | some config =>
    exact inv_goTo hl honly
      ⟨⟨hdown, hstate, hlast.trans hpending, hreadable config hpending⟩, hpending⟩

omit hl in
theorem inv_connectPending (h : Expected proto s job (.connectPending config)) :
    Inv proto (s.runTask proto job outcome true (.connectPending config)) := by
  obtain ⟨⟨hdown, hstate, hlast, hproto, -, hstopping⟩, hpending⟩ := h
  rw [runTask]
  have hnot : ¬((s.goTo job .leave).protocolState = .connected ∨
      (s.goTo job .leave).protocolState = .connecting) := by
    show ¬(s.protocolState = .connected ∨ s.protocolState = .connecting)
    rw [hstate]
    decide
  exact inv_connectToVpn (honly.goTo_inert (.inr rfl)) hdown ⟨hlast, hpending, hstopping⟩
    hnot hproto

/-- A step of the job that is at work. -/
theorem inv_runTask (h : Expected proto s job t) (hreports : t = .stopVpn → s.reports = []) :
    Inv proto (s.runTask proto job .started true t) := by
  have hsame : Inv proto s := ⟨hl, .inr ⟨job, t, honly, h⟩⟩
  cases t with
  | joinDisconnection config =>
    rw [runTask]
    cases s.disconnectionJob with
    | none => exact inv_goTo hl honly h
    | some other => exact inv_goTo hl honly h
  | awaitDisconnection | awaitConnection | awaitDisconnected =>
    rw [runTask]
    split_ifs
    · exact inv_goTo hl honly h
    · exact hsame
  | clearDisconnection config => exact inv_goTo hl honly h
  | startVpn config => exact inv_startVpn hl honly h
  | saveStart o config => exact inv_saveStart hl honly h
  | reconnectVpn => exact inv_reconnectVpn hl honly h
  | cancelConnection => exact inv_cancelConnection hl honly h
  | clearConnection =>
    refine ⟨fun other hother => ?_, .inr ⟨job, _, honly.goTo, h⟩⟩
    cases hother
  | stopVpn => exact inv_stopVpn hl honly h (hreports rfl)
  | readPending => exact inv_readPending hl honly h
  | clearPending config =>
    exact ⟨hl.goTo, .inr ⟨job, _, honly.goTo, h.1, rfl⟩⟩
  | connectPending config => exact inv_connectPending honly h
  | leave | done => exact h.elim

end AtWork

theorem inv_runJob (h : Inv proto s)
    (hreports : s.jobs[k]?.map Job.task = some .stopVpn → s.reports = []) :
    Inv proto (s.runJob proto k .started true) := by
  cases hj : s.jobs[k]? with
  | none =>
    rw [runJob, hj]
    exact h
  | some j =>
    rcases h.2 with ⟨hall, -⟩ | ⟨job, t, honly, hexpected⟩
    · exact inv_runJob_inert h hj (hall k j hj)
    · rcases eq_or_ne k job with rfl | hne
      · have hsame : j = ⟨t, false⟩ := some.inj (hj.symm.trans honly.1)
        subst hsame
        rw [runJob, hj]
        refine inv_runTask h.1 honly hexpected fun ht => hreports ?_
        rw [hj]
        exact congrArg some ht
      · exact inv_runJob_inert h hj (honly.2 k j hne hj)

/-! ### Other events -/

/-- The tunnel is torn down, with a config to be started afterwards or without one. -/
theorem inv_disconnect {config : κ} {p : VpnProto} (hl : Launched s) (hinert : AllInert s.jobs)
    (hruns : Runs proto s config p) (htarget : Target proto s) (hstopping : s.stopping = false)
    (hstate : s.protocolState = .connecting ∨ s.protocolState = .connected ∨
      s.protocolState = .reconnecting) :
    Inv proto s.disconnect := by
  have hup : ¬(s.protocolState = .unknown ∨ s.protocolState = .disconnected ∨
      s.protocolState = .disconnecting) := by
    rcases hstate with h | h | h <;> rw [h] <;> decide
  rw [disconnect, if_neg hup]
  refine ⟨hl.launch, .inr ⟨s.jobs.length, _, hinert.launch,
    ⟨⟨config, p, hruns⟩, htarget, .inl rfl, hstopping⟩, ?_⟩⟩
  intro other hother
  exact Nat.ne_of_lt (hl other hother)

theorem inv_connect {vpnConfig : Option κ} (h : Inv proto s)
    (horderly : Orderly proto s (.connect vpnConfig granted)) :
    Inv proto (s.connect proto vpnConfig granted) := by
  obtain ⟨hsettled, hstopping, hreconnecting, rfl, hproto, hbound⟩ := horderly
  rcases h.2 with ⟨hall, hidle⟩ | ⟨job, t, honly, hexpected⟩
  · rw [connect]
    rcases hidle with ⟨hdown, hstate, -, hpending⟩ | ⟨config, p, hruns, -, hwanted, hstate⟩
    · refine inv_connectToVpn hall hdown ⟨rfl, hpending, hstopping⟩ ?_ hproto
      rcases hstate with hstate | hstate <;> rw [hstate] <;> decide
    · have hup : s.protocolState = .connected ∨ s.protocolState = .connecting := by
        rcases hstate with h | h | h
        · exact .inr h
        · exact .inl h
        · exact absurd h hreconnecting
      rw [connectToVpn, if_pos hup]
      refine inv_disconnect h.1 hall hruns ⟨rfl, fun config hconfig => ?_⟩ hstopping hstate
      rw [← some.inj hconfig]
      exact ⟨hproto, hbound hup.symm, hstopping⟩
  · exact absurd hsettled (not_settled honly hexpected)

/-- A request to disconnect does nothing more. -/
theorem disconnect_of_state (h : s.protocolState = .unknown ∨ s.protocolState = .disconnected ∨
    s.protocolState = .disconnecting) : s.disconnect = s := if_pos h

theorem inv_step_disconnect (h : Inv proto s) (horderly : Orderly proto s .disconnect) :
    Inv proto (step proto s .disconnect) := by
  rw [step]
  rcases h.2 with ⟨hall, ⟨hdown, hstate, -, hpending⟩ | ⟨config, p, hruns, -, hwanted, hstate⟩⟩ |
    ⟨job, t, honly, hexpected⟩
  · have hsame : { s with last := none }.disconnect = { s with last := none } :=
      disconnect_of_state (hstate.imp_right .inl)
    rw [hsame]
    exact ⟨h.1, .inl ⟨hall, .inl ⟨hdown, hstate, rfl, hpending⟩⟩⟩
  · refine inv_disconnect h.1 hall hruns ⟨hwanted.2.1.symm, fun config hconfig => ?_⟩ hwanted.2.2
      hstate
    cases Eq.trans hconfig.symm hwanted.2.1
  · rcases horderly with hsettled | ⟨hpending, hstate, hjobs⟩
    · exact absurd hsettled (not_settled honly hexpected)
    · have hsame : { s with last := none }.disconnect = { s with last := none } :=
        disconnect_of_state (hstate.elim (fun h => .inr (.inr h)) fun h => .inr (.inl h))
      rw [hsame]
      have htarget : Target proto { s with last := none } :=
        ⟨hpending.symm, fun config hconfig =>
          (some_ne_none config (hconfig.symm.trans hpending)).elim⟩
      have htask := hjobs _ (mem_of_getElem? honly.1)
      refine ⟨h.1, .inr ⟨job, t, honly, ?_⟩⟩
      -- only the tasks of `disconnect` are possible here
      cases t with
      | cancelConnection =>
        exact ⟨⟨hexpected.1.1, htarget, hexpected.1.2.2⟩, hexpected.2⟩
      | awaitConnection | clearConnection | stopVpn =>
        exact ⟨hexpected.1, htarget, hexpected.2.2⟩
      | awaitDisconnected | readPending => exact ⟨hexpected.1, hexpected.2.1, htarget⟩
      | done => exact hexpected.elim
      | _ => cases htask

theorem inv_reconnect (h : Inv proto s) (horderly : Orderly proto s .reconnect) :
    Inv proto s.reconnect := by
  rw [reconnect]
  split_ifs with hconnected
  · have hsettled : s.Settled := horderly.resolve_right fun hne => hne hconnected
    rcases h.2 with ⟨hall, ⟨-, hstate, -, -⟩ | ⟨config, p, hruns, hsaved, hwanted, -⟩⟩ |
      ⟨job, t, honly, hexpected⟩
    · rw [hconnected] at hstate
      exact absurd hstate (by decide)
    · refine ⟨?_, .inr ⟨s.jobs.length, _, hall.launch, config, p, hruns, hsaved, hwanted, .inl rfl⟩⟩
      intro other hother
      rw [← some.inj hother]
      simp [launch]
    · exact absurd hsettled (not_settled honly hexpected)
  · exact h

/-- What holds of the tunnels: they are down, or one is up. -/
theorem Inv.tunnels (h : Inv proto s) :
    Down s.tunnels s.reports ∨ ∃ config p, Runs proto s config p := by
  rcases h.2 with ⟨-, hidle | ⟨config, p, hup⟩⟩ | ⟨job, t, -, hexpected⟩
  · exact .inl hidle.1
  · exact .inr ⟨config, p, hup.1⟩
  · rcases hexpected.stages with h | ⟨config, p, hruns, -⟩ | h | ⟨h, -⟩ | ⟨config, h⟩
    · exact .inl h.1
    · exact .inr ⟨config, p, hruns⟩
    · exact .inr h.1
    · exact .inl h.1
    · exact .inl h.1

/-- A status job changes what it knows of the tunnels, and the state of the protocol to connected if
one is up. -/
theorem inv_of_status {tunnels : ProtocolObject → ProtocolTunnel κ} {reports : List ProtocolState}
    {state : ProtocolState} (h : Inv proto s)
    (hdown : Down s.tunnels s.reports → Down tunnels reports ∧ state = s.protocolState)
    (hup : ∀ config o, Up s.tunnels s.reports config o → Up tunnels reports config o)
    (hconfig : ∀ o, (tunnels o).config = (s.tunnels o).config)
    (hstate : state = s.protocolState ∨ state = .connected) :
    Inv proto { s with tunnels := tunnels, reports := reports, protocolState := state } := by
  let s' := { s with tunnels := tunnels, reports := reports, protocolState := state }
  have hruns : ∀ {config p}, Runs proto s config p → Runs proto s' config p :=
    fun hruns => ⟨hruns.1, hruns.2.1, hup _ _ hruns.2.2⟩
  have hsaved : ∀ {config p}, Saved s config p → Saved s' config p :=
    fun hsaved hxray => (hconfig _).trans (hsaved hxray)
  have hkept : ∀ {old}, s.protocolState = old ∨ s.protocolState = .connected →
      state = old ∨ state = .connected :=
    fun hold => hstate.elim (fun h => h ▸ hold) .inr
  refine ⟨h.1, ?_⟩
  rcases h.2 with ⟨hall, hidle | ⟨config, p, hr, hs, hwanted, hold⟩⟩ | ⟨job, t, honly, hexpected⟩
  · obtain ⟨hdown', rfl⟩ := hdown hidle.1
    exact .inl ⟨hall, .inl ⟨hdown', hidle.2⟩⟩
  · refine .inl ⟨hall, .inr ⟨config, p, hruns hr, hsaved hs, hwanted, ?_⟩⟩
    rcases hstate with rfl | rfl
    · exact hold
    · exact .inr (.inl rfl)
  · refine .inr ⟨job, t, honly, ?_⟩
    have htearing : Tearing proto s → Tearing proto s' := by
      rintro ⟨⟨config, p, hr⟩, htarget, hold, hstopping⟩
      exact ⟨⟨config, p, hruns hr⟩, htarget, hkept hold, hstopping⟩
    cases t with
    | joinDisconnection | awaitDisconnection | clearDisconnection | startVpn | awaitDisconnected
    | readPending =>
      obtain ⟨hdown', rfl⟩ := hdown hexpected.1
      exact ⟨hdown', hexpected.2⟩
    | saveStart o config =>
      obtain ⟨p, ho, hr, hwanted, hold⟩ := hexpected
      exact ⟨p, ho, hruns hr, hwanted, hkept hold⟩
    | reconnectVpn =>
      obtain ⟨config, p, hr, hs, hwanted, hold⟩ := hexpected
      exact ⟨config, p, hruns hr, hsaved hs, hwanted, hkept hold⟩
    | cancelConnection => exact ⟨htearing hexpected.1, hexpected.2⟩
    | awaitConnection | clearConnection | stopVpn => exact htearing hexpected
    | clearPending | connectPending =>
      obtain ⟨hdown', rfl⟩ := hdown hexpected.1.1
      exact ⟨⟨hdown', hexpected.1.2⟩, hexpected.2⟩
    | leave | done => exact hexpected.elim

/-- What is not changed in one tunnel stays in all of them. -/
theorem apply_update {α : Type} {f : ProtocolTunnel κ → α} {t : ProtocolTunnel κ}
    (h : f t = f (s.tunnels o)) (o' : ProtocolObject) :
    f (update s.tunnels o t o') = f (s.tunnels o') := by
  rcases eq_or_ne o' o with rfl | hne
  · rw [update_self, h]
  · rw [update_of_ne hne]

theorem inv_readHandshake (h : Inv proto s) : Inv proto (step proto s (.readHandshake o)) := by
  rw [step]
  split_ifs with hstatus
  · refine inv_of_status (s := s) h (fun hdown => ?_) (fun config o' hup => ?_)
      (apply_update (f := ProtocolTunnel.config) rfl) (.inl rfl)
    · rw [hdown.statusJob] at hstatus
      cases hstatus
    · have ho : o = o' := by
        by_contra hne
        rw [(hup.others o hne).2.2] at hstatus
        cases hstatus
      subst ho
      have hup' := hup.update (t := { s.tunnels o with statusJob := false }) hup.running
        hup.isInitialized
      refine ⟨hup'.running, hup'.isInitialized, hup'.others, fun state hstate => ?_⟩
      rcases mem_append.mp hstate with hstate | hstate
      · exact hup.reports state hstate
      · exact mem_singleton.mp hstate
  · exact h

/-- A status job that was cancelled ends without reading. -/
theorem step_endStatus_false (o : ProtocolObject) :
    step proto s (.endStatus o false) =
      if (s.tunnels o).cancelledStatus = 0 then s
      else s.setTunnel o fun t => { t with cancelledStatus := t.cancelledStatus - 1 } := rfl

theorem inv_endStatus (h : Inv proto s) : Inv proto (step proto s (.endStatus o false)) := by
  rw [step_endStatus_false]
  split_ifs with hcancelled
  · exact h
  · refine inv_of_status (s := s) h (fun hdown => ⟨?_, rfl⟩) (fun config o' hup => ?_)
      (apply_update (f := ProtocolTunnel.config) rfl) (.inl rfl)
    · exact down_update (fun o' _ => hdown.idle o') (hdown.idle o) hdown.reports
    · rcases eq_or_ne o o' with rfl | hne
      · exact hup.update hup.running hup.isInitialized
      · exact hup.update_other hne (hup.others o hne)

theorem inv_report (h : Inv proto s) : Inv proto (step proto s .report) := by
  rw [step]
  cases hreports : s.reports with
  | nil => exact h
  | cons state reports =>
    have hnot : ¬ Down s.tunnels s.reports := by
      intro hdown
      rw [hdown.reports] at hreports
      cases hreports
    refine inv_of_status h (fun hdown => absurd hdown hnot) (fun config o hup => ?_) (fun _ => rfl)
      (.inr ?_)
    · exact ⟨hup.running, hup.isInitialized, hup.others, fun state' hstate' =>
        hup.reports state' (hreports ▸ mem_cons_of_mem _ hstate')⟩
    · rcases h.tunnels with hdown | ⟨config, p, hruns⟩
      · exact absurd hdown hnot
      · exact hruns.2.2.reports state (hreports ▸ mem_cons_self)

theorem inv_handleState (h : Inv proto s) : Inv proto (step proto s .handleState) := by
  rw [step]
  split_ifs with hstop
  · obtain ⟨hstate, hbound⟩ := hstop
    have htorn : Torn proto s → Torn proto { s with stopping := true } := by
      rintro ⟨hdown, hs, hlast, hreadable⟩
      refine ⟨hdown, hs, hlast, fun config hconfig => ?_⟩
      rw [(hreadable config hconfig).2.1] at hbound
      cases hbound
    refine ⟨h.1, ?_⟩
    rcases h.2 with ⟨hall, hidle | ⟨config, p, -, -, -, hs⟩⟩ | ⟨job, t, honly, hexpected⟩
    · exact .inl ⟨hall, .inl hidle⟩
    · rw [hstate] at hs
      exact absurd hs (by decide)
    · -- only a job whose tunnel is down goes on
      rcases hexpected.stages with ⟨-, hs, -⟩ | ⟨-, -, -, -, hs⟩ | ⟨-, -, hs, -⟩ |
        ⟨htorn', ht⟩ | ⟨-, -, -, -, -, hs, -⟩
      · cases hstate.symm.trans hs
      · exact absurd hstate hs
      · rw [hstate] at hs
        exact absurd hs (by decide)
      · refine .inr ⟨job, t, honly, ?_⟩
        rcases ht with rfl | rfl <;> exact htorn htorn'
      · rw [hs] at hbound
        cases hbound
  · exact h

/-- The service stops only if the last request was not to connect. -/
theorem Inv.last_of_stopping (h : Inv proto s) (hstopping : s.stopping = true) : s.last = none := by
  have hnot : ¬ s.stopping = false := by
    rw [hstopping]
    exact false_ne_true.symm
  have htorn : Torn proto s → s.last = none := by
    rintro ⟨-, -, hlast, hreadable⟩
    rw [hlast]
    by_contra hpending
    obtain ⟨config, hconfig⟩ := ne_none_iff_exists'.mp hpending
    exact hnot (hreadable config hconfig).2.2
  rcases h.2 with ⟨-, hidle | ⟨config, p, -, -, hwanted, -⟩⟩ | ⟨job, t, -, hexpected⟩
  · exact hidle.2.2.1
  · exact absurd hwanted.2.2 hnot
  · rcases hexpected.stages with ⟨-, -, config, hwanted⟩ | ⟨config, p, -, hwanted, -⟩ |
      ⟨-, -, -, hs⟩ | ⟨h, -⟩ | ⟨config, -, -, -, -, -, hs⟩
    · exact absurd hwanted.2.2 hnot
    · exact absurd hwanted.2.2 hnot
    · exact absurd hs hnot
    · exact htorn h
    · exact absurd hs hnot

/-- A process that was just started, after no request to connect. -/
theorem inv_fresh (isServiceBound : Bool) (lastConf : κ) :
    Inv proto (fresh isServiceBound lastConf none) := by
  refine ⟨fun other hother => (some_ne_none other hother.symm).elim, .inl ⟨?_, .inl ?_⟩⟩
  · intro k j hj
    cases hj
  · exact ⟨⟨fun _ => rfl, fun _ => rfl, fun _ => rfl, rfl⟩, .inl rfl, rfl, rfl⟩

/-- The time for disconnecting is never over, since the tunnel is down when this is waited for. -/
theorem step_disconnectTimeout (h : Inv proto s) : step proto s (.disconnectTimeout job) = s := by
  rw [step, if_neg]
  rintro ⟨htask, hstate⟩
  rw [hasTask] at htask
  cases hj : s.jobs[job]? with
  | none =>
    rw [hj] at htask
    cases htask
  | some j =>
    rw [hj] at htask
    have hawaits : j.task = .awaitDisconnected := by
      cases hj : j.task <;> simp_all [JobTask.awaitsDisconnected]
    rcases h.2 with ⟨hall, -⟩ | ⟨job', t, honly, hexpected⟩
    · exact (hall job j hj).not_awaiting hawaits
    · rcases eq_or_ne job job' with rfl | hne
      · have hsame : j = ⟨t, false⟩ := some.inj (hj.symm.trans honly.1)
        rw [hsame] at hawaits
        rw [show t = .awaitDisconnected from hawaits] at hexpected
        exact hstate hexpected.2.1
      · exact (honly.2 job j hne hj).not_awaiting hawaits

/-- An orderly event keeps the invariant. -/
theorem inv_step (h : Inv proto s) {e : ServiceEvent κ} (horderly : Orderly proto s e) :
    Inv proto (step proto s e) := by
  cases e with
  | connect vpnConfig granted => exact inv_connect h horderly
  | disconnect => exact inv_step_disconnect h horderly
  | reconnect => exact inv_reconnect h horderly
  | run job outcome granted =>
    obtain ⟨rfl, rfl, hreports⟩ := horderly
    exact inv_runJob h hreports
  | disconnectTimeout job =>
    rw [step_disconnectTimeout h]
    exact h
  | readHandshake o => exact inv_readHandshake h
  | endStatus o reads =>
    obtain rfl : reads = false := horderly
    exact inv_endStatus h
  | report => exact inv_report h
  | handleState => exact inv_handleState h
  | stopped =>
    rw [step]
    split_ifs with hstopping
    · rw [restart, h.last_of_stopping hstopping]
      exact inv_fresh _ _
    · exact h

end Steps

/-! ## The last request wins -/

section Wins

variable {proto : κ → Option VpnProto} {s : AmneziaVpnService κ} {config : κ} {o : ProtocolObject}

theorem Up.running_iff {tunnels : ProtocolObject → ProtocolTunnel κ}
    {reports : List ProtocolState} {config' : κ} {o' : ProtocolObject}
    (h : Up tunnels reports config o) :
    (tunnels o').running = some config' ↔ o' = o ∧ config' = config := by
  rcases eq_or_ne o' o with rfl | hne
  · rw [h.running, some.injEq, eq_comm]
    exact (and_iff_right rfl).symm
  · rw [(h.others o' hne).1]
    exact iff_of_false (some_ne_none config').symm fun hsame => hne hsame.1

/-- When no job is left, the tunnels agree with the last request. -/
theorem Inv.agrees (h : Inv proto s) (hsettled : s.Settled) : s.Agrees proto := by
  intro o config'
  rcases h.2 with ⟨-, ⟨hdown, -, hlast, -⟩ | ⟨config, p, ⟨-, hproto, hup⟩, -, hwanted, -⟩⟩ |
    ⟨job, t, honly, hexpected⟩
  · rw [hdown.running, hlast]
    exact iff_of_false (some_ne_none config').symm
      fun hsame => some_ne_none config' hsame.1.symm
  · rw [hup.running_iff, hwanted.1, some.injEq]
    constructor
    · rintro ⟨rfl, rfl⟩
      exact ⟨rfl, by rw [hproto, map_some]⟩
    · rintro ⟨rfl, hobject⟩
      rw [hproto, map_some, some.injEq] at hobject
      exact ⟨hobject.symm, rfl⟩
  · exact absurd hsettled (not_settled honly hexpected)

/-- Stopping a tunnel brings no tunnel up. -/
theorem running_stopTunnel {o' : ProtocolObject}
    (hrunning : ((s.stopTunnel o).tunnels o').running = some config) :
    (s.tunnels o').running = some config := by
  rw [stopTunnel] at hrunning
  split_ifs at hrunning
  · cases hrunning
  · exact hrunning
  · change (update s.tunnels o _ o').running = _ at hrunning
    rcases eq_or_ne o' o with rfl | hne
    · rw [update_self] at hrunning
      cases hrunning
    · rwa [update_of_ne hne] at hrunning

/-- A step of a job brings no tunnel up after a request to disconnect. -/
theorem running_runJob {k : ℕ} (h : Inv proto s) (hlast : s.last = none)
    (hrunning : ((s.runJob proto k .started true).tunnels o).running = some config) :
    (s.tunnels o).running = some config := by
  cases hj : s.jobs[k]? with
  | none => rwa [runJob, hj] at hrunning
  | some j =>
    have hinert : Job.Inert j → (s.tunnels o).running = some config := by
      rintro (htask | htask)
      · simpa [runJob, hj, htask, JobTask.suspends, runTask] using hrunning
      · simpa [runJob, hj, htask, JobTask.suspends, runTask, goTo] using hrunning
    rcases h.2 with ⟨hall, -⟩ | ⟨job, t, honly, hexpected⟩
    · exact hinert (hall k j hj)
    · rcases eq_or_ne k job with rfl | hne
      · have hsame : j = ⟨t, false⟩ := some.inj (hj.symm.trans honly.1)
        subst hsame
        rw [runJob, hj] at hrunning
        have hnot : ∀ config, s.last ≠ some config := fun config hsome =>
          some_ne_none config (hsome.symm.trans hlast)
        -- the tasks that start a tunnel belong to a request to connect
        cases t with
        | joinDisconnection | awaitDisconnection | clearDisconnection | startVpn =>
          exact absurd hexpected.2.1.1 (hnot _)
        | saveStart o config =>
          obtain ⟨p, -, -, hwanted, -⟩ := hexpected
          exact absurd hwanted.1 (hnot _)
        | reconnectVpn =>
          obtain ⟨config, p, -, -, hwanted, -⟩ := hexpected
          exact absurd hwanted.1 (hnot _)
        | cancelConnection =>
          change ((s.runTask proto k .started true .cancelConnection).tunnels o).running = _
            at hrunning
          rw [runTask] at hrunning
          cases hconnection : s.connectionJob <;> rw [hconnection] at hrunning <;> exact hrunning
        | awaitConnection | awaitDisconnected =>
          change ((if _ then _ else s).tunnels o).running = _ at hrunning
          split_ifs at hrunning <;> exact hrunning
        | clearConnection => exact hrunning
        | stopVpn =>
          change ((s.runTask proto k .started true .stopVpn).tunnels o).running = _ at hrunning
          rw [runTask] at hrunning
          cases hproto : s.vpnProto <;> rw [hproto] at hrunning
          · exact hrunning
          · exact running_stopTunnel hrunning
        | readPending =>
          change ((s.runTask proto k .started true .readPending).tunnels o).running = _ at hrunning
          rw [runTask] at hrunning
          cases hpending : s.pendingVpnConfig <;> rw [hpending] at hrunning <;> exact hrunning
        | clearPending | connectPending => exact absurd hexpected.1.2.2.1 (hnot _)
        | leave | done => exact hexpected.elim
      · exact hinert (honly.2 k j hne hj)

/-- No event but a request to connect brings a tunnel up after a request to disconnect. -/
theorem running_step {e : ServiceEvent κ} (h : Inv proto s) (horderly : Orderly proto s e)
    (hconnect : e.isConnect = false) (hlast : s.last = none)
    (hrunning : ((step proto s e).tunnels o).running = some config) :
    (s.tunnels o).running = some config := by
  cases e with
  | connect vpnConfig granted => cases hconnect
  | disconnect | reconnect =>
    simp only [step, disconnect, reconnect] at hrunning
    split_ifs at hrunning <;> exact hrunning
  | run job outcome granted =>
    obtain ⟨rfl, rfl, -⟩ := horderly
    exact running_runJob h hlast hrunning
  | disconnectTimeout job => rwa [step_disconnectTimeout h] at hrunning
  | readHandshake o' =>
    rw [step] at hrunning
    split_ifs at hrunning
    · change (update s.tunnels o' _ o).running = _ at hrunning
      refine (apply_update (f := ProtocolTunnel.running) ?_ o).symm.trans hrunning
      rfl
    · exact hrunning
  | endStatus o' reads =>
    obtain rfl : reads = false := horderly
    rw [step_endStatus_false] at hrunning
    split_ifs at hrunning
    · exact hrunning
    · change (update s.tunnels o' _ o).running = _ at hrunning
      refine (apply_update (f := ProtocolTunnel.running) ?_ o).symm.trans hrunning
      rfl
  | report =>
    rw [step] at hrunning
    cases hreports : s.reports <;> rw [hreports] at hrunning <;> exact hrunning
  | handleState =>
    rw [step] at hrunning
    split_ifs at hrunning <;> exact hrunning
  | stopped =>
    rw [step] at hrunning
    split_ifs at hrunning
    · cases hrunning
    · exact hrunning

/-- In an orderly run of a service that was just started the last request of the user wins: whenever
no job is left, the tunnels that are up are those of this request. After a request to disconnect no
tunnel comes up until there is a request to connect. -/
theorem last_request_wins {isServiceBound : Bool} {lastConf : κ} {es : List (ServiceEvent κ)}
    (horderly : Meets (step proto) (Orderly proto) (fresh isServiceBound lastConf none) es) :
    (∀ reached, reached <+: es →
      (run (step proto) (fresh isServiceBound lastConf none) reached).Settled →
      (run (step proto) (fresh isServiceBound lastConf none) reached).Agrees proto) ∧
    ∀ reached e, reached ++ [e] <+: es → e.isConnect = false →
      (run (step proto) (fresh isServiceBound lastConf none) reached).last = none →
      ∀ o config,
        ((run (step proto) (fresh isServiceBound lastConf none) (reached ++ [e])).tunnels
          o).running = some config →
        ((run (step proto) (fresh isServiceBound lastConf none) reached).tunnels o).running =
          some config := by
  have hinv : ∀ reached, reached <+: es →
      Inv proto (run (step proto) (fresh isServiceBound lastConf none) reached) :=
    fun reached hreached =>
      horderly.invariant (fun s e he hs => inv_step hs he) (inv_fresh isServiceBound lastConf)
        hreached
  refine ⟨fun reached hreached hsettled => (hinv reached hreached).agrees hsettled, ?_⟩
  intro reached e hreached hconnect hlast o config hrunning
  have hbefore : Orderly proto (run (step proto) _ reached) e :=
    meets_iff_forall_before.mp horderly reached e hreached
  rw [run_concat] at hrunning
  exact running_step (hinv reached ((prefix_append reached [e]).trans hreached)) hbefore
    hconnect hlast hrunning

end Wins

/-! ## Runs -/

instance (s : AmneziaVpnService κ) : Decidable s.Settled :=
  inferInstanceAs (Decidable (∀ j ∈ s.jobs, j.task.isDone = true))

instance (s : AmneziaVpnService κ) : Decidable (GoesDown s) :=
  inferInstanceAs (Decidable (_ ∧ _))

instance [DecidableEq κ] (proto : κ → Option VpnProto) (s : AmneziaVpnService κ) :
    DecidablePred (Orderly proto s)
  | .connect _ _ => inferInstanceAs (Decidable (_ ∧ _))
  | .disconnect => inferInstanceAs (Decidable (_ ∨ _))
  | .reconnect => inferInstanceAs (Decidable (_ ∨ _))
  | .run _ _ _ => inferInstanceAs (Decidable (_ ∧ _))
  | .disconnectTimeout _ => .isTrue trivial
  | .readHandshake _ => .isTrue trivial
  | .endStatus _ reads => inferInstanceAs (Decidable (reads = false))
  | .report => .isTrue trivial
  | .handleState => .isTrue trivial
  | .stopped => .isTrue trivial

/-- Configs of WireGuard, told apart by a number. -/
def numbered : ℕ → Option VpnProto := fun _ => some .wireguard

/-- A tunnel with the config `1` is up. -/
def connected : List (ServiceEvent ℕ) :=
  .connect (some 1) true :: replicate 5 (.run 0 .started true) ++
    [.readHandshake .wireguard, .report]

/-- What events do after this. -/
def afterwards (es : List (ServiceEvent ℕ)) : AmneziaVpnService ℕ :=
  run (step numbered) (fresh true 0 none) (connected ++ es)

/-- The steps of the second and the third job. -/
def goOn : List (ServiceEvent ℕ) :=
  replicate 9 (.run 1 .started true) ++ replicate 5 (.run 2 .started true)

/-- The server is switched: in the end the tunnel has the second config. -/
theorem last_request_wins_switch :
    (afterwards (.connect (some 2) true :: goOn)).Settled ∧
      (afterwards (.connect (some 2) true :: goOn)).Agrees numbered ∧
      ((afterwards (.connect (some 2) true :: goOn)).tunnels .wireguard).running = some 2 := by
  have horderly : Meets (step numbered) (Orderly numbered) (fresh true 0 none)
      (connected ++ .connect (some 2) true :: goOn) := by decide
  have hsettled : (afterwards (.connect (some 2) true :: goOn)).Settled := by decide
  exact ⟨hsettled, (last_request_wins horderly).1 _ (prefix_refl _) hsettled, by decide⟩

/-- Tunnels that are up without a request for them do not agree. -/
theorem not_agrees_of_running {s : AmneziaVpnService κ} {proto : κ → Option VpnProto}
    {o : ProtocolObject} {config : κ} (hrunning : (s.tunnels o).running = some config)
    (hlast : s.last = none) : ¬ s.Agrees proto := fun h =>
  some_ne_none config (((h o config).mp hrunning).1.symm.trans hlast)

/-- A request to disconnect is made while the server is switched. No job is left in the end, and the
tunnel of the second server is up. If a request to connect follows a request to disconnect at once,
the job of the first request cancels that of the second one: no job is left, and no tunnel is up. -/
theorem last_request_overtaken :
    let up := afterwards (.connect (some 2) true :: .disconnect :: goOn)
    let down := afterwards (.disconnect :: .connect (some 2) true :: .run 1 .started true ::
      .run 2 .started true :: goOn)
    (up.Settled ∧ up.last = none ∧ ¬ up.Agrees numbered) ∧
      down.Settled ∧ down.last = some 2 ∧ ¬ down.Agrees numbered := by
  intro up down
  have hup : (up.tunnels .wireguard).running = some 2 := by decide
  have hdown : (down.tunnels .wireguard).running = none := by decide
  refine ⟨⟨by decide, by decide, not_agrees_of_running hup (by decide)⟩, by decide, by decide, ?_⟩
  intro hagrees
  rw [(hagrees .wireguard 2).mpr ⟨by decide, rfl⟩] at hdown
  cases hdown

end Dopamine.Android.AmneziaVpnService
