import Dopamine.Macos.MacosDaemon

/-!
# The counts of the exclusion routes

`m_excludedAddrSet` counts the uses of an excluded address by the live connections. The routes to
the servers are added by `updatePeer` next to it, in the same route monitor and without a count, so
the two meet when an excluded address is also the address of a server, and when two servers share
one.

A request that fails on the way leaves the counts as they are. That does no harm when there is
nothing to count, so a request may fail when its configuration excludes nothing.
-/

namespace Dopamine.Macos.MacosDaemon

open Prog Daemon List Option

variable {q : Platform} {d : Daemon.State} {config lastConfig : InterfaceConfig}

/-- The exclusion routes of the monitor. -/
def routes (s : MacosState) : List IPAddress := s.monitor.getD []

/-- The counts are those of the live connections, every live server has its routes, and an address
has never been uncounted that did not count. -/
structure Accounted (q : Platform) (s : World) : Prop where
  counts : ∀ ip, s.vars.excludedAddrSet.count ip = (s.vars.live.flatMap (excluded q)).count ip
  routed : ∀ config ∈ s.vars.live, ∀ ip ∈ endpoints q config, ip ∈ routes s.env
  asserted : s.env.asserted = true

/-- What holds between two requests. -/
structure Settled (q : Platform) (s : World) : Prop where
  counts : s.vars.excludedAddrSet.Perm (s.vars.live.flatMap (excluded q))
  routed : ∀ config ∈ s.vars.live, ∀ ip ∈ endpoints q config, ip ∈ routes s.env
  asserted : s.env.asserted = true
  idle : s.vars.deactivating = false
  up : s.env.running = s.env.monitor.isSome
  live : s.vars.live ≠ [] → s.env.running = true

variable {s : World} {F : World → Prop} {ip : IPAddress}
  {l : List IPAddress}

theorem Settled.accounted (h : Settled q s) : Accounted q s :=
  ⟨fun ip => h.counts.count_eq ip, h.routed, h.asserted⟩

/-- What holds inside a request: the connections are still those of `d`, `counted` is counted, and
the servers of `peers` have their routes. -/
structure Midway (q : Platform) (d : Daemon.State) (counted : List IPAddress)
    (peers : List InterfaceConfig) (s : World) : Prop where
  connections : s.vars.connections = d.connections
  counts : s.vars.excludedAddrSet.Perm counted
  routed : ∀ config ∈ peers, ∀ ip ∈ endpoints q config, ip ∈ routes s.env
  asserted : s.env.asserted = true
  idle : s.vars.deactivating = false
  up : s.env.running = true
  monitor : s.env.monitor.isSome = true

theorem Midway.live {counted : List IPAddress} {peers : List InterfaceConfig}
    (h : Midway q d counted peers s) : s.vars.live = d.live :=
  congrArg hops.filterMap h.connections

theorem Settled.midway (h : Settled q s) (hup : s.env.running = true) :
    Midway q s.vars (s.vars.live.flatMap (excluded q)) s.vars.live s :=
  ⟨rfl, h.counts, h.routed, h.asserted, h.idle, hup, h.up ▸ hup⟩

/-- Only the entries of the two lists matter. -/
theorem Midway.perm {counted counted' : List IPAddress} {peers peers' : List InterfaceConfig}
    (h : Midway q d counted peers s) (hcounted : counted.Perm counted') (hpeers : peers' ⊆ peers) :
    Midway q d counted' peers' s :=
  { h with
    counts := h.counts.trans hcounted
    routed := fun config hconfig => h.routed config (hpeers hconfig) }

/-- A request that ends with the connections it began with. -/
theorem Midway.settled (h : Midway q d (d.live.flatMap (excluded q)) d.live s) : Settled q s :=
  ⟨h.live ▸ h.counts, h.live ▸ h.routed, h.asserted, h.idle, h.up.trans h.monitor.symm,
    fun _ => h.up⟩

/-- A request that fails with nothing counted. -/
theorem Midway.settled_of_nil {peers : List InterfaceConfig} (hnil : excluded q config = [])
    (h : Midway q d (excluded q config ++ d.live.flatMap (excluded q)) peers s)
    (hpeers : d.live ⊆ peers) : Settled q s :=
  (h.perm (.of_eq (by rw [hnil, nil_append])) hpeers).settled

/-- A request that ends with its configuration connected. -/
theorem Midway.settled_connect {s : World}
    (h : Midway q d (excluded q config ++ (d.others config.hopType).flatMap (excluded q))
      (config :: d.others config.hopType) s) :
    Settled q { s with vars := connect config s.vars } := by
  have hothers : s.vars.others config.hopType = d.others config.hopType :=
    congrArg (filterMap · _) h.connections
  have hlive := hothers ▸ live_connect_perm config s.vars
  refine ⟨h.counts.trans (hlive.flatMap_right (excluded q)).symm, fun c hc => ?_, h.asserted,
    h.idle, h.up.trans h.monitor.symm, fun _ => h.up⟩
  exact h.routed c (hlive.subset hc)

/-! ## The calls -/

/-- A reply is the one of a call that succeeds, unless failures do no harm. -/
def Replies (calm : Prop) (r : Reply) : Prop := calm ∨ r = default

variable {calm : Prop} {counted : List IPAddress} {peers : List InterfaceConfig}

/-- A call that fails can only do so when that does no harm. -/
theorem perform_stage {c : Call} {I J : World → Prop}
    (hstep : ∀ s r, I s → J { s with env := (exec q c r s.env).2 })
    (hok : ∀ s, I s → (exec q c default s.env).1 = true) (hfail : calm → ∀ s, J s → F s) :
    Triple (exec q) (Replies calm) I (perform c) (Post J F) := by
  refine .perform fun s r hr hs => ?_
  have hJ := hstep s r hs
  rcases hr with hcalm | rfl
  · cases (exec q c r s.env).1 with
    | true => exact hJ
    | false => exact hfail hcalm _ hJ
  · rw [hok s hs]
    exact hJ

/-- A call that leaves the routes alone. -/
theorem midway_other (hfail : calm → ∀ s, Midway q d counted peers s → F s) :
    Triple (exec q) (Replies calm) (Midway q d counted peers) (perform .other)
      (Post (Midway q d counted peers) F) :=
  perform_stage (fun _ _ h => { h with }) (fun _ _ => rfl) hfail

theorem midway_maybeUpdateResolvers (hfail : calm → ∀ s, Midway q d counted peers s → F s) :
    Triple (exec q) (Replies calm) (Midway q d counted peers) (maybeUpdateResolvers utils q config)
      (Post (Midway q d counted peers) F) :=
  .ite (fun _ => perform_stage (fun _ _ h => { h with }) (fun _ _ => rfl) hfail)
    fun _ => .skip

/-- The routes of the monitor change, but none that a server needs. -/
theorem Midway.map {peers' : List InterfaceConfig} {f : List IPAddress → List IPAddress}
    (h : Midway q d counted peers s)
    (hf : ∀ c ∈ peers', ∀ ip ∈ endpoints q c, ip ∈ f (routes s.env)) :
    Midway q d counted peers' { s with env.monitor := s.env.monitor.map f } := by
  obtain ⟨monitor, hmonitor⟩ := isSome_iff_exists.mp h.monitor
  rw [routes, hmonitor] at hf
  rw [hmonitor]
  exact { h with routed := hf, monitor := rfl }

/-- A new peer has its routes, unless it is an exit server. -/
theorem midway_updatePeer (hexit : config.hopType = .MultiHopExit → endpoints q config = [])
    (hfail : calm → ∀ s, Midway q d counted (config :: peers) s → F s) :
    Triple (exec q) (Replies calm) (Midway q d counted peers) (utils.updatePeer config)
      (Post (Midway q d counted (config :: peers)) F) := by
  refine perform_stage (fun s r h => h.map fun c hc ip hip => mem_addServerRoutes.mpr ?_)
    (fun _ _ => rfl) hfail
  rcases mem_cons.mp hc with rfl | hc
  · refine .inr ?_
    unfold serverRoutes
    split
    · exact absurd hip (by rw [hexit ‹_›]; exact not_mem_nil)
    · exact hip
  · exact .inl (h.routed c hc ip hip)

/-- An old peer takes its routes with it, which no other server may need. -/
theorem midway_deletePeer
    (happart : ∀ config ∈ peers, ∀ ip ∈ endpoints q config, ip ∉ endpoints q lastConfig)
    (hfail : calm → ∀ s, Midway q d counted peers s → F s) :
    Triple (exec q) (Replies calm) (Midway q d counted peers) (utils.deletePeer lastConfig)
      (Post (Midway q d counted peers) F) := by
  refine perform_stage (fun s r h => h.map fun c hc ip hip => mem_deleteServerRoutes.mpr
    ⟨h.routed c hc ip hip, fun hserver => happart c hc ip hip ?_⟩) (fun _ _ => rfl) hfail
  unfold serverRoutes at hserver
  split at hserver
  · cases hserver
  · exact hserver

/-! ## The loops over excluded addresses -/

/-- None of the addresses has a route that does not count: the monitor would refuse it. -/
def Fresh (l : List IPAddress) (s : World) : Prop :=
  ∀ ip ∈ l, ip ∈ s.vars.excludedAddrSet ∨ ip ∉ routes s.env

/-- One address more. -/
theorem midway_addExclusionRoute (hcalm : ¬calm) :
    Triple (exec q) (Replies calm) (fun s => Midway q d counted peers s ∧ Fresh (ip :: l) s)
      (addExclusionRoute utils ip)
      fun _ s => Midway q d (ip :: counted) peers s ∧ Fresh l s := by
  refine addExclusionRoute_rule
    (M := fun s => Midway q d counted peers s ∧ ∀ ip' ∈ l, ip' = ip ∨
      ip' ∈ s.vars.excludedAddrSet ∨ ip' ∉ routes s.env) (fun s hs _ => ?_) ?_ fun s hs => ?_
  · -- the address counts already
    refine ⟨{ hs.1 with counts := hs.1.counts.cons ip }, fun ip' hip' => ?_⟩
    exact (hs.2 ip' (mem_cons_of_mem _ hip')).imp_left (mem_cons_of_mem _)
  · -- it does not, and so the monitor has no route for it
    refine .perform fun s r hr hs => ?_
    obtain ⟨⟨h, hfresh⟩, hmem⟩ := hs
    obtain rfl : r = default := hr.resolve_left hcalm
    obtain ⟨monitor, hmonitor⟩ := isSome_iff_exists.mp h.monitor
    have hnew : ip ∉ monitor := by
      have := (hfresh ip mem_cons_self).resolve_left hmem
      rwa [routes, hmonitor] at this
    have hexec : exec q (.addExclusionRoute ip) default s.env
        = (true, { s.env with monitor := some (monitor ++ [ip]) }) := by
      simp [exec, onMonitor, hmonitor, MacosRouteMonitor.addExclusionRoute, hnew]
      rfl
    rw [hexec]
    refine ⟨{ h with routed := fun c hc ip' hip' => ?_, monitor := rfl }, fun ip' hip' => ?_⟩
    · have hroute := h.routed c hc ip' hip'
      rw [routes, hmonitor] at hroute
      exact mem_append_left _ hroute
    · rcases hfresh ip' (mem_cons_of_mem _ hip') with hset | hroute
      · exact .inr (.inl hset)
      · by_cases heq : ip' = ip
        · exact .inl heq
        · refine .inr (.inr fun hroutes => ?_)
          rw [routes, hmonitor] at hroute
          rcases mem_append.mp hroutes with hold | hold
          · exact hroute hold
          · exact heq (mem_singleton.mp hold)
  · refine ⟨{ hs.1 with counts := hs.1.counts.cons ip }, fun ip' hip' => ?_⟩
    rcases hs.2 ip' hip' with rfl | hset | hroute
    · exact .inl mem_cons_self
    · exact .inl (mem_cons_of_mem _ hset)
    · exact .inr hroute

theorem midway_addExclusionRoutes (hcalm : calm → l = []) :
    Triple (exec q) (Replies calm) (fun s => Midway q d counted peers s ∧ Fresh l s)
      (each (addExclusionRoute utils) l) fun _ => Midway q d (l ++ counted) peers := by
  induction l generalizing counted with
  | nil => exact .return fun _ h => h.1
  | cons ip l ih =>
    have hstrict : ¬calm := fun h => cons_ne_nil _ _ (hcalm h)
    refine .bind (M := fun _ s => Midway q d (ip :: counted) peers s ∧ Fresh l s)
      (.ignore (midway_addExclusionRoute hstrict)) fun _ => ?_
    -- each address counts on top of those before it
    exact (ih fun h => absurd h hstrict).post fun _ s h => h.perm perm_middle fun _ h => h

/-- One use of an address less. Its route stays if a server needs it, because it still counts. -/
theorem midway_delExclusionRoute
    (hneed : ∀ config ∈ peers, ip ∈ endpoints q config → ip ∈ counted) :
    Triple (exec q) (Replies calm) (Midway q d (ip :: counted) peers) (delExclusionRoute utils ip)
      fun _ => Midway q d counted peers := by
  have herase : ∀ s, Midway q d (ip :: counted) peers s →
      (s.vars.excludedAddrSet.erase ip).Perm counted := fun s h => by
    have := h.counts.erase ip
    rwa [erase_cons_head] at this
  have hdelete : Triple (exec q) (Replies calm)
      (fun s => Midway q d counted peers s ∧ ip ∉ counted) (utils.deleteExclusionRoute ip)
      fun _ => Midway q d counted peers := by
    refine .perform fun s r _ hs => hs.1.map fun c hc ip' hip' => ?_
    have hne : ip' ≠ ip := fun heq => hs.2 (hneed c hc (heq ▸ hip'))
    exact mem_filter.mpr ⟨hs.1.routed c hc ip' hip', decide_eq_true hne⟩
  refine delExclusionRoute_rule (fun l => .perform fun s r _ hs => ?_)
    (fun s (h : Midway q d (ip :: counted) peers s) _ => { h with counts := herase s h })
    (fun s h hcount => ⟨{ h with counts := herase s h }, fun hmem => ?_⟩) hdelete
  · refine ⟨{ hs.1 with asserted := ?_ }, hs.2⟩
    have hmem : ip ∈ l := hs.2 ▸ hs.1.counts.mem_iff.mpr mem_cons_self
    show (s.env.asserted && decide (ip ∈ l)) = true
    rw [hs.1.asserted, decide_eq_true hmem, Bool.and_self]
  · rw [h.counts.count_eq, count_cons_self] at hcount
    have := count_pos_iff.mpr hmem
    omega

theorem midway_delExclusionRoutes
    (hneed : ∀ config ∈ peers, ∀ ip ∈ endpoints q config, ip ∈ l → ip ∈ counted) :
    Triple (exec q) (Replies calm) (Midway q d (l ++ counted) peers)
      (each (delExclusionRoute utils) l) fun _ => Midway q d counted peers := by
  induction l with
  | nil => exact .skip
  | cons ip l ih =>
    refine .bind (M := fun _ => Midway q d (l ++ counted) peers)
      (.ignore (midway_delExclusionRoute fun c hc hip => ?_)) fun _ =>
        ih fun c hc ip' hip' h => ?_
    · exact mem_append_right _ (hneed c hc ip hip mem_cons_self)
    · exact hneed c hc ip' hip' (mem_cons_of_mem _ h)

/-! ## The requests -/

/-- The interface is there, with nothing changed. -/
def Ready (q : Platform) (config : InterfaceConfig) (d : Daemon.State)
    (s : World) : Prop :=
  Midway q d (d.live.flatMap (excluded q)) d.live s ∧ Fresh (excluded q config) s

theorem settled_ensureInterface :
    Triple (exec q) (Replies calm) (fun s => Settled q s ∧ s.vars = d ∧ Fresh (excluded q config) s)
      (ensureInterface utils config) (Post (Ready q config d) (Settled q)) := by
  refine .bind
    (M := fun b s => (Settled q s ∧ s.vars = d ∧ Fresh (excluded q config) s) ∧ b = s.env.running)
    (.perform fun s r _ hs => ⟨hs, rfl⟩) fun b => ?_
  cases b with
  | true =>
    refine .return fun s hs => ?_
    obtain ⟨⟨h, rfl, hfresh⟩, hup⟩ := hs
    exact ⟨h.midway hup.symm, hfresh⟩
  | false =>
    refine .perform fun s r _ hs => ?_
    obtain ⟨⟨h, rfl, hfresh⟩, hdown⟩ := hs
    -- an interface that is not there has no connection
    have hlive : s.vars.live = [] := by
      by_contra hne
      cases hdown.trans (h.live hne)
    have hrouted : ∀ (env : MacosState), ∀ config ∈ s.vars.live, ∀ ip ∈ endpoints q config,
        ip ∈ routes env := fun env c hc => absurd hc (hlive ▸ not_mem_nil)
    obtain ⟨ok, started, named⟩ := r
    have hexec : exec q .addInterface ⟨ok, started, named⟩ s.env
        = ((started && named) && ok,
          { s.env with
            running := started && named
            monitor := if started && named then some [] else s.env.monitor }) := by
      simp [exec, ← hdown]
    rw [hexec]
    cases hcreated : started && named with
    | true =>
      have hready : Ready q config s.vars
          ⟨s.vars, { s.env with running := true, monitor := some [] }⟩ :=
        ⟨⟨rfl, h.counts, hrouted _, h.asserted, h.idle, rfl, rfl⟩, fun ip _ => .inr not_mem_nil⟩
      cases ok with
      | true => exact hready
      | false => exact hready.1.settled
    | false =>
      refine { h with up := ?_, live := fun hne => absurd hlive hne }
      show false = s.env.monitor.isSome
      rw [← h.up, hdown]

/-- A failure to bring up a hop does no harm if there is nothing to count. -/
theorem settled_bringUp (hcalm : calm → excluded q config = [])
    (hexit : config.hopType = .MultiHopExit → endpoints q config = []) :
    Triple (exec q) (Replies calm)
      (fun s => Settled q s ∧ s.vars.connections config.hopType = none ∧
        Fresh (excluded q config) s)
      (bringUp utils q config) (Post (Settled q) (Settled q)) := by
  intro s b t hs hr
  obtain ⟨h, hnone, hfresh⟩ := hs
  have hothers : s.vars.live.Perm (s.vars.others config.hopType) :=
    State.live_perm_others hnone
  have hexclude : Triple (exec q) (Replies calm) (Ready q config s.vars)
      (excludeRoutes utils q config) fun _ =>
        Midway q s.vars (excluded q config ++ s.vars.live.flatMap (excluded q)) s.vars.live := by
    refine (midway_addExclusionRoutes hcalm).bind fun _ => .ignore ?_
    refine .ite (fun _ => .skip) fun _ => ?_
    exact .perform fun _ _ _ h => { h with }
  have hother : Triple (exec q) (Replies calm) (Ready q config s.vars) (perform .other)
      (Post (Ready q config s.vars) (Settled q)) :=
    perform_stage (fun _ _ h => h) (fun _ _ => rfl) fun _ _ h => h.1.settled
  -- after a failure the live connections are what they were
  have hfail := fun hc t ht =>
    Midway.settled_of_nil (d := s.vars) (s := t) (hcalm hc) ht (subset_cons_self config _)
  have hconfigure := configure_rule (u := utils) (q := q) (S := Settled q) (F := Settled q)
    hother hother hexclude (midway_updatePeer hexit hfail) (midway_maybeUpdateResolvers hfail)
    (.every fun _ _ => midway_other hfail) .skip fun t ht => ?_
  · exact bringUp_rule .skip settled_ensureInterface hconfigure s b t ⟨h, rfl, hfresh⟩ hr
  · refine (ht.perm ((hothers.flatMap_right _).append_left _) ?_).settled_connect
    exact cons_subset_cons _ hothers.symm.subset

/-- Whether every condition has held. -/
def assertedSoFar (s : World) : Bool := s.env.asserted

/-- Nothing is left after a deactivation, whatever fails. -/
theorem settled_deactivate :
    Triple (exec q) (Replies calm) (Settled q) (deactivate utils)
      fun _ s => Settled q s ∧ (s.vars.connections = fun _ => none) ∧ routes s.env = [] := by
  have hother : Keeps (exec q) (Replies calm) assertedSoFar (perform .other) :=
    .perform fun _ _ => rfl
  have hdown : Keeps (exec q) (Replies calm) assertedSoFar (runDown utils) :=
    keeps_runDown fun _ => .return true
  have hremove : Keeps (exec q) (Replies calm) assertedSoFar
      (each (removeConnection utils) hops) :=
    .each fun hop _ => keeps_removeConnection (fun _ => hother)
      (fun _ => .perform fun _ _ => rfl) hop
  have hroutes : ∀ l : List IPAddress, Keeps (exec q) (Replies calm) assertedSoFar
      (each utils.deleteExclusionRoute l) := fun l => .each fun _ _ =>
    .perform fun _ _ => rfl
  refine deactivate_rule _ _ _ _ (fun s => s.env.asserted = true ∧ s.vars.excludedAddrSet = [] ∧
      s.vars.connections = fun _ => none)
    (fun _ s => (s.env.asserted = true ∧ s.vars.excludedAddrSet = [] ∧
      s.vars.connections = fun _ => none) ∧ s.env.monitor = none ∧ s.env.running = false)
    (fun _ h => h.idle) (fun _ h => h.asserted) (hdown.triple (· = true))
    (.perform fun _ _ _ h => h) (hremove.triple (· = true)) (fun l => ?_)
    (fun _ h => ⟨h, rfl, rfl⟩) (.perform fun _ _ _ h => ⟨h, rfl, rfl⟩) fun b s h => ?_
  · exact ((hroutes l.dedup).triple (· = true)).pre fun _ h => h.1
  · obtain ⟨⟨hassert, hset, hconn⟩, hmonitor, hdown⟩ := h
    have hlive : s.vars.live = [] := State.live_eq_nil hconn
    have hempty : ∀ c : InterfaceConfig, c ∉ s.vars.live := fun c => hlive ▸ not_mem_nil
    refine ⟨⟨?_, fun c hc => absurd hc (hempty c), hassert, rfl, ?_, fun hne => absurd hlive hne⟩,
      hconn, ?_⟩
    · show s.vars.excludedAddrSet.Perm (s.vars.live.flatMap _)
      rw [hset, hlive]
      exact List.Perm.refl _
    · show s.env.running = s.env.monitor.isSome
      rw [hdown, hmonitor]
      rfl
    · show s.env.monitor.getD [] = []
      rw [hmonitor]
      rfl

/-- What a switch from one server to another needs of the addresses of the servers that stay: an
excluded one still counts when the old configuration is uncounted, and the old server does not take
its route along. -/
def Separate (q : Platform) (config lastConfig : InterfaceConfig) (d : Daemon.State) : Prop :=
  ∀ c ∈ config :: d.others config.hopType, ∀ ip ∈ endpoints q c,
    (ip ∈ excluded q lastConfig →
      ip ∈ excluded q config ++ (d.others config.hopType).flatMap (excluded q)) ∧
    (config.serverPublicKey ≠ lastConfig.serverPublicKey → ip ∉ endpoints q lastConfig)

section Switch

variable (hcalm : calm → excluded q config = [])
  (hlast : calm → config.serverPublicKey = lastConfig.serverPublicKey)
  (hexit : config.hopType = .MultiHopExit → endpoints q config = [])
include hcalm hlast hexit

/-- A failure to switch does no harm if there is nothing to count and the old server stays. -/
theorem settled_switchServer :
    Triple (exec q) (Replies calm)
      (fun s => (Settled q s ∧ Fresh (excluded q config) s ∧ Separate q config lastConfig s.vars) ∧
        s.vars.connections config.hopType = some lastConfig)
      (switchServer utils q config lastConfig)
      (Post (fun s => Settled q s ∧ s.vars.connections config.hopType = some config)
        (Settled q)) := by
  intro s b t hs hr
  obtain ⟨⟨h, hfresh, hseparate⟩, hsome⟩ := hs
  have hlive : s.vars.live.Perm (lastConfig :: s.vars.others config.hopType) :=
    State.live_perm_cons hsome
  have hup : s.env.running = true := h.live (State.live_ne_nil hsome)
  -- the counts after the additions, with those of the old configuration in front
  have hcounted : (excluded q config ++ s.vars.live.flatMap (excluded q)).Perm
      (excluded q lastConfig ++
        (excluded q config ++ (s.vars.others config.hopType).flatMap (excluded q))) := by
    refine ((hlive.flatMap_right _).append_left _).trans ?_
    rw [flatMap_cons]
    exact perm_append_comm_assoc ..
  have hfail := fun hc t ht =>
    Midway.settled_of_nil (d := s.vars) (s := t) (hcalm hc) ht (subset_cons_self config _)
  have hpeers : config :: s.vars.others config.hopType ⊆ config :: s.vars.live :=
    cons_subset_cons _ fun c hc => hlive.symm.subset (mem_cons_of_mem _ hc)
  refine switchServer_rule (midway_addExclusionRoutes hcalm) (midway_updatePeer hexit hfail)
    ((Triple.every fun _ _ => midway_other fun _ _ h => h).post fun b t ht =>
      ht.same.perm hcounted hpeers)
    (midway_delExclusionRoutes fun c hc ip hip => (hseparate c hc ip hip).1)
    (.each fun _ _ => .perform fun _ _ _ h => { h with })
    (removeLast_rule (fun hkey => midway_deletePeer
      (fun c hc ip hip => (hseparate c hc ip hip).2 hkey) fun hc => absurd (hlast hc) hkey)
      fun _ _ h => h)
    (fun t ht => ⟨ht.settled_connect, Function.update_self ..⟩) s b t ⟨h.midway hup, hfresh⟩ hr

theorem settled_switchTo :
    Triple (exec q) (Replies calm)
      (fun s => (Settled q s ∧ Fresh (excluded q config) s ∧ Separate q config lastConfig s.vars) ∧
        s.vars.connections config.hopType = some lastConfig)
      (switchTo utils q config lastConfig) (Post (Settled q) (Settled q)) := by
  have hquiet : ∀ c : Call, (∀ r s, (exec q c r s).2.running = s.running ∧
      (exec q c r s).2.monitor = s.monitor ∧ (exec q c r s).2.asserted = s.asserted) →
      Triple (exec q) (Replies calm)
        (fun s => Settled q s ∧ s.vars.connections config.hopType = some config) (perform c)
        (Post (fun s => Settled q s ∧ s.vars.connections config.hopType = some config)
          (Settled q)) := by
    refine fun c hc => .perform fun s r _ hs => ?_
    obtain ⟨hrunning, hmonitor, hassert⟩ := hc r s.env
    have hsettled : Settled q { s with env := (exec q c r s.env).2 } :=
      ⟨hs.1.counts, fun c hc ip hip => by
        have := hs.1.routed c hc ip hip
        rwa [routes, ← hmonitor] at this,
        hassert.trans hs.1.asserted, hs.1.idle, hrunning.trans (hmonitor ▸ hs.1.up),
        fun hne => hrunning.trans (hs.1.live hne)⟩
    cases (exec q c r s.env).1 with
    | true => exact ⟨hsettled, hs.2⟩
    | false => exact hsettled
  refine switchTo_rule (settled_switchServer hcalm hlast hexit)
    (hquiet .restoreResolvers fun _ _ => ⟨rfl, rfl, rfl⟩)
    (.ite (fun _ => hquiet (.updateResolvers _) fun _ _ => ⟨rfl, rfl, rfl⟩)
      fun _ => .skip)
    .skip fun s hs => ?_
  rw [connect_of_connected hs.2]
  exact hs.1

end Switch

/-- A failure of the activation does no harm: it excludes nothing, and neither does it switch to
another server. -/
def Harmless (q : Platform) (config : InterfaceConfig) (d : Daemon.State) : Prop :=
  excluded q config = [] ∧ ∀ lastConfig, d.connections config.hopType = some lastConfig →
    supportServerSwitching lastConfig config = true →
      config.serverPublicKey = lastConfig.serverPublicKey

/-- When a request keeps the account. -/
structure Accountable (q : Platform) (config : InterfaceConfig) (rs : List Reply)
    (s : World) : Prop where
  /-- every call succeeds, unless a failure does no harm -/
  replies : Harmless q config s.vars ∨ ∀ r ∈ rs, r = default
  /-- an exit server has no address, since it gets no route -/
  exit : config.hopType = .MultiHopExit → endpoints q config = []
  /-- unless everything is deactivated first, no excluded address is the address of a server -/
  fresh : (∀ lastConfig, s.vars.connections config.hopType = some lastConfig →
    supportServerSwitching lastConfig config = true) → Fresh (excluded q config) s
  separate : ∀ lastConfig, s.vars.connections config.hopType = some lastConfig →
    supportServerSwitching lastConfig config = true → Separate q config lastConfig s.vars

/-- When a request keeps the account; a deactivation always does. -/
def Balances (q : Platform) (s : World) (e : Event) : Prop :=
  match e.1 with
  | .activate config => Accountable q config e.2 s
  | .deactivate => True

theorem settled_activate {rs : List Reply} (h : Settled q s) (hsuits : Accountable q config rs s) :
    Triple (exec q) (Replies (Harmless q config s.vars)) (· = s) (activate utils q config)
      (Post (Settled q) (Settled q)) := by
  have hcalm : Harmless q config s.vars → excluded q config = [] := fun hc => hc.1
  refine activate_rule ?_ (fun lastConfig hsupport => ?_) (fun lastConfig hsupport => ?_)
    .skip
  · refine (settled_bringUp hcalm hsuits.exit).pre fun t ht => ?_
    obtain ⟨rfl, hnone⟩ := ht
    refine ⟨h, hnone, hsuits.fresh fun last hlast => ?_⟩
    cases hnone.symm.trans hlast
  · intro t b t' ht
    obtain ⟨rfl, hsome⟩ := ht
    have hswitches : ∀ last, t.vars.connections config.hopType = some last →
        supportServerSwitching last config = true := fun last hlast =>
      some.inj (hsome.symm.trans hlast) ▸ hsupport
    exact settled_switchTo hcalm (fun hc => hc.2 lastConfig hsome hsupport) hsuits.exit t b t'
      ⟨⟨h, hsuits.fresh hswitches, hsuits.separate lastConfig hsome hsupport⟩, hsome⟩
  · -- after the deactivation the monitor is gone, and with it every route
    have hdeactivate : Triple (exec q) (Replies (Harmless q config s.vars)) (Settled q)
        (deactivate utils) (Post (fun s => Settled q s ∧
          s.vars.connections config.hopType = none ∧ Fresh (excluded q config) s) (Settled q)) := by
      refine settled_deactivate.post fun b t ht => ?_
      obtain ⟨hsettled, hconn, hroutes⟩ := ht
      cases b with
      | true => exact ⟨hsettled, by rw [hconn], fun ip _ => .inr (hroutes ▸ not_mem_nil)⟩
      | false => exact hsettled
    exact (reactivate_rule hdeactivate (fun _ ht => ht.2.1) (settled_bringUp hcalm hsuits.exit)
      .skip).pre fun t ht => ht.1 ▸ h

/-- A request that suits keeps the account. -/
theorem settled_step (s : World) (e : Event) (hsuits : Balances q s e)
    (hs : Settled q s) : Settled q (step q s e) := by
  obtain ⟨request, rs⟩ := e
  cases request with
  | activate config =>
    have hrs : ∀ r ∈ rs, Replies (Harmless q config s.vars) r := by
      intro r hr
      rcases (show Accountable q config rs s from hsuits).replies with hc | hall
      · exact .inl hc
      · exact .inr (hall r hr)
    have hpost := triple_run (settled_activate hs hsuits) (.inr rfl) rs hrs s rfl
    exact hpost.same
  | deactivate =>
    have hpost : Triple (exec q) (Replies True) (Settled q) (deactivate utils) _ :=
      settled_deactivate
    exact (triple_run hpost (.inl trivial) rs (fun _ _ => .inl trivial) s hs).1

theorem settled_init (dns : DnsState) : Settled q (init dns) :=
  ⟨List.Perm.refl _, fun _ hc => (nomatch hc), rfl, rfl, rfl, fun h => absurd rfl h⟩

/-- Between the requests of a run in which each one suits, the exclusion routes are accounted for.
-/
theorem exclusionRoutes_accounted {dns : DnsState} {es : List Event}
    (hsuits : Trace.Meets (step q) (Balances q) (init dns) es) {reached : List Event}
    (hreached : reached <+: es) : Accounted q (Trace.run (step q) (init dns) reached) :=
  (hsuits.invariant settled_step (settled_init dns) hreached).accounted

/-- A tunnel for all traffic to a server, with addresses that go around it. -/
def sampleConfig (server : String) (excludedAddresses : List String) : InterfaceConfig :=
  { blankConfig with
    serverIpv4AddrIn := server
    excludedAddresses
    allowedIPAddressRanges := [.any4] }

/-- A host without network services. -/
def bareDns : DnsState := ⟨[], fun _ => none, fun _ => none⟩

/-- An activation with an excluded address. -/
theorem exclusionRoutes_accounted_sample :
    Accounted .plain (Trace.run (step .plain) (init bareDns)
      [(.activate (sampleConfig "9.9.9.9" ["1.2.3.4"]), [])]) :=
  have hsuits : Accountable .plain (sampleConfig "9.9.9.9" ["1.2.3.4"]) [] (init bareDns) :=
    ⟨.inr fun _ hr => (nomatch hr), fun h => HopType.noConfusion h,
      fun _ _ _ => .inr not_mem_nil, fun _ h => nomatch h⟩
  have hmeets : Trace.Meets (step .plain) (Balances .plain) (init bareDns)
      [(.activate (sampleConfig "9.9.9.9" ["1.2.3.4"]), [])] := ⟨hsuits, trivial⟩
  exclusionRoutes_accounted hmeets (prefix_refl _)

/-- An activation that fails at its last route leaves a count behind. When every call succeeds, the
route to a server is lost once its address is no longer excluded. -/
theorem exclusionRoutes_unaccounted :
    ¬Accounted .plain (Trace.run (step .plain) (init bareDns)
      [(.activate (sampleConfig "9.9.9.9" ["1.2.3.4"]),
        replicate 8 default ++ [⟨false, true, true⟩])]) ∧
    ¬Accounted .plain (Trace.run (step .plain) (init bareDns)
      [(.activate (sampleConfig "9.9.9.9" ["9.9.9.9"]), []),
        (.activate (sampleConfig "9.9.9.9" []), [])]) := by
  constructor
  · intro h
    have hcount := h.counts ⟨.ipv4 0x01020304#32, 32⟩
    revert hcount
    decide +kernel
  · intro h
    have hrouted := all_eq_true.mpr fun c hc => all_eq_true.mpr fun ip hip =>
      decide_eq_true (h.routed c hc ip hip)
    revert hrouted
    decide +kernel

end Dopamine.Macos.MacosDaemon
