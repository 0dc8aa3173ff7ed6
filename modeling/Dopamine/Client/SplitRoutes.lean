import Dopamine.Client.VpnConnection

/-!
# The record of the routes of the sites

While the tunnel is up, the destinations that are routed via the gateway of split tunneling should
be those of `m_installedSplitRoutes`. An answer to a lookup of an earlier connection, or of another
route mode, should change neither. The routes that a connection needs for itself (to its name
servers, to the server, and to both halves of the addresses) are left out of the comparison.

The lookups of a refresh know their generation, and late answers to them change nothing
(`Timely.refreshAnswer`). The lookups of `addSitesRoutes` do not. `split_routes_intact_iff` says
which events keep the record right.
-/

namespace Dopamine.Client.VpnConnection

open List Trace

variable (q : Platform) (s : VpnConnection)

/-- The destinations of a list of addresses and subnets. -/
def targets (l : List String) : Set Destination := {d | ∃ e ∈ l, destination q e = some d}

/-- The addresses and subnets that a connection routes for itself. -/
def ownRoutes : List String :=
  ["0.0.0.0", "0.0.0.0/1", "128.0.0.0/1", s.dns1, s.dns2, s.remoteAddress] ++ xraySubnets

/-- The destinations that a connection routes for itself. -/
def own : Set Destination := targets q s.ownRoutes

/-- The destinations that are routed via a gateway. -/
def routedVia (gw : String) : Set Destination := {d | (gw, d) ∈ s.routes ∧ d ∉ s.own q}

/-- The destinations that are routed via the gateway of split tunneling. -/
def routed : Set Destination := s.routedVia q s.splitRefreshGw

/-- The destinations of `m_installedSplitRoutes`. -/
def recorded : Set Destination := {d | d ∈ targets q s.installedSplitRoutes ∧ d ∉ s.own q}

/-- While the tunnel is up, the record is right. -/
def Intact : Prop := s.connectionState = .connected → s.routed q = s.recorded q

variable {q} {s} {s' s'' : VpnConnection} {l : SiteLookup} {d : Destination} {gw ip : String}
  {ips : List String} {routes : ServiceRoutes} {state : ConnectionState} {t : VpnConnection}
  {addresses : List Address}

theorem mem_targets {l : List String} : d ∈ targets q l ↔ d ∈ l.filterMap (destination q) :=
  mem_filterMap.symm

theorem targets_mono {l l' : List String} (h : ∀ e ∈ l, e ∈ l') : targets q l ⊆ targets q l' :=
  fun _ ⟨e, he, hd⟩ => ⟨e, h e he, hd⟩

/-! ## Calls -/

theorem mem_routeAddList {g : String} :
    (g, d) ∈ (IpcCall.routeAddList gw ips).apply q routes ↔
      (g, d) ∈ routes ∨ g = gw ∧ d ∈ targets q ips := by
  rw [IpcCall.apply, mem_append, mem_map, mem_targets]
  refine or_congr_right ⟨?_, ?_⟩
  · rintro ⟨d', hd', heq⟩
    obtain ⟨rfl, rfl⟩ := Prod.mk.inj heq
    exact ⟨rfl, hd'⟩
  · rintro ⟨rfl, hd⟩
    exact ⟨d, hd, rfl⟩

theorem mem_routeDeleteList {g : String} :
    (g, d) ∈ (IpcCall.routeDeleteList gw ips).apply q routes ↔
      (g, d) ∈ routes ∧ ¬(g = gw ∧ d ∈ targets q ips) := by
  rw [IpcCall.apply, mem_filter, decide_eq_true_iff, mem_targets]

/-- The record and the routes are the same, but for routes that a connection has for itself. -/
structure Similar (q : Platform) (s s' : VpnConnection) : Prop where
  gw : s'.splitRefreshGw = s.splitRefreshGw
  installed : s'.installedSplitRoutes = s.installedSplitRoutes
  own : s'.ownRoutes = s.ownRoutes
  routes : ∀ g d, d ∉ s.own q → ((g, d) ∈ s'.routes ↔ (g, d) ∈ s.routes)

namespace Similar

theorem own_eq (h : Similar q s s') : s'.own q = s.own q := congrArg (targets q) h.own

theorem trans (h : Similar q s s') (h' : Similar q s' s'') : Similar q s s'' where
  gw := h'.gw.trans h.gw
  installed := h'.installed.trans h.installed
  own := h'.own.trans h.own
  routes g d hd := (h'.routes g d (h.own_eq ▸ hd)).trans (h.routes g d hd)

theorem routedVia_eq (h : Similar q s s') (g : String) : s'.routedVia q g = s.routedVia q g := by
  refine Set.ext fun d => ?_
  show (g, d) ∈ s'.routes ∧ d ∉ s'.own q ↔ (g, d) ∈ s.routes ∧ d ∉ s.own q
  rw [h.own_eq]
  exact and_congr_left (h.routes g d)

theorem routed_eq (h : Similar q s s') : s'.routed q = s.routed q := by
  rw [routed, h.gw, h.routedVia_eq, routed]

theorem recorded_eq (h : Similar q s s') : s'.recorded q = s.recorded q := by
  rw [recorded, h.installed, h.own_eq, recorded]

end Similar

variable (s)

/-- A call that does not concern the routes. -/
theorem similar_call {c : IpcCall} (h : c.apply q s.routes = s.routes) : Similar q s (s.call q c) :=
  ⟨rfl, rfl, rfl, fun g d _ => iff_of_eq (congrArg ((g, d) ∈ ·) h)⟩

/-- A connection adds routes for itself. -/
theorem similar_add_own (gw : String) (ips : List String)
    (h : ∀ e ∈ ips, e ∈ s.ownRoutes) : Similar q s (s.call q (.routeAddList gw ips)) where
  gw := rfl
  installed := rfl
  own := rfl
  routes _ _ hd :=
    mem_routeAddList.trans (or_iff_left fun hown => hd (targets_mono h hown.2))

/-- A connection deletes routes of its own. -/
theorem similar_delete_own (gw : String) (ips : List String)
    (h : ∀ e ∈ ips, e ∈ s.ownRoutes) : Similar q s (s.call q (.routeDeleteList gw ips)) where
  gw := rfl
  installed := rfl
  own := rfl
  routes _ _ hd :=
    mem_routeDeleteList.trans (and_iff_left fun hown => hd (targets_mono h hown.2))

/-! ## Sites are added -/

/-- Nothing is routed via the gateway but sites of the list. -/
def Fresh (q : Platform) (s : VpnConnection) (gw : String) (mode : RouteMode) : Prop :=
  s.routedVia q gw ⊆ targets q (SplitSettings.siteIps q (s.split.vpnSites mode))

theorem addSitesRoutes_intact_iff (gw : String) (mode : RouteMode) :
    (s.addSitesRoutes q gw mode).routed q = (s.addSitesRoutes q gw mode).recorded q ↔
      Fresh q s gw mode := by
  set ips := SplitSettings.siteIps q (s.split.vpnSites mode) with hips
  have hrouted : ∀ d, d ∈ (s.addSitesRoutes q gw mode).routed q ↔
      ((gw, d) ∈ s.routes ∨ d ∈ targets q ips) ∧ d ∉ s.own q := fun d =>
    and_congr_left' (mem_routeAddList.trans (or_congr_right (and_iff_right rfl)))
  have hrecorded : ∀ d, d ∈ (s.addSitesRoutes q gw mode).recorded q ↔
      d ∈ targets q ips ∧ d ∉ s.own q := fun d => Iff.rfl
  constructor
  · intro heq d hd
    have hmem : d ∈ (s.addSitesRoutes q gw mode).routed q := (hrouted d).mpr ⟨.inl hd.1, hd.2⟩
    rw [heq] at hmem
    exact ((hrecorded d).mp hmem).1
  · intro hfresh
    refine Set.ext fun d => ?_
    rw [hrouted, hrecorded]
    refine and_congr_left fun hown => or_iff_right_of_imp fun hroute => hfresh ⟨hroute, hown⟩

/-- All addresses but the sites are routed into the tunnel. -/
def ExceptSites : Prop :=
  s.split.isSitesSplitTunnelingEnabled = true ∧ s.split.routeMode = .vpnAllExceptSites

instance : DecidablePred ExceptSites := fun s =>
  inferInstanceAs (Decidable (s.split.isSitesSplitTunnelingEnabled = true ∧
    s.split.routeMode = .vpnAllExceptSites))

/-- The gateway of the sites, if they are added when the tunnel is up. -/
def exceptGateway : Option String :=
  if s.isWireGuard = false ∧ s.ExceptSites then s.vpnProtocol.map VpnProtocol.routeGateway else none

theorem similar_waitForRefresh : Similar q s s.waitForRefresh :=
  ⟨rfl, rfl, rfl, fun _ _ _ => Iff.rfl⟩

theorem similar_routeAll (p : VpnProtocol) : Similar q s (s.routeAll q p) := by
  have hlow := similar_add_own (q := q) s p.vpnGateway ["0.0.0.0/1"] (by simp [ownRoutes])
  refine hlow.trans ((similar_add_own _ _ _ ?_).trans (similar_add_own _ _ _ ?_))
  · simp [ownRoutes]
  · simp [ownRoutes, call]

/-- The setup of the routes, without sites and with them. -/
theorem setupRoutes_similar (p : VpnProtocol) (h : ¬s.ExceptSites) :
    Similar q s (s.setupRoutes q p) := by
  have hdns := similar_add_own (q := q) s p.vpnGateway [s.dns1, s.dns2] (by simp [ownRoutes])
  rw [setupRoutes]
  split_ifs with henabled
  · have hdelete := hdns.trans (similar_delete_own (q := q) _ p.vpnGateway ["0.0.0.0"]
      (by simp [ownRoutes]))
    rw [setupSplit]
    split
    · exact hdelete
    · exact hdelete.trans ⟨rfl, rfl, rfl, fun _ _ _ => Iff.rfl⟩
    · next hmode => exact absurd ⟨henabled, hmode⟩ h
  · exact hdns

theorem setupRoutes_except (p : VpnProtocol) (h : s.ExceptSites) :
    ∃ t, Similar q s t ∧ t.split = s.split ∧
      Similar q (t.addSitesRoutes q p.routeGateway .vpnAllExceptSites) (s.setupRoutes q p) := by
  have hdns := similar_add_own (q := q) s p.vpnGateway [s.dns1, s.dns2] (by simp [ownRoutes])
  have hdelete := hdns.trans (similar_delete_own (q := q) _ p.vpnGateway ["0.0.0.0"]
    (by simp [ownRoutes]))
  have hsimilar := hdelete.trans (similar_routeAll _ p)
  refine ⟨_, hsimilar, ?_, ?_⟩
  · rw [routeAll_split, call_split, call_split]
  rw [setupRoutes, if_pos h.1, setupSplit]
  split
  · next hmode => cases hmode.symm.trans h.2
  · next hmode => cases hmode.symm.trans h.2
  · exact similar_waitForRefresh _

theorem similar_flush : Similar q s ((s.call q .resetIpStack).call q .flushDns) :=
  (similar_call s rfl).trans (similar_call _ rfl)

variable {s}

/-- What is done when the tunnel is up, without sites and with them. -/
theorem onConnected_similar (h : s.exceptGateway = none) : Similar q s (s.onConnected q) := by
  rw [onConnected]
  split_ifs with hcontainer
  · exact s.similar_flush
  · cases hprotocol : s.vpnProtocol with
    | none => exact s.similar_flush
    | some p =>
      refine s.similar_flush.trans (setupRoutes_similar _ p fun hexcept => ?_)
      rw [exceptGateway, if_pos ⟨Bool.eq_false_iff.mpr hcontainer, hexcept⟩, hprotocol] at h
      cases h

theorem onConnected_except (h : s.exceptGateway = some gw) :
    ∃ t, Similar q s t ∧ t.split = s.split ∧
      Similar q (t.addSitesRoutes q gw .vpnAllExceptSites) (s.onConnected q) := by
  rw [exceptGateway] at h
  split_ifs at h with hexcept
  obtain ⟨p, hprotocol, rfl⟩ := Option.map_eq_some_iff.mp h
  rw [onConnected, if_neg (Bool.eq_false_iff.mp hexcept.1), hprotocol]
  obtain ⟨t, ht, hsplit, hsetup⟩ := setupRoutes_except (q := q)
    ((s.call q .resetIpStack).call q .flushDns) p hexcept.2
  exact ⟨t, s.similar_flush.trans ht, hsplit, hsetup⟩

/-- The tunnel is up. -/
theorem report_connected_intact_iff (s : VpnConnection) :
    (s.setConnectionState q .connected).Intact q ↔
      match s.exceptGateway with
      | some gw => Fresh q s gw .vpnAllExceptSites
      | none => s.routed q = s.recorded q := by
  rw [setConnectionState_connected, Intact]
  have hstate : Similar q (s.onConnected q)
      { s.onConnected q with connectionState := .connected } :=
    ⟨rfl, rfl, rfl, fun _ _ _ => Iff.rfl⟩
  refine (forall_prop_of_true rfl).trans ?_
  rw [hstate.routed_eq, hstate.recorded_eq]
  cases hgateway : s.exceptGateway with
  | none =>
    have hsimilar := onConnected_similar (q := q) hgateway
    rw [hsimilar.routed_eq, hsimilar.recorded_eq]
  | some gw =>
    obtain ⟨t, ht, hsplit, hsimilar⟩ := onConnected_except (q := q) hgateway
    rw [hsimilar.routed_eq, hsimilar.recorded_eq, addSitesRoutes_intact_iff, Fresh,
      ht.routedVia_eq, hsplit]
    rfl

/-- In any other state the tunnel is not up. -/
theorem setConnectionState_ne_connected (h : state ≠ .connected) :
    (s.setConnectionState q state).connectionState ≠ .connected := by
  rw [setConnectionState]
  split_ifs with hstays
  · rw [hstays.2]
    decide
  · exact h

/-! ## A refresh -/

/-- No entry that goes has the destination of one that stays. -/
def Apart (q : Platform) (s : VpnConnection) (resolved : List String) : Prop :=
  ∀ d ∈ targets q (s.installedSplitRoutes.filter fun ip => ip ∉ resolved),
    d ∈ targets q resolved → d ∈ s.own q

/-- Calls for lists that may be empty. -/
theorem mem_routes_add :
    (gw, d) ∈ (if ips = [] then t else t.call q (.routeAddList gw ips)).routes ↔
      (gw, d) ∈ t.routes ∨ d ∈ targets q ips := by
  split_ifs with hnil
  · rw [hnil]
    exact (or_iff_left fun ⟨_, he, _⟩ => nomatch he).symm
  · exact mem_routeAddList.trans (or_congr_right (and_iff_right rfl))

theorem mem_routes_delete :
    (gw, d) ∈ (if ips = [] then t else t.call q (.routeDeleteList gw ips)).routes ↔
      (gw, d) ∈ t.routes ∧ d ∉ targets q ips := by
  split_ifs with hnil
  · rw [hnil]
    exact (and_iff_left fun ⟨_, he, _⟩ => nomatch he).symm
  · exact mem_routeDeleteList.trans (and_congr_right' (not_congr (and_iff_right rfl)))

/-- What a refresh that found some addresses does. -/
theorem delta_spec (hup : s.connectionState = .connected) (resolved : List String) :
    (s.applySplitRefreshDelta q resolved).splitRefreshGw = s.splitRefreshGw ∧
      (s.applySplitRefreshDelta q resolved).installedSplitRoutes = resolved ∧
      (s.applySplitRefreshDelta q resolved).ownRoutes = s.ownRoutes ∧
      (s.applySplitRefreshDelta q resolved).connectionState = .connected ∧
      ∀ d, (s.splitRefreshGw, d) ∈ (s.applySplitRefreshDelta q resolved).routes ↔
        ((s.splitRefreshGw, d) ∈ s.routes ∨
          d ∈ targets q (resolved.filter fun ip => ip ∉ s.installedSplitRoutes)) ∧
        d ∉ targets q (s.installedSplitRoutes.filter fun ip => ip ∉ resolved) := by
  rw [applySplitRefreshDelta, if_neg (not_not.mpr hup)]
  refine ⟨?_, ?_, ?_, ?_, fun d => mem_routes_delete.trans (and_congr_left' mem_routes_add)⟩
  all_goals
    dsimp only
    split_ifs <;> first | rfl | exact hup

/-- A refresh keeps the record right exactly if no entry that goes has the destination of one that
stays. -/
theorem delta_intact_iff (hup : s.connectionState = .connected) (h : s.routed q = s.recorded q)
    (resolved : List String) :
    (s.applySplitRefreshDelta q resolved).Intact q ↔ Apart q s resolved := by
  obtain ⟨hgw, hinstalled, hown, hstate, hroutes⟩ := delta_spec (q := q) hup resolved
  rw [Intact, hstate]
  refine (forall_prop_of_true rfl).trans ?_
  have hsame : ∀ d ∉ s.own q, ((s.splitRefreshGw, d) ∈ s.routes ↔
      d ∈ targets q s.installedSplitRoutes) := fun d hd => by
    have hmem : d ∈ s.routed q ↔ d ∈ s.recorded q := by rw [h]
    exact (and_iff_left hd).symm.trans (hmem.trans (and_iff_left hd))
  -- What is routed afterwards was found and did not go.
  have hrouted : ∀ d, d ∈ (s.applySplitRefreshDelta q resolved).routed q ↔
      (d ∈ targets q resolved ∧
        d ∉ targets q (s.installedSplitRoutes.filter fun ip => ip ∉ resolved)) ∧ d ∉ s.own q := by
    intro d
    rw [routed, hgw, routedVia, Set.mem_ofPred_eq, own, hown, hroutes]
    refine and_congr_left fun hd => and_congr_left fun hgone => ?_
    rw [hsame d hd]
    constructor
    · rintro (⟨e, he, hd⟩ | ⟨e, he, hd⟩)
      · refine ⟨e, ?_, hd⟩
        by_contra hnot
        exact hgone ⟨e, mem_filter.mpr ⟨he, decide_eq_true hnot⟩, hd⟩
      · exact ⟨e, (mem_filter.mp he).1, hd⟩
    · rintro ⟨e, he, hd⟩
      by_cases hmem : e ∈ s.installedSplitRoutes
      · exact .inl ⟨e, hmem, hd⟩
      · exact .inr ⟨e, mem_filter.mpr ⟨he, decide_eq_true hmem⟩, hd⟩
  have hrecorded : ∀ d, d ∈ (s.applySplitRefreshDelta q resolved).recorded q ↔
      d ∈ targets q resolved ∧ d ∉ s.own q := by
    intro d
    rw [recorded, hinstalled, Set.mem_ofPred_eq, own, hown]
    rfl
  constructor
  · intro heq d hgone hd
    by_contra hnot
    have hmem := (hrecorded d).mpr ⟨hd, hnot⟩
    rw [← heq, hrouted] at hmem
    exact hmem.1.2 hgone
  · intro hapart
    refine Set.ext fun d => ?_
    rw [hrouted, hrecorded]
    refine and_congr_left fun hnot => and_iff_left_of_imp fun hd hgone => ?_
    exact hnot (hapart d hgone hd)

/-- A refresh that looks up nothing keeps the record right. -/
def KeepsRefresh (q : Platform) (s : VpnConnection) : Prop :=
  s.vpnProtocol ≠ none → s.splitRefreshPending ≤ 0 → s.refreshDomains q = [] →
    Apart q s (s.refreshSubnets q)

theorem refresh_intact_iff (hup : s.connectionState = .connected) (h : s.routed q = s.recorded q) :
    (s.refreshSitesRoutes q).Intact q ↔ KeepsRefresh q s := by
  rw [refreshSitesRoutes]
  split_ifs with hskip hnames
  · refine iff_of_true (fun _ => h) fun hprotocol hpending _ => ?_
    rcases hskip with hdown | hnone | hbusy
    · exact absurd hup hdown
    · exact absurd hnone hprotocol
    · exact absurd hbusy (not_lt.mpr hpending)
  · rw [not_or, not_or] at hskip
    have hdelta := delta_intact_iff (q := q) (s := { s with splitRefreshResolved := [] }) hup h
      (s.refreshSubnets q)
    refine hdelta.trans ⟨fun hapart _ _ _ => hapart, fun hkeeps => ?_⟩
    exact hkeeps hskip.2.1 (not_lt.mp hskip.2.2) hnames
  · exact iff_of_true (fun _ => h) fun _ _ hnil => absurd hnil hnames

/-! ## Answers -/

/-- The destination of an address that was looked up is recorded. -/
def Known (q : Platform) (s : VpnConnection) (ip : String) : Prop :=
  ∀ d, destination q ip = some d → d ∉ s.own q → d ∈ s.recorded q

theorem mem_routed_addRoute :
    d ∈ (s.addRoute q l ip).routed q ↔
      d ∈ s.routed q ∨ s.splitRefreshGw = l.gw ∧ destination q ip = some d ∧ d ∉ s.own q := by
  have hroutes : (s.splitRefreshGw, d) ∈ (s.addRoute q l ip).routes ↔
      (s.splitRefreshGw, d) ∈ s.routes ∨ s.splitRefreshGw = l.gw ∧ destination q ip = some d := by
    refine mem_routeAddList.trans (or_congr_right (and_congr_right' ?_))
    exact ⟨fun ⟨e, he, hd⟩ => mem_singleton.mp he ▸ hd, fun hd =>
      ⟨ip, mem_singleton.mpr rfl, hd⟩⟩
  refine (and_congr_left' hroutes).trans ?_
  rw [or_and_right, and_assoc]
  rfl

theorem mem_recorded_addRoute :
    d ∈ (s.addRoute q l ip).recorded q ↔
      d ∈ s.recorded q ∨ destination q ip = some d ∧ d ∉ s.own q := by
  have htargets : d ∈ targets q (s.addRoute q l ip).installedSplitRoutes ↔
      d ∈ targets q s.installedSplitRoutes ∨ destination q ip = some d := by
    constructor
    · rintro ⟨e, he, hd⟩
      rcases mem_insert_iff.mp he with rfl | he
      · exact .inr hd
      · exact .inl ⟨e, he, hd⟩
    · rintro (⟨e, he, hd⟩ | hd)
      · exact ⟨e, mem_insert_of_mem he, hd⟩
      · exact ⟨ip, mem_insert_self, hd⟩
  refine (and_congr_left' htargets).trans ?_
  rw [or_and_right]
  rfl

/-- An answer keeps the record right exactly if its lookup has the gateway or its address is
known. -/
theorem addRoute_intact_iff (h : s.routed q = s.recorded q) (l : SiteLookup) (ip : String) :
    (s.addRoute q l ip).routed q = (s.addRoute q l ip).recorded q ↔
      s.splitRefreshGw = l.gw ∨ Known q s ip := by
  constructor
  · intro heq
    by_cases hgw : s.splitRefreshGw = l.gw
    · exact .inl hgw
    · refine .inr fun d hd hown => ?_
      have hmem := (mem_recorded_addRoute (l := l)).mpr (.inr ⟨hd, hown⟩)
      rw [← heq, mem_routed_addRoute] at hmem
      rcases hmem with hmem | hmem
      · exact h ▸ hmem
      · exact absurd hmem.1 hgw
  · intro hcases
    refine Set.ext fun d => ?_
    rw [mem_routed_addRoute, mem_recorded_addRoute, h]
    refine or_congr_right' fun hnot => ⟨And.right, fun hd => ⟨?_, hd⟩⟩
    rcases hcases with hgw | hknown
    · exact hgw
    · exact absurd (hknown d hd.1 hd.2) hnot

/-- An answer changes nothing exactly if its address is routed and recorded. -/
theorem addRoute_unchanged_iff (l : SiteLookup) (ip : String) :
    (s.addRoute q l ip).routed q = s.routed q ∧ (s.addRoute q l ip).recorded q = s.recorded q ↔
      Known q s ip ∧ (s.splitRefreshGw = l.gw → ∀ d, destination q ip = some d → d ∉ s.own q →
        d ∈ s.routed q) := by
  constructor
  · rintro ⟨hrouted, hrecorded⟩
    refine ⟨fun d hd hown => ?_, fun hgw d hd hown => ?_⟩
    · rw [← hrecorded]
      exact mem_recorded_addRoute.mpr (.inr ⟨hd, hown⟩)
    · rw [← hrouted]
      exact mem_routed_addRoute.mpr (.inr ⟨hgw, hd, hown⟩)
  · rintro ⟨hknown, hrouted⟩
    constructor <;> refine Set.ext fun d => ?_
    · exact mem_routed_addRoute.trans (or_iff_left_of_imp fun hd => hrouted hd.1 d hd.2.1 hd.2.2)
    · exact mem_recorded_addRoute.trans (or_iff_left_of_imp fun hd => hknown d hd.1 hd.2)

theorem siteAnswered_similar (h : ∀ ip, firstIPv4 addresses = some ip → ip ∈ l.ips) :
    Similar q s (s.siteAnswered q l addresses) := by
  rw [siteAnswered]
  cases haddress : firstIPv4 addresses with
  | none => exact ⟨rfl, rfl, rfl, fun _ _ _ => Iff.rfl⟩
  | some ip =>
    dsimp only
    rw [if_pos (h ip haddress)]
    exact similar_call s rfl

theorem siteAnswered_addRoute (haddress : firstIPv4 addresses = some ip) (h : ip ∉ l.ips) :
    Similar q (s.addRoute q l ip) (s.siteAnswered q l addresses) := by
  rw [siteAnswered, haddress]
  dsimp only
  rw [if_neg h]
  exact similar_call _ rfl

/-- An answer adds a route for a new address, or it changes nothing of interest. -/
theorem siteAnswered_cases (s : VpnConnection) (l : SiteLookup) (addresses : List Address) :
    (∃ ip, (firstIPv4 addresses = some ip ∧ ip ∉ l.ips) ∧
      Similar q (s.addRoute q l ip) (s.siteAnswered q l addresses)) ∨
    (¬∃ ip, firstIPv4 addresses = some ip ∧ ip ∉ l.ips) ∧
      Similar q s (s.siteAnswered q l addresses) := by
  by_cases hnew : ∃ ip, firstIPv4 addresses = some ip ∧ ip ∉ l.ips
  · obtain ⟨ip, hip, hnew⟩ := hnew
    exact .inl ⟨ip, ⟨hip, hnew⟩, siteAnswered_addRoute hip hnew⟩
  · exact .inr ⟨hnew, siteAnswered_similar fun ip hip => not_not.mp fun hnot => hnew ⟨ip, hip, hnot⟩⟩

theorem siteAnswered_connectionState (s : VpnConnection) (l : SiteLookup)
    (addresses : List Address) :
    (s.siteAnswered q l addresses).connectionState = s.connectionState := by
  rw [siteAnswered]
  split
  · rfl
  · split_ifs <;> rfl

/-- The answer to a lookup of a refresh. -/
theorem refreshAnswered_intact_iff (hup : s.connectionState = .connected)
    (h : s.routed q = s.recorded q) (l : RefreshLookup) (addresses : List Address) :
    (s.refreshAnswered q l addresses).Intact q ↔
      (l.generation = s.splitRefreshGeneration → s.splitRefreshPending = 1 →
        Apart q s (s.resolvedWith q l addresses)) := by
  rw [refreshAnswered]
  split_ifs with hlate hlast
  · refine iff_of_true (fun _ => h) fun hgeneration => ?_
    rcases hlate with hlate | hdown
    · exact absurd hgeneration hlate
    · exact absurd hup hdown
  · rw [not_or, not_not] at hlate
    have hdelta := delta_intact_iff (q := q)
      (s := { s.keepAnswer q l addresses with splitRefreshResolved := [] }) hup h
      (s.resolvedWith q l addresses)
    exact hdelta.trans ⟨fun hapart _ _ => hapart, fun hkeeps => hkeeps hlate.1 (by omega)⟩
  · exact iff_of_true (fun _ => h) fun _ hone => absurd (by omega) hlast

/-! ## Events -/

/-- An event keeps the record right. -/
def Keeps (q : Platform) (s : VpnConnection) : Event → Prop
  | .report .connected =>
      match s.exceptGateway with
      | some gw => Fresh q s gw .vpnAllExceptSites
      -- what was left while the tunnel was down is on the record
      | none => s.connectionState ≠ .connected → s.routed q = s.recorded q
  | .clearRoutes => s.connectionState = .connected → s.clearings ≠ 0 → s.recorded q = ∅
  | .addSites => s.connectionState = .connected → s.sitesTimers ≠ 0 →
      ∀ p, s.vpnProtocol = some p → Fresh q s p.vpnGateway s.split.routeMode
  | .firstRefresh i => s.connectionState = .connected → s.sitesTimers = 0 →
      s.firstRefreshes[i]? = some s.splitRefreshGeneration → KeepsRefresh q s
  | .refresh => s.connectionState = .connected → s.sitesTimers = 0 → s.splitRefreshTimer = true →
      KeepsRefresh q s
  | .siteAnswer i addresses => s.connectionState = .connected → ∀ l ip, s.siteLookups[i]? = some l →
      firstIPv4 addresses = some ip → ip ∉ l.ips → s.splitRefreshGw = l.gw ∨ Known q s ip
  | .refreshAnswer i addresses => s.connectionState = .connected → ∀ l,
      s.refreshLookups[i]? = some l → l.generation = s.splitRefreshGeneration →
      s.splitRefreshPending = 1 → Apart q s (s.resolvedWith q l addresses)
  | _ => True

/-- In a state that is not up nothing is required. -/
theorem intact_of_ne (h : s.connectionState ≠ .connected) : s.Intact q := fun hup => absurd hup h

theorem Similar.intact_iff (h : Similar q s s') (hstate : s'.connectionState = s.connectionState) :
    s'.Intact q ↔ s.Intact q := by
  rw [Intact, Intact, hstate, h.routed_eq, h.recorded_eq]

section

variable (h : s.Intact q)
include h

theorem clearRoutes_intact_iff : (s.step q .clearRoutes).Intact q ↔ Keeps q s .clearRoutes := by
  rw [step]
  split_ifs with hnone
  · exact iff_of_true h fun _ hqueued => absurd hnone hqueued
  · have hrouted : ((({ s with clearings := s.clearings - 1 }.call q .flushDns).call q
        .clearSavedRoutes)).routed q = ∅ :=
      Set.eq_empty_of_forall_notMem fun d hd => not_mem_nil hd.1
    rw [Intact, hrouted]
    exact ⟨fun hempty hup _ => (hempty hup).symm, fun hempty hup => (hempty hup hnone).symm⟩

theorem addSites_intact_iff : (s.step q .addSites).Intact q ↔ Keeps q s .addSites := by
  rw [step]
  cases hprotocol : s.vpnProtocol with
  | none => exact iff_of_true h fun _ _ p hp => by cases hprotocol.symm.trans hp
  | some p =>
    split_ifs with hnone
    · exact iff_of_true h fun _ hwaits => absurd hnone hwaits
    · rw [Intact, addSitesRoutes_intact_iff]
      refine forall_congr' fun hup => ⟨fun hfresh _ p' hp' => ?_, fun hkeeps => ?_⟩
      · obtain rfl := Option.some.inj (hprotocol.symm.trans hp')
        exact hfresh
      · exact hkeeps hnone p hprotocol

theorem firstRefresh_intact_iff (i : ℕ) :
    (s.step q (.firstRefresh i)).Intact q ↔ Keeps q s (.firstRefresh i) := by
  rw [step]
  cases htimer : s.firstRefreshes[i]? with
  | none => exact iff_of_true h fun _ _ hi => by cases htimer.symm.trans hi
  | some generation =>
    dsimp only
    split_ifs with hsites hlate
    · exact iff_of_true h fun _ hzero => absurd hzero hsites
    · refine iff_of_true h fun hup _ hi => ?_
      rcases hlate with hlate | hdown
      · exact absurd (Option.some.inj (htimer.symm.trans hi)) hlate
      · exact absurd hup hdown
    · rw [not_or, not_not, not_not] at hlate
      have hrefresh := refresh_intact_iff (q := q)
        (s := { s with firstRefreshes := s.firstRefreshes.eraseIdx i }) hlate.2 (h hlate.2)
      refine hrefresh.trans ⟨fun hkeeps _ _ _ => hkeeps, fun hkeeps => ?_⟩
      exact hkeeps hlate.2 (not_not.mp hsites) (hlate.1 ▸ htimer)

theorem refreshTimer_intact_iff : (s.step q .refresh).Intact q ↔ Keeps q s .refresh := by
  rw [step]
  split_ifs with hruns
  · by_cases hup : s.connectionState = .connected
    · refine (refresh_intact_iff hup (h hup)).trans ⟨fun hkeeps _ _ _ => hkeeps, fun hkeeps => ?_⟩
      exact hkeeps hup hruns.2 hruns.1
    · rw [refreshSitesRoutes, if_pos (.inl hup)]
      exact iff_of_true h fun hup' => absurd hup' hup
  · exact iff_of_true h fun _ hzero htimer => absurd ⟨htimer, hzero⟩ hruns

theorem siteAnswer_intact_iff (i : ℕ) (addresses : List Address) :
    (s.step q (.siteAnswer i addresses)).Intact q ↔ Keeps q s (.siteAnswer i addresses) := by
  rw [step]
  cases hlookup : s.siteLookups[i]? with
  | none => exact iff_of_true h fun _ l _ hl => by cases hlookup.symm.trans hl
  | some l =>
    have hstate := siteAnswered_connectionState (q := q)
      { s with siteLookups := s.siteLookups.eraseIdx i } l addresses
    rcases siteAnswered_cases (q := q) { s with siteLookups := s.siteLookups.eraseIdx i } l
      addresses with ⟨ip, ⟨hip, hnew⟩, hsimilar⟩ | ⟨hnew, hsimilar⟩
    · rw [Intact, hstate, hsimilar.routed_eq, hsimilar.recorded_eq]
      refine forall_congr' fun hup => (addRoute_intact_iff (h hup) l ip).trans ?_
      refine ⟨fun hcases l' ip' hl' hip' _ => ?_, fun hkeeps => hkeeps l ip hlookup hip hnew⟩
      obtain rfl := Option.some.inj (hlookup.symm.trans hl')
      obtain rfl := Option.some.inj (hip.symm.trans hip')
      exact hcases
    · refine iff_of_true ((hsimilar.intact_iff hstate).mpr h) fun _ l' ip hl' hip hnot => ?_
      obtain rfl := Option.some.inj (hlookup.symm.trans hl')
      exact absurd ⟨ip, hip, hnot⟩ hnew

theorem refreshAnswer_intact_iff (i : ℕ) (addresses : List Address) :
    (s.step q (.refreshAnswer i addresses)).Intact q ↔ Keeps q s (.refreshAnswer i addresses) := by
  rw [step]
  cases hlookup : s.refreshLookups[i]? with
  | none => exact iff_of_true h fun _ l hl => by cases hlookup.symm.trans hl
  | some l =>
    dsimp only
    by_cases hup : s.connectionState = .connected
    · refine (refreshAnswered_intact_iff (q := q)
        (s := { s with refreshLookups := s.refreshLookups.eraseIdx i }) hup (h hup) l
        addresses).trans ⟨fun hkeeps _ l' hl' => ?_, fun hkeeps => hkeeps hup l hlookup⟩
      obtain rfl := Option.some.inj (hlookup.symm.trans hl')
      exact hkeeps
    · rw [refreshAnswered, if_pos (.inr hup)]
      exact iff_of_true h fun hup' => absurd hup' hup

theorem step_intact_iff (e : Event) : (s.step q e).Intact q ↔ Keeps q s e := by
  cases e with
  | edit | statusUpdated => exact iff_of_true h trivial
  | connectToVpn remoteAddress dns1 dns2 =>
    exact iff_of_true (intact_of_ne (setConnectionState_ne_connected (by decide))) trivial
  | startProtocol protocol =>
    rw [step]
    split_ifs with hnone
    · exact iff_of_true (intact_of_ne (setConnectionState_ne_connected (by decide))) trivial
    · exact iff_of_true h trivial
  | setupRouting =>
    rw [step]
    cases s.vpnProtocol with
    | none => exact iff_of_true h trivial
    | some p =>
      have hsimilar := similar_add_own (q := q) s p.vpnGateway xraySubnets
        fun e he => mem_append_right _ he
      exact iff_of_true ((hsimilar.intact_iff rfl).mpr h) trivial
  | report state =>
    by_cases hup : state = .connected
    · subst hup
      refine (report_connected_intact_iff s).trans ?_
      rw [Keeps]
      cases s.exceptGateway with
      | some gw => rfl
      | none => exact ⟨fun hleft _ => hleft, fun hleft => (em _).elim h hleft⟩
    · refine iff_of_true (intact_of_ne (setConnectionState_ne_connected hup)) ?_
      cases state with
      | connected => exact absurd rfl hup
      | _ => trivial
  | reconnectToVpn =>
    rw [step]
    split_ifs
    · exact iff_of_true h trivial
    · exact iff_of_true (intact_of_ne (setConnectionState_ne_connected (by decide))) trivial
  | disconnectFromVpn =>
    rw [step]
    split_ifs
    · exact iff_of_true (intact_of_ne (setConnectionState_ne_connected (by decide))) trivial
    · refine iff_of_true (intact_of_ne ?_) trivial
      exact setConnectionState_ne_connected (q := q) (s := s) (by decide)
  | clearRoutes => exact clearRoutes_intact_iff h
  | addSites => exact addSites_intact_iff h
  | firstRefresh i => exact firstRefresh_intact_iff h i
  | refresh => exact refreshTimer_intact_iff h
  | siteAnswer i addresses => exact siteAnswer_intact_iff h i addresses
  | refreshAnswer i addresses => exact refreshAnswer_intact_iff h i addresses

end

/-! ## Late answers -/

/-- The lookups of a refresh that are not late are of this connection and of its mode. -/
def Timely (s : VpnConnection) : Prop :=
  ∀ l ∈ s.refreshLookups, l.generation ≤ s.splitRefreshGeneration ∧
    (l.generation = s.splitRefreshGeneration → s.sitesTimers = 0 ∧
      l.connection = s.connections ∧ l.mode = s.splitRefreshMode)

/-- No refresh begins, and the connection and its mode stay the same. -/
structure Stays (s s' : VpnConnection) : Prop where
  lookups : ∀ l ∈ s'.refreshLookups, l ∈ s.refreshLookups
  generation : s'.splitRefreshGeneration = s.splitRefreshGeneration
  timers : s.sitesTimers = 0 → s'.sitesTimers = 0
  connections : s'.connections = s.connections
  mode : s'.splitRefreshMode = s.splitRefreshMode

/-- All lookups of refreshes get late. -/
structure Passes (s s' : VpnConnection) : Prop where
  lookups : ∀ l ∈ s'.refreshLookups, l ∈ s.refreshLookups
  generation : s.splitRefreshGeneration < s'.splitRefreshGeneration

theorem Stays.refl (s : VpnConnection) : Stays s s := ⟨fun _ => id, rfl, id, rfl, rfl⟩

theorem Timely.stays (h : s.Timely) (hstays : Stays s s') : s'.Timely := by
  intro l hl
  obtain ⟨hle, hnow⟩ := h l (hstays.lookups l hl)
  rw [hstays.generation, hstays.connections, hstays.mode]
  refine ⟨hle, fun hgeneration => ?_⟩
  obtain ⟨htimers, hconnection, hmode⟩ := hnow hgeneration
  exact ⟨hstays.timers htimers, hconnection, hmode⟩

theorem Timely.passes (h : s.Timely) (hpasses : Passes s s') : s'.Timely := by
  intro l hl
  have hlt := (h l (hpasses.lookups l hl)).1.trans_lt hpasses.generation
  exact ⟨hlt.le, fun hgeneration => absurd hgeneration hlt.ne⟩

theorem Stays.call (h : Stays s s') (c : IpcCall) : Stays s (s'.call q c) := { h with }

theorem passes_waitForRefresh (hlookups : ∀ l ∈ s'.refreshLookups, l ∈ s.refreshLookups)
    (hgeneration : s'.splitRefreshGeneration = s.splitRefreshGeneration) :
    Passes s s'.waitForRefresh where
  lookups := hlookups
  generation := hgeneration ▸ Nat.lt_succ_self s'.splitRefreshGeneration

theorem Stays.routeAll (h : Stays s s') (p : VpnProtocol) : Stays s (s'.routeAll q p) :=
  ((h.call _).call _).call _

theorem Stays.addSitesRoutes (h : Stays s s') (gw : String) (mode : RouteMode) :
    Passes s (s'.addSitesRoutes q gw mode).waitForRefresh :=
  passes_waitForRefresh h.lookups h.generation

theorem setupSplit_stays_or_passes (s : VpnConnection) (p : VpnProtocol) :
    Stays s (s.setupSplit q p) ∨ Passes s (s.setupSplit q p) := by
  have hdelete := (Stays.refl s).call (q := q) (.routeDeleteList p.vpnGateway ["0.0.0.0"])
  rw [setupSplit]
  split
  · exact .inl hdelete
  · exact .inr (passes_waitForRefresh hdelete.lookups hdelete.generation)
  · exact .inr ((hdelete.routeAll p).addSitesRoutes _ _)

theorem Stays.trans (h : Stays s s') (h' : Stays s' s'') : Stays s s'' where
  lookups l hl := h.lookups l (h'.lookups l hl)
  generation := h'.generation.trans h.generation
  timers := h'.timers ∘ h.timers
  connections := h'.connections.trans h.connections
  mode := h'.mode.trans h.mode

theorem Stays.trans_passes (h : Stays s s') (h' : Passes s' s'') : Passes s s'' where
  lookups l hl := h.lookups l (h'.lookups l hl)
  generation := h.generation ▸ h'.generation

theorem onConnected_stays_or_passes (s : VpnConnection) :
    Stays s (s.onConnected q) ∨ Passes s (s.onConnected q) := by
  have hflush := ((Stays.refl s).call (q := q) .resetIpStack).call (q := q) .flushDns
  rw [onConnected]
  split_ifs
  · exact .inl hflush
  · cases s.vpnProtocol with
    | none => exact .inl hflush
    | some p =>
      dsimp only
      rw [setupRoutes]
      have hdns := hflush.call (q := q) (.routeAddList p.vpnGateway [s.dns1, s.dns2])
      split_ifs
      · exact (setupSplit_stays_or_passes _ p).imp hdns.trans hdns.trans_passes
      · exact .inl hdns

theorem setConnectionState_passes (h : state ≠ .connected) :
    Passes s (s.setConnectionState q state) := by
  rw [setConnectionState, onConnectionStateChanged, if_neg h]
  split_ifs <;> exact ⟨fun _ => id, Nat.lt_succ_self _⟩

theorem delta_stays (s : VpnConnection) (resolved : List String) :
    Stays s (s.applySplitRefreshDelta q resolved) := by
  have hframe : ∀ (t : VpnConnection) (c : IpcCall) (p : Prop) [Decidable p], Stays s t →
      Stays s (if p then t else t.call q c) := by
    intro t c p _ ht
    split_ifs
    · exact ht
    · exact ht.call c
  rw [applySplitRefreshDelta]
  split_ifs
  · exact Stays.refl s
  · exact hframe _ _ _ (hframe _ _ _ ⟨fun _ => id, rfl, id, rfl, rfl⟩)

/-- A refresh begins while no sites wait. -/
theorem Timely.refreshSitesRoutes (h : s.Timely) (hsites : s.sitesTimers = 0) :
    (s.refreshSitesRoutes q).Timely := by
  rw [VpnConnection.refreshSitesRoutes]
  split_ifs
  · exact h
  · have hclear : Stays s { s with splitRefreshResolved := [] } := ⟨fun _ => id, rfl, id, rfl, rfl⟩
    exact h.stays (hclear.trans (delta_stays _ _))
  · intro l hl
    rcases mem_append.mp hl with hl | hl
    · exact h l hl
    · obtain ⟨domain, -, rfl⟩ := mem_map.mp hl
      exact ⟨le_rfl, fun _ => ⟨hsites, rfl, rfl⟩⟩

theorem siteAnswered_stays (s : VpnConnection) (l : SiteLookup) (addresses : List Address) :
    Stays s (s.siteAnswered q l addresses) := by
  have hadd : ∀ ip, Stays s (s.addRoute q l ip) := fun ip => ⟨fun _ => id, rfl, id, rfl, rfl⟩
  rw [siteAnswered]
  split
  · exact Stays.refl s
  · split_ifs
    · exact (Stays.refl s).call _
    · exact (hadd _).call _

theorem refreshAnswered_stays (s : VpnConnection) (l : RefreshLookup) (addresses : List Address) :
    Stays s (s.refreshAnswered q l addresses) := by
  have hkeep : Stays s (s.keepAnswer q l addresses) := ⟨fun _ => id, rfl, id, rfl, rfl⟩
  have hclear : Stays s { s.keepAnswer q l addresses with splitRefreshResolved := [] } :=
    ⟨fun _ => id, rfl, id, rfl, rfl⟩
  rw [refreshAnswered]
  split_ifs
  · exact Stays.refl s
  · exact hclear.trans (delta_stays _ _)
  · exact hkeep

/-- While sites wait, all lookups of refreshes are late. -/
theorem Timely.addSites (h : s.Timely) : (s.step q .addSites).Timely := by
  rw [step]
  split
  · split_ifs with hnone
    · exact h
    · intro l hl
      obtain ⟨hle, hnow⟩ := h l hl
      exact ⟨hle, fun hgeneration => absurd (hnow hgeneration).1 hnone⟩
  · exact h

theorem Timely.firstRefresh (h : s.Timely) (i : ℕ) : (s.step q (.firstRefresh i)).Timely := by
  rw [step]
  split
  · dsimp only
    split_ifs with hsites
    · exact h
    · exact h
    · have hbefore : Timely { s with firstRefreshes := s.firstRefreshes.eraseIdx i } := h
      exact hbefore.refreshSitesRoutes (not_not.mp hsites)
  · exact h

theorem Timely.step (h : s.Timely) (e : Event) : (s.step q e).Timely := by
  cases e with
  | edit | statusUpdated => exact h
  | connectToVpn remoteAddress dns1 dns2 =>
    have hpasses := setConnectionState_passes (q := q)
      (s := { s with remoteAddress := remoteAddress })
      (show ConnectionState.connecting ≠ .connected by decide)
    exact h.passes { hpasses with }
  | startProtocol protocol =>
    have hnext : Timely { s with vpnProtocol := protocol, sitesTimers := 0 } :=
      h.stays ⟨fun _ => id, rfl, fun _ => rfl, rfl, rfl⟩
    rw [VpnConnection.step]
    split_ifs
    · exact hnext.passes (setConnectionState_passes (by decide))
    · exact hnext
  | setupRouting =>
    rw [VpnConnection.step]
    split
    · exact h.stays ((Stays.refl s).call _)
    · exact h
  | report state =>
    by_cases hup : state = .connected
    · subst hup
      show (s.setConnectionState q .connected).Timely
      rw [setConnectionState_connected]
      rcases s.onConnected_stays_or_passes (q := q) with hstays | hpasses
      · exact h.stays { hstays with }
      · exact h.passes { hpasses with }
    · exact h.passes (setConnectionState_passes hup)
  | reconnectToVpn =>
    rw [VpnConnection.step]
    split_ifs
    · exact h
    · exact h.passes (setConnectionState_passes (by decide))
  | disconnectFromVpn =>
    rw [VpnConnection.step]
    split_ifs
    · exact h.passes (setConnectionState_passes (by decide))
    · have hpasses := setConnectionState_passes (q := q) (s := s)
        (show ConnectionState.disconnecting ≠ .connected by decide)
      exact h.passes { hpasses with }
  | clearRoutes =>
    rw [VpnConnection.step]
    split_ifs
    · exact h
    · exact h.stays ⟨fun _ => id, rfl, id, rfl, rfl⟩
  | addSites => exact h.addSites
  | firstRefresh i => exact h.firstRefresh i
  | refresh =>
    rw [VpnConnection.step]
    split_ifs with hruns
    · exact h.refreshSitesRoutes hruns.2
    · exact h
  | siteAnswer i addresses =>
    rw [VpnConnection.step]
    split
    · have hbefore : Timely { s with siteLookups := s.siteLookups.eraseIdx i } := h
      exact hbefore.stays (siteAnswered_stays _ _ _)
    · exact h
  | refreshAnswer i addresses =>
    rw [VpnConnection.step]
    split
    · have herase : Stays s { s with refreshLookups := s.refreshLookups.eraseIdx i } :=
        ⟨fun _ hl => mem_of_mem_eraseIdx hl, rfl, id, rfl, rfl⟩
      exact h.stays (herase.trans (refreshAnswered_stays _ _ _))
    · exact h

/-- The answer is to a lookup of an earlier connection or of another route mode. -/
def Late (s : VpnConnection) : Event → Prop
  | .siteAnswer i _ => ∃ l, s.siteLookups[i]? = some l ∧
      (l.connection ≠ s.connections ∨ l.mode ≠ s.splitRefreshMode)
  | .refreshAnswer i _ => ∃ l, s.refreshLookups[i]? = some l ∧
      (l.connection ≠ s.connections ∨ l.mode ≠ s.splitRefreshMode)
  | _ => False

/-- Neither what is routed nor what is recorded changes. -/
def Unchanged (q : Platform) (s s' : VpnConnection) : Prop :=
  s'.routed q = s.routed q ∧ s'.recorded q = s.recorded q

/-- A late answer is of no use, or it is known and routed. -/
def Spares (q : Platform) (s : VpnConnection) : Event → Prop
  | .siteAnswer i addresses => Late s (.siteAnswer i addresses) → ∀ l ip,
      s.siteLookups[i]? = some l → firstIPv4 addresses = some ip → ip ∉ l.ips → Known q s ip ∧
        (s.splitRefreshGw = l.gw → ∀ d, destination q ip = some d → d ∉ s.own q → d ∈ s.routed q)
  | _ => True

/-- Late answers to the lookups of a refresh change nothing. -/
theorem Timely.refreshAnswer (h : s.Timely) {i : ℕ} (hlate : Late s (.refreshAnswer i addresses)) :
    Unchanged q s (s.step q (.refreshAnswer i addresses)) := by
  obtain ⟨l, hl, hlate⟩ := hlate
  have hgeneration : l.generation ≠ s.splitRefreshGeneration := by
    intro heq
    obtain ⟨-, hconnection, hmode⟩ := (h l (mem_of_getElem? hl)).2 heq
    rcases hlate with hlate | hlate
    · exact hlate hconnection
    · exact hlate hmode
  rw [VpnConnection.step, hl]
  dsimp only
  rw [refreshAnswered, if_pos (.inl hgeneration)]
  exact ⟨rfl, rfl⟩

/-- Late answers to the lookups of `addSitesRoutes`. -/
theorem late_siteAnswer_iff (s : VpnConnection) (i : ℕ) (addresses : List Address) :
    (Late s (.siteAnswer i addresses) → Unchanged q s (s.step q (.siteAnswer i addresses))) ↔
      Spares q s (.siteAnswer i addresses) := by
  refine forall_congr' fun hlate => ?_
  obtain ⟨l, hl, -⟩ := hlate
  rw [step, hl]
  rcases siteAnswered_cases (q := q) { s with siteLookups := s.siteLookups.eraseIdx i } l
    addresses with ⟨ip, ⟨hip, hnew⟩, hsimilar⟩ | ⟨hnew, hsimilar⟩
  · rw [Unchanged, hsimilar.routed_eq, hsimilar.recorded_eq]
    refine (addRoute_unchanged_iff (q := q)
      (s := { s with siteLookups := s.siteLookups.eraseIdx i }) l ip).trans ?_
    refine ⟨fun hknown l' ip' hl' hip' _ => ?_, fun hspares => hspares l ip rfl hip hnew⟩
    obtain rfl := Option.some.inj hl'
    obtain rfl := Option.some.inj (hip.symm.trans hip')
    exact hknown
  · refine iff_of_true ⟨hsimilar.routed_eq, hsimilar.recorded_eq⟩ fun l' ip hl' hip hnot => ?_
    obtain rfl := Option.some.inj hl'
    exact absurd ⟨ip, hip, hnot⟩ hnew

theorem Timely.late_iff (h : s.Timely) (e : Event) :
    (Late s e → Unchanged q s (s.step q e)) ↔ Spares q s e := by
  cases e with
  | siteAnswer i addresses => exact late_siteAnswer_iff s i addresses
  | refreshAnswer i addresses => exact iff_of_true h.refreshAnswer trivial
  | _ => exact iff_of_true (fun hlate => absurd hlate id) trivial

/-- In a run of the client the record of the routes is right whenever the tunnel is up, and late
answers change neither routes nor record, exactly if every event keeps the record right and spares
it when it is late. -/
theorem split_routes_intact_iff (q : Platform) (settings : Settings) (split : SplitSettings)
    (events : List Event) :
    ((∀ reached, reached <+: events → (run q (initial settings split) reached).Intact q) ∧
      ∀ before e, before ++ [e] <+: events → Late (run q (initial settings split) before) e →
        Unchanged q (run q (initial settings split) before)
          ((run q (initial settings split) before).step q e)) ↔
      Trace.Meets (step q) (fun s e => Keeps q s e ∧ Spares q s e) (initial settings split)
        events := by
  have hstart : (initial settings split).Intact q := intact_of_ne ConnectionState.noConfusion
  have hgood := @forall_good_iff_meets _ _ (step q) (Keeps q) (Intact q)
    (initial settings split) events (fun _ _ => True) (fun _ e _ h => step_intact_iff h e)
    (meets_of_forall (fun _ _ => trivial) _ _)
  have htimely : ∀ before, (run q (initial settings split) before).Timely :=
    @run_invariant _ _ (step q) Timely (initial settings split) (fun _ e h => h.step e)
      fun _ hl => nomatch hl
  rw [and_iff_right hstart, meets_iff_forall_before] at hgood
  rw [meets_iff_forall_before]
  constructor
  · rintro ⟨hintact, hlate⟩ before e hbefore
    exact ⟨hgood.mp hintact before e hbefore,
      ((htimely before).late_iff e).mp (hlate before e hbefore)⟩
  · intro hmeets
    refine ⟨hgood.mpr fun before e hbefore => (hmeets before e hbefore).1, ?_⟩
    intro before e hbefore
    exact ((htimely before).late_iff e).mpr (hmeets before e hbefore).2

/-- A server with an Xray container. -/
def xrayServer : Settings := ⟨[⟨0, .ofMembers [("defaultContainer", .string "amnezia-xray")]⟩], 0⟩

/-- The settings of a client that looks up one site and does not tunnel it. -/
def exampleSettings : SplitSettings where
  isSitesSplitTunnelingEnabled := true
  routeMode := .vpnAllExceptSites
  vpnSites _ := Maps.SortedMap.empty.set "example.org" (some "")

/-- Two connections in different networks, and an answer to the lookup of the first one. -/
def lateAnswer : List Event :=
  [.connectToVpn "203.0.113.7" "1.1.1.1" "1.0.0.1",
    .startProtocol (some ⟨"10.33.0.2", "192.168.1.1"⟩), .report .connected,
    .report .disconnected, .clearRoutes, .connectToVpn "203.0.113.7" "1.1.1.1" "1.0.0.1",
    .startProtocol (some ⟨"10.33.0.2", "192.168.2.1"⟩), .report .connected,
    .siteAnswer 0 [.v4 0x5DB8D822#32]]

/-- The late answer is recorded, but it is routed via the gateway of the first network only. -/
theorem split_routes_late_answer :
    (run .plain (initial xrayServer exampleSettings) lateAnswer).connectionState = .connected ∧
      (run .plain (initial xrayServer exampleSettings) lateAnswer).installedSplitRoutes =
        ["93.184.216.34"] ∧
      (run .plain (initial xrayServer exampleSettings) lateAnswer).splitRefreshGw = "192.168.2.1" ∧
      ¬(run .plain (initial xrayServer exampleSettings) lateAnswer).Intact .plain := by
  refine ⟨by decide +kernel, by decide +kernel, by decide +kernel, fun hintact => ?_⟩
  have hmem := Set.ext_iff.mp (hintact (by decide +kernel)) ⟨0x5DB8D822#32, 0xFFFFFFFF#32⟩
  simp only [routed, routedVia, recorded, own, Set.mem_ofPred_eq, mem_targets] at hmem
  revert hmem
  decide +kernel

end Dopamine.Client.VpnConnection
