import Dopamine.Client.Controller

/-!
# The recorded version of the catalog

A reply that reports a new version of the catalog starts a reload, and the end of a reload records
the version that was reported last. If a reload is running already, no other one is started, and its
end records the version as well. A reload records the version also if all its feeds failed.

The observer `observeCatalog` keeps which versions were reported when the reload began, and which of
them a reload has fetched something for. A version that is recorded should be among the latter.
-/

namespace Dopamine.Client.Controller

open QJsonObject Option List Trace

/-- The controller when the application starts, with what is stored. -/
def launch (model : ServersModel) (subscriptionId : String) (autoServerListUpdate : Bool)
    (lastCatalogVersion : String) : Controller :=
  { idle model with
    subscriptionId := subscriptionId
    autoServerListUpdate := autoServerListUpdate
    lastCatalogVersion := lastCatalogVersion }

/-- Versions of the catalog, since the stored one changed. -/
structure CatalogLog where
  /-- Those that a reply reported. -/
  reported : List String
  /-- Those that were reported when the last reload began. -/
  covered : List String
  /-- Those that were reported when a reload began that has fetched a feed. -/
  refreshed : List String

variable (kit : Toolkit) (s : Controller)

/-- The version that an event reports. -/
def reportedBy : Event → Option String
  | .catalog reply =>
      if s.polls = 0 ∨ catalogVersion kit reply = "" then none else some (catalogVersion kit reply)
  | _ => none

/-- An event with which a feed was fetched. -/
def fetches (e : Event) : Bool := (s.delivered kit e).any fun p => p.2.success

/-- The versions for which something was fetched, with the event. -/
def refreshedWith (e : Event) (log : CatalogLog) : List String :=
  if s.fetches kit e then log.covered ++ log.refreshed else log.refreshed

/-- What the observer sees of an event. -/
def observeCatalog (e : Event) (log : CatalogLog) : CatalogLog :=
  let reported := (s.reportedBy kit e).toList ++ log.reported
  if (s.step kit e).lastCatalogVersion ≠ s.lastCatalogVersion then ⟨[], [], []⟩
  else
    { reported := reported
      covered := if s.reload.isNone && (s.step kit e).reload.isSome then reported else log.covered
      refreshed := s.refreshedWith kit e log }

/-- If an event replaces the stored version, a reload that began when the new one had been reported
has fetched a feed. -/
def RecordsRefreshed (p : Controller × CatalogLog) (e : Event) : Prop :=
  p.1.lastCatalogVersion ≠ "" → (p.1.step kit e).lastCatalogVersion ≠ p.1.lastCatalogVersion →
    (p.1.step kit e).lastCatalogVersion ∈ p.1.refreshedWith kit e p.2

instance (p : Controller × CatalogLog) (e : Event) : Decidable (RecordsRefreshed kit p e) :=
  inferInstanceAs (Decidable (_ → _ → _))

/-- A reload that ends while a version is to be recorded has fetched a feed, and the version had
been reported when it began. -/
def EndsRefreshed (p : Controller × CatalogLog) (e : Event) : Prop :=
  ∀ r feed, p.1.delivered kit e = some (r, feed) → r.remaining = [] →
    p.1.pendingCatalogVersion ≠ "" →
      (r.anyFetched || feed.success) = true ∧ p.1.pendingCatalogVersion ∈ p.2.covered

/-! ## What a step does to the catalog -/

/-- Whether the running reload has fetched a feed. -/
def running : Option Bool := s.reload.map Reload.anyFetched

/-- What a step does to the reload and the versions. -/
inductive CatalogStep (e : Event) : Prop where
  | stays (reported : s.reportedBy kit e = none ∨ s.reportedBy kit e = some s.lastCatalogVersion)
      (delivered : s.delivered kit e = none)
      (running : (s.step kit e).running = s.running)
      (last : (s.step kit e).lastCatalogVersion = s.lastCatalogVersion)
      (pending : (s.step kit e).pendingCatalogVersion = s.pendingCatalogVersion)
  | starts (reported : s.reportedBy kit e = none) (delivered : s.delivered kit e = none)
      (idle : s.running = none) (running : (s.step kit e).running = some false)
      (last : (s.step kit e).lastCatalogVersion = s.lastCatalogVersion)
      (pending : (s.step kit e).pendingCatalogVersion = s.pendingCatalogVersion)
  | seeds (unknown : s.lastCatalogVersion = "") (delivered : s.delivered kit e = none)
      (last : (s.step kit e).lastCatalogVersion ≠ "")
      (pending : (s.step kit e).pendingCatalogVersion = s.pendingCatalogVersion)
  | reports (version : String) (reported : s.reportedBy kit e = some version)
      (delivered : s.delivered kit e = none)
      (known : s.lastCatalogVersion ≠ "") (ne : version ≠ "") (new : version ≠ s.lastCatalogVersion)
      (running : (s.step kit e).running = s.running ∨
        s.running = none ∧ (s.step kit e).running = some false)
      (last : (s.step kit e).lastCatalogVersion = s.lastCatalogVersion)
      (pending : (s.step kit e).pendingCatalogVersion = version)
  | delivers (r : Reload) (feed : Feed) (reported : s.reportedBy kit e = none)
      (delivered : s.delivered kit e = some (r, feed)) (before : s.running = some r.anyFetched)
      (more : r.remaining ≠ [])
      (running : (s.step kit e).running = some (r.anyFetched || feed.success))
      (last : (s.step kit e).lastCatalogVersion = s.lastCatalogVersion)
      (pending : (s.step kit e).pendingCatalogVersion = s.pendingCatalogVersion)
  | ends (r : Reload) (feed : Feed) (reported : s.reportedBy kit e = none)
      (delivered : s.delivered kit e = some (r, feed)) (before : s.running = some r.anyFetched)
      (done : r.remaining = []) (running : (s.step kit e).running = none)
      (last : (s.step kit e).lastCatalogVersion =
        if s.pendingCatalogVersion = "" then s.lastCatalogVersion else s.pendingCatalogVersion)
      (pending : (s.step kit e).pendingCatalogVersion = "")

variable {kit}

theorem reload_frame :
    s.reloadSubscriptionConfigs.lastCatalogVersion = s.lastCatalogVersion ∧
      s.reloadSubscriptionConfigs.pendingCatalogVersion = s.pendingCatalogVersion ∧
      (s.reloadSubscriptionConfigs.running = s.running ∨
        s.running = none ∧ s.reloadSubscriptionConfigs.running = some false) := by
  rw [reloadSubscriptionConfigs]
  split
  · next hreload _ =>
    refine ⟨rfl, rfl, .inr ⟨?_, rfl⟩⟩
    rw [running, hreload]
    rfl
  · exact ⟨rfl, rfl, .inl rfl⟩

theorem openFeed_frame (response : Response) :
    (s.openFeed response).lastCatalogVersion = s.lastCatalogVersion ∧
      (s.openFeed response).pendingCatalogVersion = s.pendingCatalogVersion ∧
      (s.openFeed response).running = s.running := by
  simp only [openFeed]
  split
  · next r body hreload =>
    split
    · refine ⟨rfl, rfl, ?_⟩
      rw [running, running, hreload]
      rfl
    · exact ⟨rfl, rfl, rfl⟩
  · exact ⟨rfl, rfl, rfl⟩

variable {s : Controller} {e : Event} {r : Reload} {feed : Feed} {p : Controller × CatalogLog}

theorem catalogStep_of_delivered (h : s.delivered kit e = some (r, feed)) :
    s.CatalogStep kit e := by
  have hreported : s.reportedBy kit e = none := by
    cases e with
    | catalog reply => cases h
    | _ => rfl
  have hbefore : s.running = some r.anyFetched := by
    rw [running, (delivered_eq_some h).1]
    rfl
  cases hremaining : r.remaining with
  | nil =>
    refine .ends r feed hreported h hbefore hremaining ?_ ?_ ?_ <;>
      simp only [step_of_delivered h, feedDone, hremaining] <;> rfl
  | cons id remaining =>
    refine .delivers r feed hreported h hbefore (hremaining ▸ cons_ne_nil _ _) ?_ ?_ ?_ <;>
      simp only [step_of_delivered h, feedDone, hremaining, running, map_some]

/-- A step with which no feed is complete and that is not a reply. -/
theorem catalogStep_of_same (hreported : s.reportedBy kit e = none)
    (hdelivered : s.delivered kit e = none) (hreload : (s.step kit e).reload = s.reload)
    (hlast : (s.step kit e).lastCatalogVersion = s.lastCatalogVersion)
    (hpending : (s.step kit e).pendingCatalogVersion = s.pendingCatalogVersion) :
    s.CatalogStep kit e :=
  .stays (.inl hreported) hdelivered (congrArg (Option.map Reload.anyFetched) hreload) hlast hpending

theorem catalogStep_reply (s : Controller) (reply : Response) : s.CatalogStep kit (.catalog reply) := by
  by_cases hpolls : s.polls = 0
  · have hstep : s.step kit (.catalog reply) = s := if_pos hpolls
    have hreported : s.reportedBy kit (.catalog reply) = none := if_pos (.inl hpolls)
    exact .stays (.inl hreported) rfl (by rw [hstep]) (by rw [hstep]) (by rw [hstep])
  have hstep : s.step kit (.catalog reply) = s.catalogReply kit reply := if_neg hpolls
  by_cases hversion : catalogVersion kit reply = ""
  · have hreply : s.catalogReply kit reply = { s with polls := s.polls - 1 } := by
      simp only [catalogReply, if_pos hversion]
    have hreported : s.reportedBy kit (.catalog reply) = none := if_pos (.inr hversion)
    exact .stays (.inl hreported) rfl (by rw [hstep, hreply]; rfl) (by rw [hstep, hreply])
      (by rw [hstep, hreply])
  have hreported : s.reportedBy kit (.catalog reply) = some (catalogVersion kit reply) :=
    if_neg (not_or.mpr ⟨hpolls, hversion⟩)
  by_cases hunknown : s.lastCatalogVersion = ""
  · have hreply : s.catalogReply kit reply =
        { s with polls := s.polls - 1, lastCatalogVersion := catalogVersion kit reply } := by
      simp only [catalogReply, if_neg hversion, if_pos hunknown]
    exact .seeds hunknown rfl (by rw [hstep, hreply]; exact hversion) (by rw [hstep, hreply])
  by_cases hknown : catalogVersion kit reply = s.lastCatalogVersion
  · have hreply : s.catalogReply kit reply = { s with polls := s.polls - 1 } := by
      simp only [catalogReply, if_neg hversion, if_neg hunknown, if_pos hknown]
    exact .stays (.inr (hknown ▸ hreported)) rfl (by rw [hstep, hreply]; rfl)
      (by rw [hstep, hreply]) (by rw [hstep, hreply])
  · obtain ⟨hlast, hpending, hrunning⟩ := reload_frame
      { s with polls := s.polls - 1, pendingCatalogVersion := catalogVersion kit reply }
    have hreply : s.catalogReply kit reply = reloadSubscriptionConfigs
        { s with polls := s.polls - 1, pendingCatalogVersion := catalogVersion kit reply } := by
      simp only [catalogReply, if_neg hversion, if_neg hunknown, if_neg hknown]
    rw [← hreply, ← hstep] at hlast hpending hrunning
    exact .reports _ hreported rfl hunknown hversion hknown hrunning hlast hpending

theorem catalogStep (s : Controller) (kit : Toolkit) (e : Event) : s.CatalogStep kit e := by
  cases hdelivered : s.delivered kit e with
  | some p => exact catalogStep_of_delivered hdelivered
  | none =>
    cases e with
    | catalog reply => exact s.catalogStep_reply reply
    | reload =>
      obtain ⟨hlast, hpending, hrunning | ⟨hidle, hrunning⟩⟩ := s.reload_frame
      · exact .stays (.inl rfl) rfl hrunning hlast hpending
      · exact .starts rfl rfl hidle hrunning hlast hpending
    | services response =>
      have hstep : s.step kit (.services response) = s.openFeed response := by
        simp only [step, hdelivered]
      obtain ⟨hlast, hpending, hrunning⟩ := s.openFeed_frame response
      rw [← hstep] at hlast hpending hrunning
      exact .stays (.inl rfl) hdelivered hrunning hlast hpending
    | configs answers =>
      have hstep : s.step kit (.configs answers) = s := by simp only [step, hdelivered]
      exact catalogStep_of_same rfl hdelivered (by rw [hstep]) (by rw [hstep]) (by rw [hstep])
    | poll =>
      refine catalogStep_of_same rfl rfl ?_ ?_ ?_ <;> simp only [step, checkCatalogVersion] <;>
        split_ifs <;> rfl
    | select | remove =>
      refine catalogStep_of_same rfl rfl ?_ ?_ ?_ <;> simp only [step] <;> split_ifs <;> rfl
    | respond k response =>
      refine catalogStep_of_same rfl rfl ?_ ?_ ?_ <;> simp only [step, finishUpdate] <;> split <;> rfl
    | _ => exact catalogStep_of_same rfl rfl rfl rfl rfl

/-! ## The versions that are reported and refreshed -/

/-- A version that is to be recorded is new, and one that was reported and is new is to be recorded.
What was refreshed and is new was refreshed by the running reload. -/
structure Tracked (running : Option Bool) (last pending : String) (log : CatalogLog) : Prop where
  known : pending ≠ "" → last ≠ ""
  new : pending ≠ "" → pending ≠ last
  pending : ∀ v ∈ log.reported, v ≠ last → pending ≠ ""
  covered_sub : log.covered ⊆ log.reported
  refreshed_sub : log.refreshed ⊆ log.reported
  refreshed : ∀ v ∈ log.refreshed, v ≠ last → running = some true ∧ v ∈ log.covered
  fetched : running = some true → log.covered ⊆ log.refreshed

namespace Tracked

variable {run : Option Bool} {last pending : String} {log : CatalogLog}

/-- Nothing is to be recorded and nothing was reported. -/
theorem nothing (run : Option Bool) (last : String) : Tracked run last "" ⟨[], [], []⟩ where
  known h := absurd rfl h
  new h := absurd rfl h
  pending _ hv := nomatch hv
  covered_sub := nil_subset _
  refreshed_sub := nil_subset _
  refreshed _ hv := nomatch hv
  fetched _ := nil_subset _

/-- The stored version is reported. -/
theorem reports_last (h : Tracked run last pending log) :
    Tracked run last pending { log with reported := last :: log.reported } :=
  { h with
    pending v hv hne := h.pending v ((mem_cons.mp hv).resolve_left hne) hne
    covered_sub := subset_cons_of_subset _ h.covered_sub
    refreshed_sub := subset_cons_of_subset _ h.refreshed_sub }

/-- A new version is reported. -/
theorem reports_new (h : Tracked run last pending log) {version : String} (hlast : last ≠ "")
    (hne : version ≠ "") (hnew : version ≠ last) :
    Tracked run last version { log with reported := version :: log.reported } :=
  { h with
    known _ := hlast
    new _ := hnew
    pending _ _ _ := hne
    covered_sub := subset_cons_of_subset _ h.covered_sub
    refreshed_sub := subset_cons_of_subset _ h.refreshed_sub }

/-- A reload begins. -/
theorem starts (h : Tracked none last pending log) :
    Tracked (some false) last pending { log with covered := log.reported } :=
  { h with
    covered_sub := List.Subset.refl _
    refreshed v hv hne := absurd (h.refreshed v hv hne).1 (by simp)
    fetched hfalse := absurd (some.inj hfalse) Bool.false_ne_true }

/-- The running reload fetches a feed. -/
theorem fetches (h : Tracked run last pending log) :
    Tracked (some true) last pending { log with refreshed := log.covered ++ log.refreshed } :=
  { h with
    refreshed_sub := append_subset.mpr ⟨h.covered_sub, h.refreshed_sub⟩
    refreshed v hv hne :=
      ⟨rfl, (mem_append.mp hv).elim id fun hmem => (h.refreshed v hmem hne).2⟩
    fetched _ := subset_append_left .. }

/-- A reload ends while nothing is to be recorded: all that was reported is stored. -/
theorem ends (h : Tracked run last "" log) : Tracked none last "" log :=
  { h with
    refreshed v hv hne := absurd rfl (h.pending v (h.refreshed_sub hv) hne)
    fetched hfalse := absurd hfalse (by simp) }

end Tracked

/-- The versions of a controller are tracked. -/
def TracksCatalog (p : Controller × CatalogLog) : Prop :=
  Tracked p.1.running p.1.lastCatalogVersion p.1.pendingCatalogVersion p.2

theorem refreshedWith_of_none (h : s.delivered kit e = none) (log : CatalogLog) :
    s.refreshedWith kit e log = log.refreshed := by
  rw [refreshedWith, fetches, h]
  rfl

theorem refreshedWith_of_some (h : s.delivered kit e = some (r, feed)) (log : CatalogLog) :
    s.refreshedWith kit e log =
      if feed.success then log.covered ++ log.refreshed else log.refreshed := by
  rw [refreshedWith, fetches, h]
  rfl

/-- A new version is stored: the observer forgets. -/
theorem observe_of_ne (h : (s.step kit e).lastCatalogVersion ≠ s.lastCatalogVersion)
    (log : CatalogLog) : s.observeCatalog kit e log = ⟨[], [], []⟩ :=
  if_pos h

theorem observe_of_eq (h : (s.step kit e).lastCatalogVersion = s.lastCatalogVersion)
    (log : CatalogLog) :
    s.observeCatalog kit e log =
      { reported := (s.reportedBy kit e).toList ++ log.reported
        covered :=
          if s.running.isNone && (s.step kit e).running.isSome then
            (s.reportedBy kit e).toList ++ log.reported
          else log.covered
        refreshed := s.refreshedWith kit e log } := by
  simp only [observeCatalog, running, isNone_map, isSome_map]
  exact if_neg (not_not.mpr h)

theorem tracksCatalog_step (h : TracksCatalog p) (e : Event) :
    TracksCatalog (watch (fun s e => s.step kit e) (observeCatalog kit) p e) := by
  obtain ⟨s, log⟩ := p
  replace h : Tracked s.running s.lastCatalogVersion s.pendingCatalogVersion log := h
  show Tracked (s.step kit e).running (s.step kit e).lastCatalogVersion
    (s.step kit e).pendingCatalogVersion (s.observeCatalog kit e log)
  cases s.catalogStep kit e with
  | seeds unknown delivered last pending =>
    have hempty : s.pendingCatalogVersion = "" := not_not.mp fun hne => h.known hne unknown
    rw [observe_of_ne (unknown.symm ▸ last), pending, hempty]
    exact .nothing ..
  | stays reported delivered running last pending =>
    have hold : (s.running.isNone && s.running.isSome) = false := by cases s.running <;> rfl
    rw [observe_of_eq last, refreshedWith_of_none delivered, running, last, pending, hold]
    rcases reported with hnone | hlast
    · rw [hnone]
      exact h
    · rw [hlast]
      exact h.reports_last
  | starts reported delivered idle running last pending =>
    rw [observe_of_eq last, refreshedWith_of_none delivered, reported, idle, running, last, pending]
    rw [idle] at h
    exact h.starts
  | reports version reported delivered known ne new running last pending =>
    have hreports := h.reports_new known ne new
    rw [observe_of_eq last, refreshedWith_of_none delivered, reported, last, pending]
    rcases running with hsame | ⟨hidle, hstarted⟩
    · have hold : (s.running.isNone && s.running.isSome) = false := by cases s.running <;> rfl
      rw [hsame, hold]
      exact hreports
    · rw [hidle] at hreports
      rw [hidle, hstarted]
      exact hreports.starts
  | delivers r feed reported delivered before more running last pending =>
    rw [observe_of_eq last, refreshedWith_of_some delivered, reported, before, running, last,
      pending]
    cases feed.success with
    | true =>
      rw [Bool.or_true]
      exact h.fetches
    | false =>
      rw [before] at h
      rw [Bool.or_false]
      exact h
  | ends r feed reported delivered before done running last pending =>
    by_cases hpending : s.pendingCatalogVersion = ""
    · rw [if_pos hpending] at last
      rw [hpending] at h
      rw [observe_of_eq last, refreshedWith_of_some delivered, reported, before, running, last,
        pending]
      cases feed.success with
      | true => exact h.fetches.ends
      | false => exact h.ends
    · rw [if_neg hpending] at last
      rw [observe_of_ne (last ▸ h.new hpending), pending]
      exact .nothing ..

/-! ## The end of a reload -/

theorem recordsRefreshed_iff (h : TracksCatalog p) (e : Event) :
    RecordsRefreshed kit p e ↔ EndsRefreshed kit p e := by
  obtain ⟨s, log⟩ := p
  replace h : Tracked s.running s.lastCatalogVersion s.pendingCatalogVersion log := h
  have hsame : (s.step kit e).lastCatalogVersion = s.lastCatalogVersion →
      RecordsRefreshed kit (s, log) e := fun heq _ hne => absurd heq hne
  have hnone : s.delivered kit e = none → EndsRefreshed kit (s, log) e := fun hnone r feed hsome =>
    absurd (hnone.symm.trans hsome) (by simp)
  cases s.catalogStep kit e with
  | stays reported delivered running last pending => exact iff_of_true (hsame last) (hnone delivered)
  | starts reported delivered idle running last pending =>
    exact iff_of_true (hsame last) (hnone delivered)
  | seeds unknown delivered last pending =>
    exact iff_of_true (fun hne => absurd unknown hne) (hnone delivered)
  | reports version reported delivered known ne new running last pending =>
    exact iff_of_true (hsame last) (hnone delivered)
  | delivers r feed reported delivered before more running last pending =>
    refine iff_of_true (hsame last) fun r' feed' hsome hdone => ?_
    obtain ⟨rfl, rfl⟩ := Prod.mk.inj (some.inj (delivered.symm.trans hsome))
    exact absurd hdone more
  | ends r feed reported delivered before done running last pending =>
    by_cases hpending : s.pendingCatalogVersion = ""
    · rw [if_pos hpending] at last
      exact iff_of_true (hsame last) fun _ _ _ _ hne => absurd hpending hne
    rw [if_neg hpending] at last
    have hnew := h.new hpending
    -- the version is recorded, so both sides are about it
    have hrecords : RecordsRefreshed kit (s, log) e ↔
        s.pendingCatalogVersion ∈ s.refreshedWith kit e log := by
      rw [RecordsRefreshed, last]
      exact ⟨fun hrec => hrec (h.known hpending) hnew, fun hmem _ _ => hmem⟩
    have hends : EndsRefreshed kit (s, log) e ↔
        (r.anyFetched || feed.success) = true ∧ s.pendingCatalogVersion ∈ log.covered := by
      refine ⟨fun hends => hends r feed delivered done hpending, fun hcond r' feed' hsome _ _ => ?_⟩
      obtain ⟨rfl, rfl⟩ := Prod.mk.inj (some.inj (delivered.symm.trans hsome))
      exact hcond
    rw [hrecords, hends, refreshedWith_of_some delivered]
    cases feed.success with
    | true =>
      rw [if_pos rfl, Bool.or_true, mem_append]
      refine ⟨fun hmem => ⟨rfl, ?_⟩, fun hcond => .inl hcond.2⟩
      exact hmem.elim id fun hmem => (h.refreshed _ hmem hnew).2
    | false =>
      rw [if_neg Bool.false_ne_true, Bool.or_false]
      constructor
      · intro hmem
        obtain ⟨hrunning, hcovered⟩ := h.refreshed _ hmem hnew
        exact ⟨some.inj (before.symm.trans hrunning), hcovered⟩
      · rintro ⟨hfetched, hcovered⟩
        exact h.fetched (before.trans (congrArg some hfetched)) hcovered

/-- The controller and the observer after some events. -/
def runCatalog (s : Controller) (kit : Toolkit) (events : List Event) : Controller × CatalogLog :=
  Trace.run (Trace.watch (fun s e => s.step kit e) (observeCatalog kit)) (s, ⟨[], [], []⟩) events

/-- In a run from the start of the application, every version that replaces another one was
refreshed first exactly if every reload that ends while a version is to be recorded has fetched a
feed and began after the version had been reported. -/
theorem catalog_version_refreshed_iff (kit : Toolkit) (model : ServersModel)
    (subscriptionId : String)
    (auto : Bool) (lastCatalogVersion : String) (events : List Event) :
    let s := launch model subscriptionId auto lastCatalogVersion
    (∀ before e, before ++ [e] <+: events → RecordsRefreshed kit (s.runCatalog kit before) e) ↔
      Meets (watch (fun s e => s.step kit e) (observeCatalog kit)) (EndsRefreshed kit)
        (s, ⟨[], [], []⟩) events := by
  intro s
  rw [meets_iff_forall_before]
  have hstart : TracksCatalog (s, ⟨[], [], []⟩) := .nothing none lastCatalogVersion
  refine forall₃_congr fun before e _ => recordsRefreshed_iff ?_ e
  exact @run_invariant _ _ _ TracksCatalog _ (fun _ e h => tracksCatalog_step h e) hstart before

/-- A version is recorded by a reload that fetched nothing, and by one that began before the version
was reported. -/
theorem catalog_version_not_refreshed :
    let kit := Toolkit.plain fun _ => ofMembers [("config", .string "c"), ("hostName", .string "h"),
      ("containers", .array [.object []]), ("services", .array [.object []]),
      ("response", .object [("version", .string "2")])]
    let s := launch (.resetModel [] (-1)) "a" true "1"
    let failed := s.runCatalog kit [.poll, .catalog (.ok "v")]
    let early := s.runCatalog kit [.reload, .services (.ok "s"), .poll, .catalog (.ok "v")]
    let fetched : Event := .configs fun _ => (⟨"", "", ""⟩, .ok "c")
    ¬RecordsRefreshed kit failed (.services (.error .apiConfigEmptyError)) ∧
      early.1.fetches kit fetched = true ∧ ¬RecordsRefreshed kit early fetched := by
  decide +kernel

end Dopamine.Client.Controller
