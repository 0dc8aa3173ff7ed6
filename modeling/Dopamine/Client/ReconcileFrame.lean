import Dopamine.Client.Reconcile

/-!
# Reconciling touches one subscription

`reconcileSubscription` writes to servers of its own subscription only. It removes a server only if
it has a connection that is neither among the fetched nor among the failed ones, and the feed of the
subscription names every connection that is listed, as fetched or as failed.
-/

namespace Dopamine.Client

open QJsonObject List

/-- The row is not one of the subscription: it belongs to another one, is a share or self-hosted. -/
def isForeign (subscriptionId : String) (r : Row) : Bool :=
  subscriptionIdForServer r.config ≠ subscriptionId

variable {subscriptionId : String} {configs : List QJsonObject}

theorem isForeign_eq_false {r : Row} :
    isForeign subscriptionId r = false ↔ subscriptionIdForServer r.config = subscriptionId := by
  rw [isForeign, decide_eq_false_iff_not, not_not]

theorem connectionUuid_configToInstall (config : QJsonObject) :
    connectionUuid (configToInstall config) = connectionUuid config := by
  simp [connectionUuid, apiConfig, configToInstall, installedApiConfig, objectAt, textAt,
    value_insert]

/-- The configs belong to the subscription or have no connection. -/
def Belong (subscriptionId : String) (configs : List QJsonObject) : Prop :=
  ∀ c ∈ configs, subscriptionIdForServer c = subscriptionId ∨ connectionUuid c = ""

theorem Belong.applyDisplayIndexAndSort (h : Belong subscriptionId configs) (kit : Toolkit) :
    Belong subscriptionId (kit.applyDisplayIndexAndSort configs) := by
  intro c' hc'
  obtain ⟨c, hc, n, rfl⟩ := Toolkit.exists_of_mem_applyDisplayIndexAndSort hc'
  have hid := serverId_setDisplayIndex c n
  rw [serverId, serverId, ServerId.mk.injEq] at hid
  rw [hid.1, hid.2.1]
  exact h c hc

/-- Upserts of configs of a subscription leave the rows of others, and add those without a
connection. -/
theorem filter_run (hid : subscriptionId ≠ "") (hconfigs : Belong subscriptionId configs)
    (t : Keyed.Table Row) :
    ∃ new, (installScheme.run t configs).rows.filter (isForeign subscriptionId) =
        t.rows.filter (isForeign subscriptionId) ++ new ∧
      ∀ r ∈ new, ∃ c ∈ configs, connectionUuid c = "" ∧ r.config = configToInstall c := by
  induction configs generalizing t with
  | nil => exact ⟨[], (append_nil _).symm, fun r hr => absurd hr not_mem_nil⟩
  | cons c configs ih =>
    have hrest : Belong subscriptionId configs := fun c' hc' =>
      hconfigs c' (mem_cons_of_mem _ hc')
    obtain ⟨new, hfilter, hnew⟩ := ih hrest (installScheme.upsert t c)
    have hwiden : ∀ r ∈ new, ∃ c' ∈ c :: configs, connectionUuid c' = "" ∧
        r.config = configToInstall c' := fun r hr => by
      obtain ⟨c', hc', hr'⟩ := hnew r hr
      exact ⟨c', mem_cons_of_mem _ hc', hr'⟩
    by_cases huuid : connectionUuid c = ""
    · -- a row without a connection is added
      have hadd : installScheme.upsert t c = ⟨t.rows ++ [⟨t.next, configToInstall c⟩], t.next + 1⟩ := by
        refine Keyed.Scheme.upsert_of_new ?_
        rw [any_eq_true]
        rintro ⟨r, -, hit⟩
        exact (installScheme_keyOf_eq_some (Keyed.Scheme.hits_iff.mp hit)).1 huuid
      have hforeign : isForeign subscriptionId ⟨t.next, configToInstall c⟩ = true := by
        have hnone := subscriptionId_of_uuid ((connectionUuid_configToInstall c).trans huuid)
        exact decide_eq_true (hnone.symm ▸ hid.symm)
      refine ⟨⟨t.next, configToInstall c⟩ :: new, ?_, ?_⟩
      · show (installScheme.run (installScheme.upsert t c) configs).rows.filter _ = _
        rw [hfilter, hadd, filter_append, filter_cons_of_pos hforeign, filter_nil,
          append_assoc]
        rfl
      · intro r hr
        rcases mem_cons.mp hr with rfl | hr
        · exact ⟨c, mem_cons_self, huuid, rfl⟩
        · exact hwiden r hr
    · -- a row of the subscription is written or added
      have hown := (hconfigs c mem_cons_self).resolve_right huuid
      have hinstallable : Installable c := .inl (hown ▸ hid)
      have hsub : ∀ {server : QJsonObject}, serverId server = serverId c →
          subscriptionIdForServer server = subscriptionId := fun h => by
        rw [serverId, serverId, ServerId.mk.injEq] at h
        exact h.1.trans hown
      refine ⟨new, ?_, hwiden⟩
      show (installScheme.run (installScheme.upsert t c) configs).rows.filter _ = _
      rw [hfilter, Keyed.Scheme.upsert]
      split_ifs
      · rw [Keyed.filter_updateFirst_of_disjoint]
        intro r _ hit
        have hkey := (installScheme_keyOf_eq_some (Keyed.Scheme.hits_iff.mp hit)).2
        exact ⟨isForeign_eq_false.mpr (hsub hkey),
          isForeign_eq_false.mpr (hsub (serverId_updatedServer hinstallable hkey))⟩
      · have hnot : isForeign subscriptionId ⟨t.next, configToInstall c⟩ = false :=
          isForeign_eq_false.mpr (hsub (serverId_configToInstall hinstallable))
        rw [filter_append, filter_cons_of_neg]
        · rw [filter_nil, append_nil]
        · exact ne_true_of_eq_false hnot

/-- Upserts keep the tags of the rows that are there, and give new tags to new rows. -/
theorem tags_run (t : Keyed.Table Row) (configs : List QJsonObject) :
    ∃ n, (installScheme.run t configs).rows.map Row.tag =
        t.rows.map Row.tag ++ range' t.next n ∧
      (installScheme.run t configs).next = t.next + n := by
  induction configs generalizing t with
  | nil => exact ⟨0, (append_nil _).symm, rfl⟩
  | cons c configs ih =>
    obtain ⟨n, hn, hnext⟩ := ih (installScheme.upsert t c)
    show ∃ n, (installScheme.run (installScheme.upsert t c) configs).rows.map Row.tag = _ ∧
      (installScheme.run (installScheme.upsert t c) configs).next = _
    rw [hn, hnext, Keyed.Scheme.upsert]
    split_ifs
    · exact ⟨n, congrArg (· ++ range' t.next n) (Keyed.map_updateFirst fun r _ _ => rfl), rfl⟩
    · refine ⟨n + 1, ?_, Nat.add_right_comm ..⟩
      rw [map_append, append_assoc, range'_succ]
      rfl

theorem isGone_iff {freshKeys failures : List String} {server : QJsonObject} :
    isGone subscriptionId freshKeys failures server = true ↔
      subscriptionIdForServer server = subscriptionId ∧ connectionUuid server ≠ "" ∧
        serverKey server ∉ freshKeys ∧ serverKey server ∉ failures := by
  simp [isGone, and_assoc]

namespace ServersModel

variable {m : ServersModel} {kit : Toolkit} {subscriptionId : String}
  {configs : List QJsonObject} {failures : List String}

/-- A server that is not gone is still there. -/
theorem tag_mem_reconcile {r : Row} (hr : r ∈ m.servers)
    (hkept : isGone subscriptionId (configs.map serverKey) failures r.config = false) :
    r.tag ∈ (m.reconcileSubscription kit subscriptionId configs failures).servers.map Row.tag := by
  obtain ⟨n, hnew, -⟩ := tags_run
    ⟨m.keptRows subscriptionId (configs.map serverKey) failures, m.nextTag⟩
    (kit.applyDisplayIndexAndSort configs)
  rw [← m.reconcile_servers] at hnew
  have hmem : r ∈ m.keptRows subscriptionId (configs.map serverKey) failures :=
    mem_filter.mpr ⟨hr, by rw [hkept]; rfl⟩
  exact hnew ▸ mem_append_left _ (mem_map_of_mem hmem)

theorem filter_reconcile (hid : subscriptionId ≠ "") (hconfigs : Belong subscriptionId configs) :
    ∃ new, (m.reconcileSubscription kit subscriptionId configs failures).servers.filter
          (isForeign subscriptionId) = m.servers.filter (isForeign subscriptionId) ++ new ∧
      ∀ r ∈ new, ∃ c ∈ kit.applyDisplayIndexAndSort configs,
        connectionUuid c = "" ∧ r.config = configToInstall c := by
  obtain ⟨new, hfilter, hnew⟩ := filter_run hid (hconfigs.applyDisplayIndexAndSort kit)
    ⟨m.keptRows subscriptionId (configs.map serverKey) failures, m.nextTag⟩
  rw [← m.reconcile_servers] at hfilter
  refine ⟨new, hfilter.trans (congrArg (· ++ new) ?_), hnew⟩
  show (m.servers.filter _).filter _ = _
  rw [filter_filter]
  refine filter_congr fun r _ => ?_
  cases hforeign : isForeign subscriptionId r with
  | false => rfl
  | true =>
    -- a foreign row is not gone
    rw [Bool.true_and, Bool.not_eq_true', Bool.eq_false_iff]
    exact fun hgone => of_decide_eq_true hforeign (isGone_iff.mp hgone).1

/-- Reconciling a subscription with configs of its own leaves all other servers and their order, but
for new servers without a connection. It removes a server only if it is one of the subscription,
with a connection that was neither fetched nor failed. After a feed, no server is removed whose
connection the feed lists. -/
theorem reconcile_frame (kit : Toolkit) (m : ServersModel) {subscriptionId : String}
    (hid : subscriptionId ≠ "") :
    (∀ configs failures, Belong subscriptionId configs →
      (∃ new, (m.reconcileSubscription kit subscriptionId configs failures).servers.filter
            (isForeign subscriptionId) = m.servers.filter (isForeign subscriptionId) ++ new ∧
        ∀ r ∈ new, ∃ c ∈ kit.applyDisplayIndexAndSort configs,
          connectionUuid c = "" ∧ r.config = configToInstall c) ∧
      ∀ r ∈ m.servers,
        r.tag ∉ (m.reconcileSubscription kit subscriptionId configs failures).servers.map Row.tag →
        subscriptionIdForServer r.config = subscriptionId ∧ connectionUuid r.config ≠ "" ∧
          serverKey r.config ∉ configs.map serverKey ∧ serverKey r.config ∉ failures) ∧
    ∀ shared servers body answers, ∀ item ∈ workItems (kit.fromJson body),
      item.connectionUuid ≠ "" → ∀ r ∈ m.servers, connectionUuid r.config = item.connectionUuid →
      nodeId r.config = item.nodeId →
      let feed := kit.fetchSubscriptionFeed subscriptionId shared servers (.ok body) answers
      r.tag ∈ (m.reconcileSubscription kit subscriptionId feed.configs
        feed.failures).servers.map Row.tag := by
  refine ⟨fun configs failures hconfigs => ⟨filter_reconcile hid hconfigs, fun r hr htag => ?_⟩, ?_⟩
  · refine isGone_iff.mp (by_contra fun hkept => htag ?_)
    exact tag_mem_reconcile hr (eq_false_of_ne_true hkept)
  · intro shared servers body answers item hitem huuid r hr hconnection hnode feed
    refine tag_mem_reconcile hr (Bool.eq_false_iff.mpr fun hgone => ?_)
    obtain ⟨-, -, hfresh, hfailed⟩ := isGone_iff.mp hgone
    have hkey : serverKey r.config = item.key := by
      rw [serverKey, hconnection, hnode]
      rfl
    rw [hkey] at hfresh hfailed
    exact (Toolkit.key_mem_fetchSubscriptionFeed hitem huuid).elim hfresh hfailed

/-- A server of another subscription, one that is gone and one that was fetched. -/
theorem reconcile_frame_two_subscriptions :
    let kit := Toolkit.plain fun _ => empty
    let m := resetModel [subscriptionServer "a" "u" "n" [], subscriptionServer "b" "u" "n" []] 0
    let configs := [subscriptionServer "a" "v" "n" []]
    (m.servers.map fun r => isForeign "a" r) = [false, true] ∧ Belong "a" configs ∧
      ∃ new, (m.reconcileSubscription kit "a" configs []).servers.filter (isForeign "a") =
          m.servers.filter (isForeign "a") ++ new ∧
        ∀ r ∈ new, ∃ c ∈ kit.applyDisplayIndexAndSort configs,
          connectionUuid c = "" ∧ r.config = configToInstall c := by
  intro kit m configs
  have hown : Belong "a" configs := forall_mem_singleton.mpr (.inl (by decide +kernel))
  exact ⟨by decide +kernel, hown, ((reconcile_frame kit m (by decide)).1 configs [] hown).1⟩

end ServersModel

end Dopamine.Client
