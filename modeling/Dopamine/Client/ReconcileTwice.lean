import Dopamine.Client.ReconcileFrame

/-!
# Reconciling twice

A second run of `reconcileSubscription` with the configs of a feed changes nothing, and the triples
of the servers stay distinct, exactly if every config of the feed has a connection: a config without
one is not matched and is added again in every run.
-/

namespace Dopamine.Client

open QJsonObject List Option Bool

/-! ## The configs of a feed -/

theorem append_ne_empty_left {s t : String} (h : s ≠ "") : s ++ t ≠ "" := by
  simp [h]

namespace Toolkit

variable (kit : Toolkit) (item : WorkItem)

theorem connectionName_ne (protocolName : String) : kit.connectionName item protocolName ≠ "" := by
  rw [connectionName]
  split_ifs with hpool hlabel
  · exact hpool
  · exact append_ne_empty_left (append_ne_empty_left (append_ne_empty_left (by decide)))
  · exact hlabel

theorem connectionDescription_ne (protocolName hostName : String) :
    kit.connectionDescription item protocolName hostName ≠ "" := by
  rw [connectionDescription]
  simp

/-- A decorated server has a name and a description, and only one `auth_data`. -/
theorem hasText_decorate (authData server : QJsonObject) (item : WorkItem) (rev : String) :
    HasText (kit.decorate authData server item rev) "name" ∧
      HasText (kit.decorate authData server item rev) "description" := by
  have hname := kit.connectionName_ne item
    (kit.protocolName item (decorateApiConfig authData item rev (apiConfig server)))
  have hdescription := kit.connectionDescription_ne item
    (kit.protocolName item (decorateApiConfig authData item rev (apiConfig server)))
    (server.textAt "hostName")
  constructor
  · simpa [HasText, decorate, textAt, value_insert] using hname
  · simpa [HasText, decorate, textAt, value_insert] using hdescription

theorem authData_decorate (authData server : QJsonObject) (item : WorkItem) (rev : String) :
    (apiConfig (kit.decorate authData server item rev)).objectAt "auth_data" = authData ∧
      (kit.decorate authData server item rev).objectAt "auth_data" = authData := by
  constructor
  · rw [apiConfig_decorate]
    simp [decorateApiConfig, objectAt, value_insertNonEmpty, value_insert]
  · simp [decorate, objectAt, value_insert]

end Toolkit

variable {subscriptionId : String} {shared : Bool} {config server : QJsonObject} {kit : Toolkit}

theorem authId_feedAuthData (h : subscriptionId = "" ∨ shared = true) :
    authId (feedAuthData subscriptionId shared) = "" := by
  cases shared with
  | true => simp [feedAuthData, authId, textAt, value_insert, Json.text, Json.str?]
  | false =>
    obtain rfl := h.resolve_right false_ne_true
    simp [feedAuthData, authId, textAt, value_insert]

theorem HasText.setDisplayIndex (h : HasText config "name") (n : ℕ) :
    HasText (setDisplayIndex config n) "name" := by
  have hvalue : (Client.setDisplayIndex config n).value "name" = some (.string
      (if 0 < n then config.textAt "name" ++ " #" ++ toString n else config.textAt "name")) := by
    simp [Client.setDisplayIndex, value_insert]
  have htext : (Client.setDisplayIndex config n).textAt "name" =
      if 0 < n then config.textAt "name" ++ " #" ++ toString n else config.textAt "name" := by
    rw [textAt, hvalue, text_string]
  refine ⟨?_, by rw [hvalue, htext]⟩
  rw [htext]
  split_ifs
  · exact append_ne_empty_left (append_ne_empty_left h.1)
  · exact h.1

theorem Complete.setDisplayIndex (h : Complete config) (n : ℕ) :
    Complete (setDisplayIndex config n) := by
  have hkeep : ∀ {key}, key ≠ "name" → key ≠ "displayInfo" →
      (Client.setDisplayIndex config n).value key = config.value key := value_setDisplayIndex_of_ne
  refine ⟨?_, h.name.setDisplayIndex n, ?_⟩
  · have hsub : subscriptionIdForServer (Client.setDisplayIndex config n) =
        subscriptionIdForServer config :=
      congrArg ServerId.subscriptionId (serverId_setDisplayIndex config n)
    rw [Installable, hsub, authData, apiConfig, objectAt, objectAt, configVersion,
      hkeep (by decide) (by decide), hkeep (by decide) (by decide), hkeep (by decide) (by decide)]
    exact h.installable
  · rw [HasText, textAt, hkeep (by decide) (by decide)]
    exact h.description

/-- A config with the `auth_data` of a feed can be installed, if its version is that of a
subscription. -/
theorem installable_of_feedAuthData {subscriptionId : String} {shared : Bool} {config : QJsonObject}
    (hapi : (apiConfig config).objectAt "auth_data" = feedAuthData subscriptionId shared)
    (hauth : config.objectAt "auth_data" = feedAuthData subscriptionId shared)
    (hversion : subscriptionId ≠ "" →
      configVersion config = 0 ∨ configVersion config = amneziaGateway) : Installable config := by
  refine .inr ?_
  by_cases hid : subscriptionId = ""
  · have hdata : authData config = feedAuthData subscriptionId shared :=
      (authData_eq_or config).elim (fun h => h.trans hauth) fun h => h.trans hapi
    rw [hdata]
    exact .inl (authId_feedAuthData (.inl hid))
  · exact .inr ⟨hversion hid, hapi.trans hauth.symm⟩

/-- A decorated server is complete, if its version is that of a subscription. -/
theorem complete_decorate {kit : Toolkit} {subscriptionId : String} {shared : Bool}
    {server : QJsonObject} {item : WorkItem} {rev : String}
    (hversion : subscriptionId ≠ "" →
      configVersion server = 0 ∨ configVersion server = amneziaGateway) :
    Complete (kit.decorate (feedAuthData subscriptionId shared) server item rev) := by
  obtain ⟨hname, hdescription⟩ :=
    kit.hasText_decorate (feedAuthData subscriptionId shared) server item rev
  obtain ⟨hapi, hauth⟩ :=
    kit.authData_decorate (feedAuthData subscriptionId shared) server item rev
  refine ⟨installable_of_feedAuthData hapi hauth fun hid => ?_, hname, hdescription⟩
  rw [configVersion, value_decorate_of_ne (by decide)]
  exact hversion hid

/-- The configs of a feed are complete. -/
theorem complete_of_mem_feed {kit : Toolkit} {subscriptionId : String} {shared : Bool}
    {servers : List QJsonObject} {services : Response} {answers : ℕ → ProtocolData × Response}
    {config : QJsonObject}
    (h : config ∈ (kit.fetchSubscriptionFeed subscriptionId shared servers services
      answers).configs) : Complete config := by
  cases services with
  | error e => cases h
  | ok body =>
    obtain ⟨i, slot, hslot, hconfig⟩ := Toolkit.mem_closeFeed_configs.mp h
    rw [Toolkit.feedSlots, getElem?_map] at hslot
    obtain ⟨item, -, rfl⟩ := map_eq_some_iff.mp hslot
    rw [Toolkit.slotConfig, or_eq_some_iff] at hconfig
    rcases hconfig with hreused | ⟨-, hfetched⟩
    · -- a stored server of the subscription
      obtain ⟨server, -, hsub, -, rfl⟩ := Toolkit.slotOf_reused hreused
      refine complete_decorate fun hid => ?_
      exact (isFrkn_iff.mp (isFrkn_of_subscriptionId (hsub ▸ hid))).1
    · obtain ⟨body, new, server, rev, hfilled, rfl⟩ := Toolkit.fetchedConfig_eq_some hfetched
      exact complete_decorate fun _ => .inr hfilled.version

theorem complete_of_mem_finalized (kit : Toolkit) {configs : List QJsonObject}
    (h : ∀ c ∈ configs, Complete c) : ∀ c ∈ kit.applyDisplayIndexAndSort configs, Complete c := by
  intro c' hc'
  obtain ⟨c, hc, n, rfl⟩ := Toolkit.exists_of_mem_applyDisplayIndexAndSort hc'
  exact (h c hc).setDisplayIndex n

/-! ## The second run -/

theorem isGone_congr {freshKeys failures : List String} {server' : QJsonObject}
    (h : serverId server = serverId server') :
    isGone subscriptionId freshKeys failures server =
      isGone subscriptionId freshKeys failures server' := by
  have hkey := serverKey_congr h
  rw [serverId, serverId, ServerId.mk.injEq] at h
  rw [isGone, isGone, h.1, h.2.1, hkey]

namespace ServersModel

variable {m : ServersModel} {kit : Toolkit} {subscriptionId : String}
  {configs : List QJsonObject} {failures : List String}

/-- After a run, no server is left to be removed. -/
theorem keptRows_reconcile (hconfigs : ∀ c ∈ configs, Complete c) :
    (m.reconcileSubscription kit subscriptionId configs failures).keptRows subscriptionId
        (configs.map serverKey) failures =
      (m.reconcileSubscription kit subscriptionId configs failures).servers := by
  refine filter_eq_self.mpr fun r hr => ?_
  rw [not_eq_true']
  have hfinalized := complete_of_mem_finalized kit hconfigs
  rw [m.reconcile_servers] at hr
  rcases Keyed.Scheme.key_mem_run installScheme_keeps
    (fun c hc _ => (hfinalized c hc).installable) hr with hold | ⟨c, hc, n, hnew⟩
  · -- the triple of a row that was kept
    obtain ⟨r₀, hr₀, hkey⟩ := mem_map.mp hold
    rw [← isGone_congr hkey]
    exact (not_eq_true' _).mp (mem_filter.mp hr₀).2
  · -- the triple of a config
    have hid : serverId r.config = serverId c :=
      hnew.trans (serverId_configToInstall (hfinalized c hc).installable)
    refine eq_false_iff.mpr fun hgone => (isGone_iff.mp hgone).2.2.1 ?_
    rw [serverKey_congr hid, ← kit.mem_map_serverKey]
    exact mem_map_of_mem hc

/-- Reconciling a feed twice is the same as once, and no triple of subscription, connection and node
becomes one of two servers, exactly if every config of the feed has a connection. -/
theorem reconcile_twice_iff (kit : Toolkit) (m : ServersModel) (subscriptionId : String)
    (shared : Bool) (servers : List QJsonObject) (services : Response)
    (answers : ℕ → ProtocolData × Response) :
    let feed := kit.fetchSubscriptionFeed subscriptionId shared servers services answers
    let once := m.reconcileSubscription kit subscriptionId feed.configs feed.failures
    ((once.reconcileSubscription kit subscriptionId feed.configs feed.failures).servers =
        once.servers ∧
      ∀ id, (m.servers.map fun r => serverId r.config).count id ≤ 1 →
        (once.servers.map fun r => serverId r.config).count id ≤ 1) ↔
      ∀ c ∈ feed.configs, connectionUuid c ≠ "" := by
  intro feed once
  have hcomplete : ∀ c ∈ kit.applyDisplayIndexAndSort feed.configs, Complete c :=
    complete_of_mem_finalized kit fun c hc => complete_of_mem_feed hc
  have honce : once.table = installScheme.run
      ⟨m.keptRows subscriptionId (feed.configs.map serverKey) feed.failures, m.nextTag⟩
      (kit.applyDisplayIndexAndSort feed.configs) := m.reconcile_table ..
  have htwice : (once.reconcileSubscription kit subscriptionId feed.configs feed.failures).table =
      installScheme.run once.table (kit.applyDisplayIndexAndSort feed.configs) := by
    rw [reconcile_table, keptRows_reconcile fun c hc => complete_of_mem_feed hc]
    rfl
  constructor
  · -- a config without a connection makes a row in every run
    rintro ⟨hsame, -⟩ c hc huuid
    obtain ⟨n, hn⟩ := kit.exists_mem_applyDisplayIndexAndSort hc
    have huuid' : connectionUuid (setDisplayIndex c n) = "" :=
      (congrArg ServerId.connectionUuid (serverId_setDisplayIndex c n)).trans huuid
    have hpos : 0 < (kit.applyDisplayIndexAndSort feed.configs).countP
        fun c => (installScheme.keyOf c).isNone :=
      countP_pos_iff.mpr ⟨_, hn, isNone_iff_eq_none.mpr (if_pos huuid')⟩
    have hlen := installScheme.length_run_ge once.table
      (kit.applyDisplayIndexAndSort feed.configs)
    rw [← htwice] at hlen
    have hrows : (once.reconcileSubscription kit subscriptionId feed.configs
        feed.failures).table.rows.length = once.table.rows.length := congrArg length hsame
    omega
  · intro huuid
    have hkeys : ∀ c ∈ kit.applyDisplayIndexAndSort feed.configs,
        (connectionUuid c ≠ "" → Complete c) ∧ (installScheme.keyOf c).isSome = true := by
      intro c' hc'
      refine ⟨fun _ => hcomplete c' hc', (installScheme_keyOf_isSome c').mpr ?_⟩
      obtain ⟨c, hc, n, rfl⟩ := Toolkit.exists_of_mem_applyDisplayIndexAndSort hc'
      exact (congrArg ServerId.connectionUuid (serverId_setDisplayIndex c n)).trans_ne (huuid c hc)
    refine ⟨?_, fun id hid => ?_⟩
    · have hrun : (once.reconcileSubscription kit subscriptionId feed.configs
          feed.failures).table = once.table := by
        rw [htwice, honce]
        exact Keyed.Scheme.run_run installScheme_absorbing hkeys _
      exact congrArg Keyed.Table.rows hrun
    · have hcount := Keyed.Scheme.count_keys_run_le (k := id) (t := ⟨m.keptRows subscriptionId
        (feed.configs.map serverKey) feed.failures, m.nextTag⟩) installScheme_absorbing.toKeeps hkeys
        (le_trans (List.Sublist.count_le id (filter_sublist.map _)) hid)
      exact (congrArg (fun t : Keyed.Table Row => (t.rows.map installScheme.key).count id)
        honce).trans_le hcount

/-- A service without connections. Its placeholder is added in every run, and the second one has the
triple of the first. -/
theorem reconcile_twice_placeholder :
    let kit := Toolkit.plain fun _ => ofMembers [("config", .string "c"),
      ("services", .array [.object []])]
    let feed := kit.fetchSubscriptionFeed "a" false [] (.ok "services") fun _ => (⟨"", "", ""⟩, .ok "")
    let once := (resetModel [] (-1)).reconcileSubscription kit "a" feed.configs feed.failures
    let twice := once.reconcileSubscription kit "a" feed.configs feed.failures
    (once.servers.map fun r => serverId r.config) = [⟨"", "", ""⟩] ∧
      (twice.servers.map fun r => serverId r.config) = [⟨"", "", ""⟩, ⟨"", "", ""⟩] := by
  decide +kernel

end ServersModel

end Dopamine.Client
