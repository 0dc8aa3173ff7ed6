import Dopamine.Client.SubscriptionFeed
import Dopamine.Keyed.Upsert

/-!
# Reconciling a subscription

`reconcileSubscription` and `installSubscriptionConfigObject` of
`client/ui/controllers/api/apiConfigsController.cpp`. The servers of a subscription that its feed
has no more are removed, and the fetched configs are written to the servers with the same
subscription, connection and node, or added.

In the terms of `Keyed.Scheme`, the installation of configs is a run of upserts (`reconcile_table`).
-/

namespace Dopamine.Client

open QJsonObject List Keyed

/-! ## Installing a config -/

/-- The `auth_data` that is installed with a config. -/
def installedAuthData (config : QJsonObject) : QJsonObject := withApiKey (authData config)

/-- The API config that is installed with a config. -/
def installedApiConfig (config : QJsonObject) : QJsonObject :=
  (apiConfig config).insertObject "auth_data" (installedAuthData config)

def configToInstall (config : QJsonObject) : QJsonObject :=
  (config.insertObject "auth_data" (installedAuthData config)).insertObject "api_config"
    (installedApiConfig config)

/-- In `installSubscriptionConfigObject`, the server with what is taken from the config. -/
def updatedServer (config existing : QJsonObject) : QJsonObject :=
  let new := configToInstall config
  let server := existing.insert "hostName" (new.value "hostName")
  let server := server.insert "dns1" (new.value "dns1")
  let server := server.insert "dns2" (new.value "dns2")
  let server := server.insert "containers" (new.value "containers")
  let server := server.insertObject "api_config" (installedApiConfig config)
  let server := server.insert "auth_data" (new.value "auth_data")
  let server := server.insert "displayInfo" (new.value "displayInfo")
  let server := server.insert "node_ips" (new.value "node_ips")
  let server := insertNonEmpty server "description" (new.textAt "description")
  if Json.boolValue (server.value "nameOverriddenByUser") then server
  else insertNonEmpty server "name" (new.textAt "name")

namespace ServersModel

def installSubscriptionConfigObject (m : ServersModel) (config : QJsonObject) : ServersModel :=
  if connectionUuid config = "" then m.addServer (configToInstall config)
  else
    match m.servers.findFinIdx? fun r => serverId r.config = serverId config with
    | some i => m.edit i (updatedServer config m.servers[i].config)
    | none => m.addServer (configToInstall config)

/-! ## Reconciling -/

/-- The loop of `reconcileSubscription` that removes servers, for the rows below `n`. -/
def removeGone (gone : QJsonObject → Bool) : ℕ → ServersModel → ServersModel
  | 0, m => m
  | i + 1, m =>
      if gone (m.getServerConfig i) then removeGone gone i (m.removeServer i)
      else removeGone gone i m

end ServersModel

/-- The server is one of the subscription, and its key is not in the feed. -/
def isGone (subscriptionId : String) (freshKeys failures : List String) (server : QJsonObject) :
    Bool :=
  subscriptionIdForServer server = subscriptionId && connectionUuid server ≠ "" &&
    !(serverKey server ∈ freshKeys || serverKey server ∈ failures)

def ServersModel.reconcileSubscription (m : ServersModel) (kit : Toolkit) (subscriptionId : String)
    (configs : List QJsonObject) (failures : List String) : ServersModel :=
  let finalized := kit.applyDisplayIndexAndSort configs
  let freshKeys := finalized.map serverKey
  let m := ServersModel.removeGone (isGone subscriptionId freshKeys failures) m.servers.length m
  finalized.foldl ServersModel.installSubscriptionConfigObject m

/-! ## The order of the configs -/

variable {config existing : QJsonObject} {key : String}

theorem value_setDisplayIndex_of_ne {n : ℕ} (hname : key ≠ "name") (hinfo : key ≠ "displayInfo") :
    (setDisplayIndex config n).value key = config.value key := by
  simp [setDisplayIndex, value_insert, hname, hinfo]

/-- Numbering a config does not touch what it is matched by. -/
theorem serverId_setDisplayIndex (config : QJsonObject) (n : ℕ) :
    serverId (setDisplayIndex config n) = serverId config := by
  have hapi : (setDisplayIndex config n).value "api_config" = config.value "api_config" :=
    value_setDisplayIndex_of_ne (by decide) (by decide)
  have hsub : subscriptionIdForServer (setDisplayIndex config n) = subscriptionIdForServer config :=
    subscriptionIdForServer_congr
      (congrArg Json.intValue (value_setDisplayIndex_of_ne (by decide) (by decide))) hapi
      (value_setDisplayIndex_of_ne (by decide) (by decide))
  simp only [serverId, hsub, connectionUuid, nodeId, apiConfig, objectAt, hapi]

theorem forall₂_numberLabels (counts current : String → ℕ) (configs : List QJsonObject) :
    List.Forall₂ (fun c c' => ∃ n, c' = setDisplayIndex c n) configs
      (numberLabels counts current configs) := by
  induction configs generalizing current with
  | nil => exact .nil
  | cons c l ih =>
    rw [numberLabels]
    split_ifs
    · exact .cons ⟨_, rfl⟩ (ih _)
    · exact .cons ⟨_, rfl⟩ (ih _)

namespace Toolkit

variable {kit : Toolkit} {configs : List QJsonObject}

/-- A config that is shown is a numbered one of the feed. -/
theorem exists_of_mem_applyDisplayIndexAndSort {c' : QJsonObject}
    (h : c' ∈ kit.applyDisplayIndexAndSort configs) :
    ∃ c ∈ configs, ∃ n, c' = setDisplayIndex c n := by
  rw [applyDisplayIndexAndSort, mem_insertionSort] at h
  obtain ⟨i, hi, rfl⟩ := getElem_of_mem h
  have hrel := forall₂_numberLabels (fun key => configs.countP fun c => labelKey c = key)
    (fun _ => 0) configs
  have hi' : i < configs.length := hrel.length_eq ▸ hi
  exact ⟨configs[i], getElem_mem hi', hrel.get hi' hi⟩

/-- Every config of the feed is shown with a number. -/
theorem exists_mem_applyDisplayIndexAndSort (kit : Toolkit) {c : QJsonObject} (h : c ∈ configs) :
    ∃ n, setDisplayIndex c n ∈ kit.applyDisplayIndexAndSort configs := by
  have hrel := forall₂_numberLabels (fun key => configs.countP fun c => labelKey c = key)
    (fun _ => 0) configs
  obtain ⟨i, hi, rfl⟩ := getElem_of_mem h
  have hi' := hrel.length_eq ▸ hi
  obtain ⟨n, hn⟩ := hrel.get hi hi'
  refine ⟨n, ?_⟩
  rw [applyDisplayIndexAndSort, mem_insertionSort]
  exact hn ▸ getElem_mem hi'

/-- The keys of the configs that are shown are those of the feed. -/
theorem mem_map_serverKey (kit : Toolkit) {key : String} :
    key ∈ (kit.applyDisplayIndexAndSort configs).map serverKey ↔ key ∈ configs.map serverKey := by
  have hkey : ∀ (c : QJsonObject) n, serverKey (setDisplayIndex c n) = serverKey c := fun c n =>
    serverKey_congr (serverId_setDisplayIndex c n)
  constructor
  · rw [mem_map]
    rintro ⟨c', hc', rfl⟩
    obtain ⟨c, hc, n, rfl⟩ := exists_of_mem_applyDisplayIndexAndSort hc'
    exact mem_map.mpr ⟨c, hc, (hkey c n).symm⟩
  · rw [mem_map]
    rintro ⟨c, hc, rfl⟩
    obtain ⟨n, hn⟩ := exists_mem_applyDisplayIndexAndSort kit hc
    exact mem_map.mpr ⟨_, hn, hkey c n⟩

end Toolkit

/-! ## The removed servers -/

namespace ServersModel

variable {m : ServersModel}

theorem getServerConfig_of_getElem? {i : ℕ} {r : Row} (h : m.servers[i]? = some r) :
    m.getServerConfig i = r.config := by
  rw [getServerConfig, h]

variable (gone : QJsonObject → Bool)

/-- The loop removes the servers that are gone, from the end. -/
theorem removeGone_servers {n : ℕ} (hn : n ≤ m.servers.length) :
    (removeGone gone n m).servers =
      ((m.servers.take n).filter fun r => !gone r.config) ++ m.servers.drop n := by
  induction n generalizing m with
  | zero => rfl
  | succ i ih =>
    obtain ⟨r, hr⟩ : ∃ r, m.servers[i]? = some r := ⟨_, getElem?_eq_getElem hn⟩
    have hget : m.servers[i] = r := (List.getElem?_eq_some_iff.mp hr).2
    have htake : m.servers.take (i + 1) = m.servers.take i ++ [r] := by
      rw [take_add_one, hr]
      rfl
    have hdrop : m.servers.drop i = r :: m.servers.drop (i + 1) := by
      rw [drop_eq_getElem_cons hn, hget]
    rw [removeGone, getServerConfig_of_getElem? hr, htake, filter_append]
    split_ifs with hgone
    · have herase : m.servers.eraseIdx i = m.servers.take i ++ m.servers.drop (i + 1) :=
        eraseIdx_eq_take_drop_succ ..
      have hlen : (m.servers.take i).length = i :=
        length_take_of_le (Nat.le_of_succ_le hn)
      have hle : i ≤ (m.removeServer i).servers.length := by
        show i ≤ (m.servers.eraseIdx i).length
        rw [herase, length_append, hlen]
        exact Nat.le_add_right ..
      rw [ih hle, filter_cons_of_neg (by rw [hgone]; exact Bool.false_ne_true),
        filter_nil, append_nil]
      show (take i (m.servers.eraseIdx i)).filter _ ++ (m.servers.eraseIdx i).drop i = _
      rw [herase, take_left' hlen, drop_left' hlen]
    · rw [ih (Nat.le_of_succ_le hn), hdrop, filter_cons_of_pos
        (by rw [eq_false_of_ne_true hgone]; rfl), filter_nil, append_assoc]
      rfl

theorem removeGone_nextTag (n : ℕ) (m : ServersModel) :
    (removeGone gone n m).nextTag = m.nextTag := by
  induction n generalizing m with
  | zero => rfl
  | succ i ih =>
    rw [removeGone]
    split_ifs
    · exact ih _
    · exact ih m

/-! ## Installing as an upsert -/

/-- The rows and the next tag. -/
def table (m : ServersModel) : Table Row := ⟨m.servers, m.nextTag⟩

end ServersModel

/-- Configs are written to servers by subscription, connection and node. -/
def installScheme : Scheme Row QJsonObject ServerId where
  key r := serverId r.config
  keyOf config := if connectionUuid config = "" then none else some (serverId config)
  update config r := { r with config := updatedServer config r.config }
  create n config := ⟨n, configToInstall config⟩

theorem installScheme_keyOf (h : connectionUuid config ≠ "") :
    installScheme.keyOf config = some (serverId config) := if_neg h

theorem installScheme_keyOf_isSome (config : QJsonObject) :
    (installScheme.keyOf config).isSome = true ↔ connectionUuid config ≠ "" := by
  show (if connectionUuid config = "" then none else some (serverId config)).isSome = true ↔ _
  split_ifs with h
  · exact iff_of_false Bool.false_ne_true (not_not.mpr h)
  · exact iff_of_true rfl h

variable (m : ServersModel)

theorem ServersModel.install_table (config : QJsonObject) :
    (m.installSubscriptionConfigObject config).table = installScheme.upsert m.table config := by
  rw [installSubscriptionConfigObject]
  split_ifs with huuid
  · rw [Scheme.upsert_of_new]
    · rfl
    · rw [any_eq_true]
      rintro ⟨r, -, hit⟩
      have hsome := installScheme_keyOf_isSome config
      rw [Scheme.hits_iff.mp hit] at hsome
      exact hsome.mp rfl huuid
  · have hhits : installScheme.hits config = fun r => decide (serverId r.config = serverId config) :=
      Scheme.hits_eq (installScheme_keyOf huuid)
    split
    · next i hi =>
      have hrow : decide (serverId m.servers[i].config = serverId config) = true :=
        (findFinIdx?_eq_some_iff.mp hi).1
      rw [Scheme.upsert_of_hit, hhits]
      · refine congrArg (Table.mk · m.nextTag) ?_
        have hset := set_findFinIdx? (f := installScheme.update config) hi
        exact (modify_eq_set_get _ i.2).trans hset
      · rw [hhits]
        exact any_eq_true.mpr ⟨m.servers[i], getElem_mem i.2, hrow⟩
    · next hnone =>
      rw [Scheme.upsert_of_new]
      · rfl
      · rw [hhits, any_eq_true]
        rintro ⟨r, hr, hrow⟩
        exact findFinIdx?_eq_none_iff.mp hnone r hr hrow

theorem ServersModel.foldl_install_table (configs : List QJsonObject) :
    (configs.foldl installSubscriptionConfigObject m).table = installScheme.run m.table configs := by
  induction configs generalizing m with
  | nil => rfl
  | cons c l ih => rw [foldl_cons, ih, install_table]; rfl

/-- The rows that `reconcileSubscription` keeps. -/
def ServersModel.keptRows (m : ServersModel) (subscriptionId : String)
    (freshKeys failures : List String) : List Row :=
  m.servers.filter fun r => !isGone subscriptionId freshKeys failures r.config

/-- Reconciling is a run of upserts on the rows that are kept. -/
theorem ServersModel.reconcile_table (kit : Toolkit) (subscriptionId : String)
    (configs : List QJsonObject) (failures : List String) :
    (m.reconcileSubscription kit subscriptionId configs failures).table =
      installScheme.run
        ⟨m.keptRows subscriptionId (configs.map serverKey) failures, m.nextTag⟩
        (kit.applyDisplayIndexAndSort configs) := by
  rw [reconcileSubscription, foldl_install_table]
  refine congrArg (installScheme.run · _) ?_
  rw [table, removeGone_servers _ le_rfl, removeGone_nextTag, take_length, drop_length, append_nil]
  simp only [isGone, Toolkit.mem_map_serverKey]
  rfl

theorem ServersModel.reconcile_servers (kit : Toolkit) (subscriptionId : String)
    (configs : List QJsonObject) (failures : List String) :
    (m.reconcileSubscription kit subscriptionId configs failures).servers =
      (installScheme.run
        ⟨m.keptRows subscriptionId (configs.map serverKey) failures, m.nextTag⟩
        (kit.applyDisplayIndexAndSort configs)).rows :=
  congrArg Table.rows (m.reconcile_table kit subscriptionId configs failures)

/-! ## The triple of a server is kept -/

theorem isFrknSubscription_iff {version : ℤ} {api auth : QJsonObject} :
    isFrknSubscription version api auth = true ↔
      (version = 0 ∨ version = amneziaGateway) ∧ api.textAt "connection_uuid" ≠ "" ∧
      Json.boolValue (api.value "shared") = false ∧
      (api.objectAt "auth_data").contains "share_token" = false ∧
      auth.contains "share_token" = false := by
  rw [isFrknSubscription]
  split_ifs with hversion huuid hshared happ hauth
  · simp only [false_iff]
    exact fun h => h.1.elim hversion.1 hversion.2
  · simp [huuid]
  · simp [hshared]
  · simp [happ]
  · simp [hauth]
  · rw [← not_or, not_not] at hversion
    simp [hversion, huuid, hshared, happ, hauth]

/-- What has to hold of a config for its triple to be the one of the server that it is written to:
it belongs to a subscription, or it names none, or it has the version of one and just one
`auth_data`. -/
def Installable (config : QJsonObject) : Prop :=
  subscriptionIdForServer config ≠ "" ∨ authId (authData config) = "" ∨
    (configVersion config = 0 ∨ configVersion config = amneziaGateway) ∧
      (apiConfig config).objectAt "auth_data" = config.objectAt "auth_data"

section Installed

variable {config : QJsonObject}

theorem value_installedApiConfig_of_ne {key : String} (h : key ≠ "auth_data") :
    (installedApiConfig config).value key = (apiConfig config).value key := by
  rw [installedApiConfig, value_insert, if_neg h]

theorem objectAt_installedApiConfig :
    (installedApiConfig config).objectAt "auth_data" = installedAuthData config := by
  rw [installedApiConfig, objectAt, value_insert, if_pos rfl, toObject_toValue]

theorem contains_shareToken_installed :
    (installedAuthData config).contains "share_token" =
      (authData config).contains "share_token" :=
  contains_shareToken_withApiKey _

/-- The chosen `auth_data` is one of the two. -/
theorem authData_eq_or (config : QJsonObject) :
    authData config = config.objectAt "auth_data" ∨
      authData config = (apiConfig config).objectAt "auth_data" := by
  rw [authData, chooseAuthData]
  split_ifs
  · exact .inl rfl
  · exact .inr rfl

theorem isFrkn_iff : isFrknSubscriptionServer config = true ↔
    (configVersion config = 0 ∨ configVersion config = amneziaGateway) ∧
      connectionUuid config ≠ "" ∧ Json.boolValue ((apiConfig config).value "shared") = false ∧
      ((apiConfig config).objectAt "auth_data").contains "share_token" = false ∧
      (config.objectAt "auth_data").contains "share_token" = false :=
  isFrknSubscription_iff

section

variable (h : Installable config) {server : QJsonObject}
  (hapi : apiConfig server = installedApiConfig config)
  (hauth : server.objectAt "auth_data" = installedAuthData config)
  (hversion : subscriptionIdForServer config ≠ "" →
    configVersion server = 0 ∨ configVersion server = amneziaGateway)
include h hapi hauth hversion

/-- A server with the installed API config and `auth_data` has the subscription of the config. -/
theorem subscriptionId_installed :
    subscriptionIdForServer server = subscriptionIdForServer config := by
  have hid : authId (authData server) = authId (authData config) := by
    rcases authData_eq_or server with hdata | hdata
    · rw [hdata, hauth]
      exact authId_withApiKey _
    · rw [hdata, hapi, objectAt_installedApiConfig]
      exact authId_withApiKey _
  have hserver : isFrknSubscriptionServer server = true ↔
      (configVersion server = 0 ∨ configVersion server = amneziaGateway) ∧
        connectionUuid config ≠ "" ∧
        Json.boolValue ((apiConfig config).value "shared") = false ∧
        (authData config).contains "share_token" = false := by
    rw [isFrkn_iff, connectionUuid, hapi, hauth, objectAt_installedApiConfig, textAt,
      value_installedApiConfig_of_ne (by decide), value_installedApiConfig_of_ne (by decide),
      contains_shareToken_installed, and_self]
    rfl
  by_cases hsub : subscriptionIdForServer config = ""
  · rcases h.resolve_left (not_not.mpr hsub) with hempty | ⟨hconfig, hsame⟩
    · rw [hsub, subscriptionIdForServer, hid, hempty, ite_self]
    -- the config is not of a subscription, and its `auth_data` is not what keeps it from it
    have hdata : authData config = config.objectAt "auth_data" :=
      (authData_eq_or config).elim id fun hdata => hdata.trans hsame
    by_cases hfrkn : isFrknSubscriptionServer server = true
    · obtain ⟨-, huuid, hshared, htoken⟩ := hserver.mp hfrkn
      rw [hdata] at htoken
      have hown : isFrknSubscriptionServer config = true :=
        isFrkn_iff.mpr ⟨hconfig, huuid, hshared, hsame ▸ htoken, htoken⟩
      rw [subscriptionIdForServer, subscriptionIdForServer, if_pos hfrkn, if_pos hown, hid]
    · rw [hsub, subscriptionIdForServer, if_neg hfrkn]
  · have hown := isFrkn_of_subscriptionId hsub
    obtain ⟨-, huuid, hshared, happ, hserverToken⟩ := isFrkn_iff.mp hown
    have htoken : (authData config).contains "share_token" = false := by
      rcases authData_eq_or config with hdata | hdata
      · rw [hdata, hserverToken]
      · rw [hdata, happ]
    have hfrkn := hserver.mpr ⟨hversion hsub, huuid, hshared, htoken⟩
    rw [subscriptionIdForServer, subscriptionIdForServer, if_pos hfrkn, if_pos hown, hid]

theorem serverId_installed : serverId server = serverId config := by
  rw [serverId, serverId, subscriptionId_installed h hapi hauth hversion, connectionUuid, nodeId,
    connectionUuid, nodeId, hapi, textAt, textAt, textAt, textAt,
    value_installedApiConfig_of_ne (by decide), value_installedApiConfig_of_ne (by decide)]

end

theorem serverId_configToInstall (h : Installable config) :
    serverId (configToInstall config) = serverId config := by
  have hversion : configVersion (configToInstall config) = configVersion config := by
    simp [configVersion, configToInstall, value_insert]
  refine serverId_installed h ?_ ?_ fun hsub => ?_
  · simp [apiConfig, configToInstall, objectAt, value_insert]
  · simp [configToInstall, objectAt, value_insert]
  · rw [hversion]
    exact (isFrkn_iff.mp (isFrkn_of_subscriptionId hsub)).1

end Installed

/-! ## The updated server -/

/-- The keys of a server that are taken from a config as they are. -/
def copiedKeys : List String := ["hostName", "dns1", "dns2", "containers", "displayInfo", "node_ips"]

theorem value_configToInstall_of_ne (happ : key ≠ "api_config") (hauth : key ≠ "auth_data") :
    (configToInstall config).value key = config.value key := by
  simp [configToInstall, value_insert, happ, hauth]

/-- The values of an updated server. -/
theorem value_updatedServer (config existing : QJsonObject) (key : String) :
    (updatedServer config existing).value key =
      if key = "api_config" then some (installedApiConfig config).toValue
      else if key = "auth_data" then some (installedAuthData config).toValue
      else if key ∈ copiedKeys then config.value key
      else if key = "description" ∧ config.textAt "description" ≠ "" then
        some (.string (config.textAt "description"))
      else if key = "name" ∧ config.textAt "name" ≠ "" ∧
          Json.boolValue (existing.value "nameOverriddenByUser") = false then
        some (.string (config.textAt "name"))
      else existing.value key := by
  have htext : ∀ k, k ≠ "api_config" → k ≠ "auth_data" →
      (configToInstall config).textAt k = config.textAt k := fun k happ hauth => by
    rw [textAt, textAt, value_configToInstall_of_ne happ hauth]
  by_cases hkey : key ∈ "api_config" :: "auth_data" :: "description" :: "name" :: copiedKeys
  · simp only [copiedKeys, mem_cons, not_mem_nil, or_false] at hkey
    rcases hkey with rfl | rfl | rfl | rfl | rfl | rfl | rfl | rfl | rfl | rfl <;>
      simp [updatedServer, value_ite, value_insert, value_insertNonEmpty, copiedKeys, htext,
        value_configToInstall_of_ne]
    · -- the `auth_data`
      simp [configToInstall, value_insert]
    · -- the name
      cases Json.boolValue (existing.value "nameOverriddenByUser") <;>
        by_cases hname : config.textAt "name" = "" <;> simp [hname]
  · simp only [copiedKeys, mem_cons, not_mem_nil, or_false, not_or] at hkey
    simp [updatedServer, value_ite, value_insert, value_insertNonEmpty, copiedKeys, hkey]

theorem value_updatedServer_of_ne
    (h : key ∉ "api_config" :: "auth_data" :: "description" :: "name" :: copiedKeys) :
    (updatedServer config existing).value key = existing.value key := by
  simp only [mem_cons, not_or] at h
  rw [value_updatedServer, if_neg h.1, if_neg h.2.1, if_neg h.2.2.2.2,
    if_neg fun hd => h.2.2.1 hd.1, if_neg fun hn => h.2.2.2.1 hn.1]

theorem value_updatedServer_copied (h : key ∈ copiedKeys) :
    (updatedServer config existing).value key = config.value key := by
  have happ : key ≠ "api_config" := fun heq => absurd (heq ▸ h) (by decide)
  have hauth : key ≠ "auth_data" := fun heq => absurd (heq ▸ h) (by decide)
  rw [value_updatedServer, if_neg happ, if_neg hauth, if_pos h]

theorem configVersion_updatedServer (config existing : QJsonObject) :
    configVersion (updatedServer config existing) = configVersion existing :=
  congrArg Json.intValue (value_updatedServer_of_ne (by decide))

/-- A config that is written to a server with its triple leaves the triple. -/
theorem serverId_updatedServer (h : Installable config)
    (hid : serverId existing = serverId config) :
    serverId (updatedServer config existing) = serverId config := by
  refine serverId_installed h ?_ ?_ fun hsub => ?_
  · rw [apiConfig, objectAt, value_updatedServer, if_pos rfl, toObject_toValue]
  · rw [objectAt, value_updatedServer, if_neg (by decide), if_pos rfl, toObject_toValue]
  · rw [serverId, serverId, ServerId.mk.injEq] at hid
    rw [configVersion_updatedServer]
    exact (isFrkn_iff.mp (isFrkn_of_subscriptionId (hid.1 ▸ hsub))).1

/-! ## The laws of installing -/

theorem installScheme_keyOf_eq_some {k : ServerId} (h : installScheme.keyOf config = some k) :
    connectionUuid config ≠ "" ∧ k = serverId config := by
  have huuid := (installScheme_keyOf_isSome config).mp (Option.isSome_of_eq_some h)
  exact ⟨huuid, Option.some.inj (h.symm.trans (installScheme_keyOf huuid))⟩

theorem installScheme_keeps :
    installScheme.Keeps fun config => connectionUuid config ≠ "" → Installable config where
  key_update config r hok hit := by
    obtain ⟨huuid, hid⟩ := installScheme_keyOf_eq_some (Scheme.hits_iff.mp hit)
    exact (serverId_updatedServer (hok huuid) hid).trans hid.symm
  key_create config n k hok hk := by
    obtain ⟨huuid, rfl⟩ := installScheme_keyOf_eq_some hk
    exact serverId_configToInstall (hok huuid)

/-- The config has a text under the key. -/
def HasText (config : QJsonObject) (key : String) : Prop :=
  config.textAt key ≠ "" ∧ config.value key = some (.string (config.textAt key))

/-- The config can be installed and has a name and a description. -/
structure Complete (config : QJsonObject) : Prop where
  installable : Installable config
  name : HasText config "name"
  description : HasText config "description"

theorem nameOverridden_updatedServer (config existing : QJsonObject) :
    (updatedServer config existing).value "nameOverriddenByUser" =
      existing.value "nameOverriddenByUser" :=
  value_updatedServer_of_ne (by decide)

theorem updatedServer_updatedServer {config' : QJsonObject} (h' : Complete config')
    (existing : QJsonObject) :
    updatedServer config' (updatedServer config existing) = updatedServer config' existing := by
  refine QJsonObject.ext fun key => ?_
  rw [value_updatedServer, value_updatedServer config' existing, nameOverridden_updatedServer]
  split_ifs with happ hauth hcopied hdescription hname
  · rfl
  · rfl
  · rfl
  · rfl
  · rfl
  · -- what is not written by the second config is not written by the first one
    rw [value_updatedServer, if_neg happ, if_neg hauth, if_neg hcopied, if_neg, if_neg]
    · exact fun hn => hname ⟨hn.1, h'.name.1, hn.2.2⟩
    · exact fun hd => hdescription ⟨hd.1, h'.description.1⟩

theorem updatedServer_configToInstall (h : Complete config) :
    updatedServer config (configToInstall config) = configToInstall config := by
  refine QJsonObject.ext fun key => ?_
  rw [value_updatedServer]
  split_ifs with happ hauth hcopied hdescription hname
  · rw [happ, configToInstall, value_insert, if_pos rfl]
  · rw [hauth, configToInstall, value_insert, if_neg (by decide), value_insert, if_pos rfl]
  · exact (value_configToInstall_of_ne happ hauth).symm
  · rw [hdescription.1, value_configToInstall_of_ne (by decide) (by decide), ← h.description.2]
  · rw [hname.1, value_configToInstall_of_ne (by decide) (by decide), ← h.name.2]
  · rfl

theorem installScheme_absorbing :
    installScheme.Absorbing fun config => connectionUuid config ≠ "" → Complete config where
  key_update config r hok := installScheme_keeps.key_update config r fun h => (hok h).installable
  key_create config n k hok := installScheme_keeps.key_create config n k fun h => (hok h).installable
  update_update config config' r _ hok' _ hit' := by
    have huuid := (installScheme_keyOf_eq_some (Scheme.hits_iff.mp hit')).1
    exact congrArg (Row.mk r.tag) (updatedServer_updatedServer (hok' huuid) r.config)
  update_create config n k hok hk := by
    have huuid := (installScheme_keyOf_eq_some hk).1
    exact congrArg (Row.mk n) (updatedServer_configToInstall (hok huuid))

end Dopamine.Client
