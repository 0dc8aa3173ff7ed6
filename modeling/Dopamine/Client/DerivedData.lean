import Dopamine.Client.DefaultServer

/-!
# The derived data after each method

What is derived from the list should be what recomputing it would give. Methods that remove a row do
not recompute the protocols and the environments, and those that edit a record recompute only the
subscriptions. So a removal must leave another server with the same protocol and environment, and an
edit must not change them or the tags of the gateway.

A rename, another config for a container and the date of a key change nothing that the derived data
depends on.
-/

namespace Dopamine.Client

open List Option

open QJsonObject
open DockerContainer (containerToString containerFromString)
open Views (SameKeys)

/-! ## What the derived data of a server depends on -/

/-- The servers have the same API config, but for the public key, the same version and the same
`auth_data`. -/
structure SameApi (a b : QJsonObject) : Prop where
  api : ∀ key, key ≠ "public_key" → (apiConfig a).value key = (apiConfig b).value key
  version : a.value "config_version" = b.value "config_version"
  auth : a.value "auth_data" = b.value "auth_data"

namespace SameApi

variable {a b : QJsonObject}

theorem of_value (h : ∀ key ∈ ["api_config", "config_version", "auth_data"],
    a.value key = b.value key) : SameApi a b where
  api key _ := by rw [apiConfig, apiConfig, objectAt, objectAt, h "api_config" (by simp)]
  version := h _ (by simp)
  auth := h _ (by simp)

variable {key : String}

theorem textAt_apiConfig (h : SameApi a b) (hkey : key ≠ "public_key") :
    (apiConfig a).textAt key = (apiConfig b).textAt key :=
  congrArg Json.text (h.api key hkey)

theorem connectionEnv (h : SameApi a b) : connectionEnv a = connectionEnv b := by
  rw [Client.connectionEnv, Client.connectionEnv, h.textAt_apiConfig (by decide)]

theorem gatewayTag (h : SameApi a b) (hkey : key ≠ "public_key") :
    gatewayTag key a = gatewayTag key b := by
  rw [Client.gatewayTag, Client.gatewayTag, configVersion, configVersion, h.version,
    h.textAt_apiConfig hkey]

theorem subscriptionIdOfServer (h : SameApi a b) :
    subscriptionIdOfServer a = subscriptionIdOfServer b := by
  have hdata : authData a = authData b := by
    rw [authData, authData, chooseAuthData, chooseAuthData, objectAt, objectAt, objectAt, objectAt,
      h.api "auth_data" (by decide), h.auth]
  rw [Client.subscriptionIdOfServer, Client.subscriptionIdOfServer, h.api "shared" (by decide),
    hdata]

theorem serviceProtocolFilter (h : SameApi a b) (platform : ModelPlatform)
    (hinfo : a.value "displayInfo" = b.value "displayInfo")
    (hcontainer : a.value "defaultContainer" = b.value "defaultContainer") :
    serviceProtocolFilter platform a = serviceProtocolFilter platform b := by
  rw [Client.serviceProtocolFilter, Client.serviceProtocolFilter, h.textAt_apiConfig (by decide),
    objectAt, objectAt, hinfo, textAt, textAt, textAt, textAt, hcontainer]

end SameApi

/-! ## The records that the methods write -/

section Records

variable (platform : ModelPlatform) (server : QJsonObject)

/-- The keys that the derived data depends on. -/
def derivedKeys : List String :=
  ["api_config", "config_version", "auth_data", "displayInfo", "defaultContainer"]

theorem protocol_of_value {a b : QJsonObject} (h : ∀ key ∈ derivedKeys, a.value key = b.value key) :
    SameApi a b ∧ serviceProtocolFilter platform a = serviceProtocolFilter platform b := by
  have hapi : SameApi a b := .of_value fun key hkey => h key (by
    simp only [derivedKeys, mem_cons, not_mem_nil, or_false] at hkey ⊢
    tauto)
  exact ⟨hapi, hapi.serviceProtocolFilter platform (h _ (by simp [derivedKeys]))
    (h _ (by simp [derivedKeys]))⟩

variable {key : String}

theorem value_renamed (name : String) (hkey : key ∈ derivedKeys) :
    server.value key = (ServersModel.renamed server name).value key := by
  have hne : key ≠ "name" ∧ key ≠ "description" ∧ key ≠ "nameOverriddenByUser" := by
    simp only [derivedKeys, mem_cons, not_mem_nil, or_false] at hkey
    rcases hkey with rfl | rfl | rfl | rfl | rfl <;> decide
  rw [ServersModel.renamed, value_insert, if_neg hne.2.2]
  split_ifs
  · rw [value_insert, if_neg hne.1]
  · rw [value_insert, if_neg hne.2.1]

variable (c : DockerContainer)

theorem value_setContainerConfig (config : QJsonObject) (hkey : key ≠ "containers") :
    (setContainerConfig server c config).value key = server.value key := by
  rw [setContainerConfig]
  split_ifs
  · rfl
  · exact (value_insert ..).trans (if_neg hkey)

theorem value_clearLastConnectionConfig (hkey : key ≠ "containers") :
    (clearLastConnectionConfig server c).value key = server.value key := by
  rw [clearLastConnectionConfig, DockerContainer.protocolsForContainer]
  split_ifs
  · rfl
  · exact value_setContainerConfig _ _ _ hkey

theorem value_withContainer (config : QJsonObject) (hkey : key ≠ "containers") :
    (withContainer server c config).value key = server.value key :=
  (value_insert ..).trans (if_neg hkey)

theorem value_addedContainer (config : QJsonObject) (hcontainers : key ≠ "containers")
    (hdefault : key ≠ "defaultContainer") :
    (addedContainer platform server c config).value key = server.value key := by
  simp only [addedContainer]
  split_ifs
  · rw [value_insert, if_neg hdefault, value_insert, if_neg hcontainers]
  · rw [value_insert, if_neg hcontainers]

theorem sameApi_withExpiry (tomorrow : String) : SameApi server (withExpiry server tomorrow) where
  api key hkey := by
    have hapi : apiConfig (withExpiry server tomorrow) = (apiConfig server).insertObject "public_key"
        (((apiConfig server).objectAt "public_key").insertText "expires_at" tomorrow) := by
      rw [apiConfig, withExpiry, objectAt, value_insert, if_pos rfl, toObject_toValue]
    rw [hapi, value_insert, if_neg hkey]
  version := ((value_insert ..).trans (if_neg (by decide))).symm
  auth := ((value_insert ..).trans (if_neg (by decide))).symm

theorem value_withoutApiConfig (hkey : key = "config_version" ∨ key = "auth_data") :
    (withoutApiConfig server).value key = server.value key := by
  rcases hkey with rfl | rfl <;> simp [withoutApiConfig, value_insert]

theorem sameApi_withoutApiConfig : SameApi server (withoutApiConfig server) where
  api key hkey := by
    have hapi : apiConfig (withoutApiConfig server) = (apiConfig server).insert "public_key" none := by
      simp [withoutApiConfig, apiConfig, objectAt, value_insert]
    rw [hapi, value_insert, if_neg hkey]
  version := (value_withoutApiConfig server (.inl rfl)).symm
  auth := (value_withoutApiConfig server (.inr rfl)).symm

end Records

/-! ## Fresh data -/

namespace CachedServers

/-- The derived data is what recomputing it would give. -/
structure Fresh (platform : ModelPlatform) (s : CachedServers) : Prop where
  protocols : s.protocols = availableProtocols platform s.configs
  envs : s.envs = availableEnvs s.configs
  subscriptions : s.subscriptions = availableSubscriptions s.configs
  gateway : s.gateway = gatewayStacks s.configs

/-- A method leaves the keys that it does not recompute: an edit those of the protocols,
`editServer` also the environments and the tags of the gateway, and a removal the protocols and the
environments. -/
def KeepsDerived (platform : ModelPlatform) (s : CachedServers) (m : Mutator) : Prop :=
  (∀ row server, s.edits platform m = some (row, server) →
    SameKeys "" (serviceProtocolFilter platform) s.configs (s.configs.set row server)) ∧
  (∀ server row, m = .editServer server row →
    SameKeys "" connectionEnv s.configs (s.configs.set row server) ∧
    SameKeys "" (gatewayTag "user_country_code") s.configs (s.configs.set row server) ∧
    SameKeys "" (gatewayTag "service_type") s.configs (s.configs.set row server)) ∧
  ∀ row, s.removes m = some row →
    SameKeys "" (serviceProtocolFilter platform) s.configs (s.configs.eraseIdx row) ∧
    SameKeys "" connectionEnv s.configs (s.configs.eraseIdx row)

variable {s s' : CachedServers} {platform : ModelPlatform}

theorem fresh_recomputeAll (s : CachedServers) (platform : ModelPlatform) :
    Fresh platform (s.recomputeAll platform) :=
  ⟨rfl, rfl, rfl, rfl⟩

theorem gatewayStacks_eq_iff {l l' : List QJsonObject} : gatewayStacks l = gatewayStacks l' ↔
    SameKeys "" (gatewayTag "user_country_code") l l' ∧
      SameKeys "" (gatewayTag "service_type") l l' := by
  rw [gatewayStacks, gatewayStacks, GatewayStacks.mk.injEq, Views.keySet_eq_iff,
    Views.keySet_eq_iff]

section

variable (h : Fresh platform s) (hprotocols : s'.protocols = s.protocols)
  (henvs : s'.envs = s.envs) (hsubscriptions : s'.subscriptions = availableSubscriptions s'.configs)
include h hprotocols henvs hsubscriptions

/-- The protocols and the environments are kept and the subscriptions are fresh. -/
theorem Fresh.of_kept : Fresh platform s' ↔
      SameKeys "" (serviceProtocolFilter platform) s.configs s'.configs ∧
        SameKeys "" connectionEnv s.configs s'.configs ∧ s'.gateway = gatewayStacks s'.configs := by
  have hiff : Fresh platform s' ↔ s'.protocols = availableProtocols platform s'.configs ∧
      s'.envs = availableEnvs s'.configs ∧ s'.gateway = gatewayStacks s'.configs :=
    ⟨fun h' => ⟨h'.protocols, h'.envs, h'.gateway⟩,
      fun h' => ⟨h'.1, h'.2.1, hsubscriptions, h'.2.2⟩⟩
  rw [hiff, hprotocols, h.protocols, henvs, h.envs, availableProtocols, availableProtocols,
    availableEnvs, availableEnvs, Views.sortedKeys_eq_iff, Views.sortedKeys_eq_iff]

/-- Also the tags of the gateway are kept. -/
theorem Fresh.of_edited (hgateway : s'.gateway = s.gateway) : Fresh platform s' ↔
      SameKeys "" (serviceProtocolFilter platform) s.configs s'.configs ∧
        SameKeys "" connectionEnv s.configs s'.configs ∧
        SameKeys "" (gatewayTag "user_country_code") s.configs s'.configs ∧
        SameKeys "" (gatewayTag "service_type") s.configs s'.configs := by
  rw [h.of_kept hprotocols henvs hsubscriptions, hgateway, h.gateway, gatewayStacks_eq_iff]

end

/-! ## The list after each method -/

theorem map_config_modify (l : List Row) (row : ℕ) (server : QJsonObject) :
    (l.modify row fun r => { r with config := server }).map Row.config =
      (l.map Row.config).set row server := by
  refine ext_getElem? fun j => ?_
  rw [getElem?_map, getElem?_modify, getElem?_set]
  split_ifs <;> simp_all

theorem configs_editServer (s : CachedServers) (server : QJsonObject) (row : ℕ) :
    (s.editServer server row).configs = s.configs.set row server := by
  rw [editServer, ServersModel.editServer]
  by_cases hrow : row < s.model.servers.length
  · rw [dif_pos hrow]
    exact map_config_modify ..
  · rw [dif_neg hrow]
    have hlength : s.configs.length = s.model.servers.length := length_map _
    exact (set_eq_of_length_le (hlength ▸ not_lt.mp hrow)).symm

variable {row : ℕ} {server : QJsonObject} {m : Mutator}

/-- The record that is read is the one in the row. -/
theorem getServerConfig_eq {old : QJsonObject} (h : s.configs[row]? = some old) :
    s.model.getServerConfig row = old := by
  rw [configs, getElem?_map] at h
  obtain ⟨r, hr, rfl⟩ := map_eq_some_iff.mp h
  rw [ServersModel.getServerConfig, hr]

/-- A record is replaced by one with the same key. -/
theorem map_set_of_eq {α : Type} {key : QJsonObject → α}
    (h : key (s.model.getServerConfig row) = key server) :
    s.configs.map key = (s.configs.set row server).map key := by
  rw [map_set]
  refine ext_getElem? fun j => ?_
  rw [getElem?_set]
  split_ifs with hj hlt
  · subst hj
    obtain ⟨old, hold⟩ : ∃ old, s.configs[row]? = some old :=
      ⟨_, getElem?_eq_getElem (length_map key ▸ hlt)⟩
    rw [getElem?_map, hold, ← h, getServerConfig_eq hold]
    rfl
  · exact getElem?_eq_none (hj ▸ not_lt.mp hlt)
  · rfl

theorem availableSubscriptions_congr {l l' : List QJsonObject}
    (h : l.map subscriptionIdOfServer = l'.map subscriptionIdOfServer) :
    availableSubscriptions l = availableSubscriptions l' := by
  have hfold : ∀ l : List QJsonObject, availableSubscriptions l =
      (l.map subscriptionIdOfServer).foldl
        (fun ids id => if id ≠ "" ∧ id ∉ ids then ids ++ [id] else ids) [] := fun l => by
    rw [foldl_map]
    rfl
  rw [hfold, hfold, h]

/-- A record is replaced by one with the same derived data: nothing has to be recomputed. -/
theorem Fresh.of_same (h : Fresh platform s) (i : Fin s.model.servers.length)
    (hsame : ∀ key ∈ derivedKeys, (s.model.getServerConfig i).value key = server.value key) :
    Fresh platform { s with model := s.model.edit i server } := by
  have hconfigs : (s.model.edit i server).servers.map Row.config = s.configs.set i server :=
    map_config_modify ..
  obtain ⟨hapi, hprotocol⟩ := protocol_of_value platform hsame
  have hkeys : ∀ {key : QJsonObject → String}, key (s.model.getServerConfig i) = key server →
      SameKeys "" key s.configs ((s.model.edit i server).servers.map Row.config) := fun hkey =>
    hconfigs ▸ Views.sameKeys_of_map_eq (map_set_of_eq hkey)
  have hids : s.subscriptions =
      availableSubscriptions ((s.model.edit i server).servers.map Row.config) := by
    rw [h.subscriptions, hconfigs]
    exact availableSubscriptions_congr (map_set_of_eq hapi.subscriptionIdOfServer)
  have hiff : Fresh platform { s with model := s.model.edit i server } ↔ _ :=
    h.of_edited rfl rfl hids rfl
  refine hiff.mpr ⟨hkeys hprotocol, hkeys hapi.connectionEnv, hkeys ?_, hkeys ?_⟩
  · exact hapi.gatewayTag (by decide)
  · exact hapi.gatewayTag (by decide)

/-! ## Methods that edit a record -/

/-- A method that edits a record keeps its API config, or it is `editServer`. -/
theorem sameApi_of_edits (h : s.edits platform m = some (row, server)) :
    m = .editServer server row ∨ SameApi (s.model.getServerConfig row) server := by
  have hcontainer : ∀ {old new : QJsonObject},
      (∀ key, key ≠ "containers" → key ≠ "defaultContainer" → new.value key = old.value key) →
      SameApi old new := by
    intro old new hvalue
    refine .of_value fun key hkey => (hvalue key ?_ ?_).symm <;>
      · simp only [mem_cons, not_mem_nil, or_false] at hkey
        rcases hkey with rfl | rfl | rfl <;> decide
  cases m with
  | editServer server' row' =>
    obtain ⟨rfl, rfl⟩ := Prod.mk.inj (some.inj h)
    exact .inl rfl
  | reloadDefaultServerContainerConfig | updateContainerConfig =>
    obtain ⟨row', -, heq⟩ := map_eq_some_iff.mp h
    obtain ⟨rfl, rfl⟩ := Prod.mk.inj heq
    exact .inr (hcontainer fun key hne _ => value_withContainer _ _ _ hne)
  | addContainerConfig c config =>
    obtain ⟨row', -, heq⟩ := map_eq_some_iff.mp h
    obtain ⟨rfl, rfl⟩ := Prod.mk.inj heq
    exact .inr (hcontainer fun key hne hdefault => value_addedContainer _ _ _ _ hne hdefault)
  | setDefaultContainer row' c =>
    obtain ⟨rfl, rfl⟩ := Prod.mk.inj (some.inj h)
    exact .inr (hcontainer fun key _ hdefault => (value_insert ..).trans (if_neg hdefault))
  | isApiKeyExpired row' tomorrow =>
    simp only [edits] at h
    split_ifs at h
    obtain ⟨rfl, rfl⟩ := Prod.mk.inj (some.inj h)
    exact .inr (sameApi_withExpiry ..)
  | removeApiConfig row' =>
    obtain ⟨rfl, rfl⟩ := Prod.mk.inj (some.inj h)
    exact .inr (sameApi_withoutApiConfig _)
  | _ => cases h

theorem keepsDerived_of_none (hedits : s.edits platform m = none) (hremoves : s.removes m = none) :
    s.KeepsDerived platform m := by
  refine ⟨fun row server h => ?_, fun server row h => ?_, fun row h => ?_⟩
  · cases hedits.symm.trans h
  · subst h
    cases hedits
  · cases hremoves.symm.trans h

theorem keepsDerived_of_edits (hedits : s.edits platform m = some (row, server))
    (hremoves : s.removes m = none) :
    s.KeepsDerived platform m ↔
      SameKeys "" (serviceProtocolFilter platform) s.configs (s.configs.set row server) ∧
      SameKeys "" connectionEnv s.configs (s.configs.set row server) ∧
      SameKeys "" (gatewayTag "user_country_code") s.configs (s.configs.set row server) ∧
      SameKeys "" (gatewayTag "service_type") s.configs (s.configs.set row server) := by
  constructor
  · rintro ⟨hprotocol, hedit, -⟩
    refine ⟨hprotocol row server hedits, ?_⟩
    by_cases hm : m = .editServer server row
    · exact hedit server row hm
    · have hapi := (sameApi_of_edits hedits).resolve_left hm
      exact ⟨Views.sameKeys_of_map_eq (map_set_of_eq hapi.connectionEnv),
        Views.sameKeys_of_map_eq (map_set_of_eq (hapi.gatewayTag (by decide))),
        Views.sameKeys_of_map_eq (map_set_of_eq (hapi.gatewayTag (by decide)))⟩
  · rintro ⟨hprotocol, hrest⟩
    refine ⟨fun row' server' h => ?_, fun server' row' h => ?_, fun row' h => ?_⟩
    · obtain ⟨rfl, rfl⟩ := Prod.mk.inj (some.inj (hedits.symm.trans h))
      exact hprotocol
    · subst h
      obtain ⟨rfl, rfl⟩ := Prod.mk.inj (some.inj hedits)
      exact hrest
    · cases hremoves.symm.trans h

theorem editServer_derived (h : Fresh platform s) (server : QJsonObject) (row : ℕ) :
    (s.editServer server row).protocols = s.protocols ∧ (s.editServer server row).envs = s.envs ∧
      (s.editServer server row).subscriptions =
        availableSubscriptions (s.editServer server row).configs ∧
      (s.editServer server row).gateway = s.gateway := by
  rw [editServer]
  split
  · exact ⟨rfl, rfl, rfl, rfl⟩
  · exact ⟨rfl, rfl, h.subscriptions, rfl⟩

/-- A mutator that edits at most one row. -/
theorem fresh_edits_iff (h : Fresh platform s) {m : Mutator} (hremoves : s.removes m = none)
    (hstep : s.step platform m = match s.edits platform m with
      | some (row, server) => s.editServer server row
      | none => s) : Fresh platform (s.step platform m) ↔ s.KeepsDerived platform m := by
  cases hedits : s.edits platform m with
  | none =>
    rw [hstep, hedits]
    exact iff_of_true h (keepsDerived_of_none hedits hremoves)
  | some p =>
    obtain ⟨row, server⟩ := p
    rw [keepsDerived_of_edits hedits hremoves, hstep, hedits, ← s.configs_editServer]
    obtain ⟨hprotocols, henvs, hsubscriptions, hgateway⟩ := editServer_derived h server row
    exact h.of_edited hprotocols henvs hsubscriptions hgateway

/-! ## Runs -/

theorem keepsDerived_of_removes (hedits : s.edits platform m = none)
    (hremoves : s.removes m = some row) : s.KeepsDerived platform m ↔
      SameKeys "" (serviceProtocolFilter platform) s.configs (s.configs.eraseIdx row) ∧
        SameKeys "" connectionEnv s.configs (s.configs.eraseIdx row) := by
  refine ⟨fun h => h.2.2 row hremoves, fun h => ⟨fun row server heq => ?_, fun server row heq => ?_,
    fun row' hrow' => ?_⟩⟩
  · cases hedits.symm.trans heq
  · subst heq
    cases hedits
  · obtain rfl := some.inj (hremoves.symm.trans hrow')
    exact h

section

variable (h : Fresh platform s)
include h

/-- The protocols and the environments are not computed again. -/
theorem fresh_removes_iff (model : ServersModel)
    (hmodel : model.servers = s.model.servers.eraseIdx row) :
    Fresh platform
      (({ s with model := model } : CachedServers).recomputeAvailableSubscriptions.endResetModel) ↔
      SameKeys "" (serviceProtocolFilter platform) s.configs (s.configs.eraseIdx row) ∧
        SameKeys "" connectionEnv s.configs (s.configs.eraseIdx row) := by
  have hconfigs : model.servers.map Row.config = s.configs.eraseIdx row := by
    rw [hmodel, configs, eraseIdx_map]
  rw [← hconfigs]
  refine Iff.trans (h.of_kept ?_ ?_ ?_) (and_congr_right' (and_iff_left rfl)) <;> rfl

/-- Nothing was removed. -/
theorem fresh_removes_none {model : ServersModel}
    (hmodel : model.servers = s.model.servers) :
    Fresh platform
      (({ s with model := model } : CachedServers).recomputeAvailableSubscriptions.endResetModel) := by
  have hconfigs : s.configs = model.servers.map Row.config := congrArg (map _) hmodel.symm
  exact ⟨h.protocols.trans (congrArg _ hconfigs), h.envs.trans (congrArg _ hconfigs), rfl, rfl⟩

theorem fresh_removeProcessed_iff :
    Fresh platform (s.step platform .removeProcessedServer) ↔
      s.KeepsDerived platform .removeProcessedServer := by
  have hkeeps : s.rowOf s.model.processedServerIndex = none →
      s.KeepsDerived platform .removeProcessedServer := fun hnone => keepsDerived_of_none rfl hnone
  by_cases hindex : 0 ≤ s.model.processedServerIndex
  · have hmodel : s.model.removeProcessedServer.servers =
        s.model.servers.eraseIdx s.model.processedServerIndex.toNat := by
      rw [ServersModel.removeProcessedServer, if_pos hindex]
      rfl
    by_cases hrow : s.model.processedServerIndex.toNat < s.model.servers.length
    · have hremoves : s.removes .removeProcessedServer = some s.model.processedServerIndex.toNat :=
        if_pos ⟨hindex, hrow⟩
      rw [keepsDerived_of_removes rfl hremoves]
      exact fresh_removes_iff h _ hmodel
    · rw [eraseIdx_of_length_le (not_lt.mp hrow)] at hmodel
      exact iff_of_true (fresh_removes_none h hmodel) (hkeeps (if_neg fun hcond => hrow hcond.2))
  · have hmodel : s.model.removeProcessedServer.servers = s.model.servers := by
      rw [ServersModel.removeProcessedServer, if_neg hindex]
      rfl
    exact iff_of_true (fresh_removes_none h hmodel) (hkeeps (if_neg fun hcond => hindex hcond.1))

theorem fresh_setData (row : ℕ) (name : String) :
    Fresh platform (s.step platform (.setData row name)) := by
  show Fresh platform { s with model := s.model.setName row name }
  rw [ServersModel.setName]
  split_ifs with hrow
  · refine h.of_same ⟨row, hrow⟩ fun key hkey => ?_
    have hold : s.model.getServerConfig row = s.model.servers[row].config := by
      rw [ServersModel.getServerConfig, getElem?_eq_getElem hrow]
    exact hold ▸ value_renamed _ name hkey
  · exact h

theorem fresh_clearCachedProfile (c : DockerContainer) :
    Fresh platform (s.clearCachedProfile c) := by
  rw [clearCachedProfile]
  split
  · next row hrow =>
    rw [ServersModel.editServer]
    split_ifs with hlt
    · refine h.of_same ⟨row, hlt⟩ fun key hkey => (value_clearLastConnectionConfig _ c ?_).symm
      simp only [derivedKeys, mem_cons, not_mem_nil, or_false] at hkey
      rcases hkey with rfl | rfl | rfl | rfl | rfl <;> decide
    · exact h
  · exact h

/-- A method keeps the derived data fresh exactly if it does not change what it does not
recompute. -/
theorem fresh_step_iff : Fresh platform (s.step platform m) ↔ s.KeepsDerived platform m := by
  cases m with
  | resetModel | addServer | addServers | removeAllServers =>
    exact iff_of_true (fresh_recomputeAll ..) (keepsDerived_of_none rfl rfl)
  | setData row name => exact iff_of_true (fresh_setData h row name) (keepsDerived_of_none rfl rfl)
  | setDefaultServerIndex | setProcessedServerIndex =>
    exact iff_of_true ⟨h.protocols, h.envs, h.subscriptions, h.gateway⟩
      (keepsDerived_of_none rfl rfl)
  | removeProcessedServer => exact fresh_removeProcessed_iff h
  | removeServer row =>
    have hremoves : s.removes (.removeServer row) = some row := rfl
    rw [keepsDerived_of_removes rfl hremoves]
    exact fresh_removes_iff h _ rfl
  | clearCachedProfile c =>
    exact iff_of_true (fresh_clearCachedProfile h c) (keepsDerived_of_none rfl rfl)
  | importSubscriptionConfigs configs replaceExisting =>
    refine iff_of_true ?_ (keepsDerived_of_none rfl rfl)
    by_cases hconfigs : configs = []
    · rw [step_import, if_pos hconfigs]
      exact h
    · rw [step_import, if_neg hconfigs]
      exact fresh_recomputeAll ..
  | _ => exact fresh_edits_iff h rfl rfl

end

/-- In a run from the start of the application, the derived data is what recomputing it would give
after every method, and the list in memory is the stored one, exactly if no method changes what it
does not recompute. -/
theorem derived_data_fresh_iff (platform : ModelPlatform) (configs : List QJsonObject)
    (defaultIndex : ℤ) (mutators : List Mutator) :
    let s := CachedServers.load platform configs defaultIndex
    (∀ reached, reached <+: mutators → Fresh platform (s.run platform reached) ∧
      (s.run platform reached).model.servers = (s.run platform reached).model.settings.serversArray) ↔
      Trace.Meets (fun s m => s.step platform m) (KeepsDerived platform) s mutators := by
  intro s
  have hstart : Fresh platform s := fresh_recomputeAll ..
  have hiff : (∀ reached, reached <+: mutators → Fresh platform (s.run platform reached)) ↔
      Fresh platform s ∧
        Trace.Meets (fun s m => s.step platform m) (KeepsDerived platform) s mutators :=
    Trace.forall_good_iff_meets (fun _ _ (_ : True) => fresh_step_iff)
      (Trace.meets_of_forall (fun _ _ => trivial) s mutators)
  rw [and_iff_right hstart] at hiff
  refine Iff.trans ⟨fun h reached hreached => (h reached hreached).1, fun h reached hreached => ?_⟩ hiff
  exact ⟨h reached hreached, (s.run platform reached).model.servers_eq⟩

/-- A server is removed whose protocol and environment no other one has, and a record is edited. -/
theorem derived_data_stale :
    let platform : ModelPlatform := ⟨id, fun _ => true⟩
    let server (protocol env : String) := ofMembers [("config_version", .double 2),
      ("api_config", .object [("env", .string env), ("service_protocol", .string protocol),
        ("service_type", .string protocol)])]
    let s := CachedServers.load platform [server "awg" "private", server "vless" "premium"] 0
    let removed := s.run platform [.removeServer 1]
    let edited := s.run platform [.editServer (server "wireguard" "dev") 1]
    (removed.protocols = ["awg", "vless"] ∧ availableProtocols platform removed.configs = ["awg"] ∧
      removed.envs = ["premium", "private"] ∧ availableEnvs removed.configs = ["private"]) ∧
    (edited.protocols = ["awg", "vless"] ∧
      availableProtocols platform edited.configs = ["awg", "wireguard"] ∧
      edited.gateway ≠ gatewayStacks edited.configs) ∧
    ¬Fresh platform removed ∧ ¬Fresh platform edited := by
  refine ⟨by decide +kernel, by decide +kernel, fun h => ?_, fun h => ?_⟩
  · exact absurd h.protocols (by decide +kernel)
  · exact absurd h.protocols (by decide +kernel)

end CachedServers

end Dopamine.Client
