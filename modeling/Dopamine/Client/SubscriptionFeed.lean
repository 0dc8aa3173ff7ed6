import Dopamine.Client.GatewayUpdate

/-!
# The feed of a subscription

`fetchSubscriptionFeed` of `client/ui/controllers/api/apiConfigsController.cpp`. The gateway lists
the services of a subscription and their connections, and for each connection a config is fetched,
unless the stored server has the revision that is listed. `applyDisplayIndexAndSort` brings the
configs into the order in which they are shown.

The slots of a feed are made when the services are known (`feedSlots`), with the servers that are
stored then. The configs are there when the last request has been answered (`closeFeed`).
-/

namespace Dopamine.Client

open QJsonObject List

/-- `ConfigWorkItem`: a connection of a service. -/
structure WorkItem where
  serviceObject : QJsonObject
  connectionObject : QJsonObject

namespace WorkItem

variable (item : WorkItem)

def connectionUuid : String := item.connectionObject.textAt "connection_uuid"

def nodeId : String := item.connectionObject.textAt "node_id"

def key : String := nodeKey item.connectionUuid item.nodeId

end WorkItem

/-- The connections of a service: those that are listed, or else the countries, or else a
placeholder without a connection. -/
def connectionsOf (userCountryCode : String) (service : QJsonObject) : List QJsonObject :=
  if service.arrayAt "connections" ≠ [] then
    (service.arrayAt "connections").map fun v => Json.toObject (some v)
  else if service.arrayAt "available_countries" ≠ [] then
    (service.arrayAt "available_countries").map fun v => Json.toObject (some v)
  else
    [((empty.insertText "country_code" userCountryCode).insertText "connection_uuid" "").insertText
      "connection_label" ""]

/-- The work items of a list of services. -/
def workItems (servicesData : QJsonObject) : List WorkItem :=
  (servicesData.arrayAt "services").flatMap fun v =>
    let service := Json.toObject (some v)
    (connectionsOf (servicesData.textAt "user_country_code") service).map (WorkItem.mk service)

/-! ## Names -/

/-- `QString::trimmed`. -/
def trimText (s : String) : String := String.ofList (trimmed s.toList)

def localizedPoolName (pool : String) (translation : QJsonObject) (language : Language) : String :=
  let code :=
    match language with
    | .russian => "ru"
    | .ukrainian => "uk"
    | .other => "en"
  let value := trimText (translation.textAt code)
  let value := if value = "" ∧ code = "uk" then trimText (translation.textAt "ua") else value
  if value ≠ "" then value else trimText pool

/-- The text before and after the first separator. -/
def splitAtFirst (sep : List Char) : List Char → Option (List Char × List Char)
  | [] => none
  | c :: l =>
      if sep <+: c :: l then some ([], (c :: l).drop sep.length)
      else (splitAtFirst sep l).map fun p => (c :: p.1, p.2)

/-- The label without joiners. -/
def displayLabel (connectionLabel : String) : String :=
  let joiner := Char.ofNat 0x200d
  replaceText "<200d>" "" (String.ofList (connectionLabel.toList.filter fun c => c ≠ joiner))

/-- The name in a label and the details of the protocol after it. -/
def labelParts (label : String) : String × String :=
  match splitAtFirst " · ".toList label.toList with
  | some (before, after) =>
      if before = [] then (label, "") else (String.ofList before, String.ofList after)
  | none => (label, "")

/-! ## Decorated configs -/

/-- The `auth_data` of a feed. -/
def feedAuthData (subscriptionId : String) (shared : Bool) : QJsonObject :=
  if shared then empty.insertText "share_token" subscriptionId
  else (empty.insertText "api_key" subscriptionId).insertText "id" subscriptionId

namespace Toolkit

variable (kit : Toolkit)

variable (item : WorkItem)

/-- The tag of a protocol that is a variant of another one. -/
def protocolVariant : String :=
  let raw := item.connectionObject.textAt "service_protocol"
  if kit.sameUpToCase raw (kit.canonicalServiceProtocol raw) then ""
  else kit.serviceProtocolDisplayName raw

/-- In `decorate`, the API config. -/
def decorateApiConfig (authData : QJsonObject) (item : WorkItem) (configRev : String)
    (api : QJsonObject) : QJsonObject :=
  let raw := item.connectionObject.textAt "service_protocol"
  let api := api.insertText "user_country_code" (item.connectionObject.textAt "country_code")
  let api := api.insertText "service_type" (item.serviceObject.textAt "service_type")
  let api :=
    if raw ≠ "" then api.insertText "service_protocol" raw
    else if api.textAt "service_protocol" = "" then
      api.insertText "service_protocol" (item.serviceObject.textAt "service_protocol")
    else api
  let api := api.insertText "env" (item.connectionObject.textAt "env")
  let api := api.insertObject "auth_data" authData
  let api := api.insertText "connection_uuid" item.connectionUuid
  let api := api.insertText "node_id" item.nodeId
  insertNonEmpty api "config_rev" configRev

/-- In `decorate`, the name of the protocol. -/
def protocolName (api : QJsonObject) : String :=
  kit.toUpper (textOr api "service_protocol" (item.serviceObject.textAt "service_protocol"))

/-- In `decorate`, the name of a server. -/
def connectionName (protocolName : String) : String :=
  let label := (labelParts (displayLabel (item.connectionObject.textAt "connection_label"))).1
  let country := kit.toUpper (item.connectionObject.textAt "country_code")
  let poolName := localizedPoolName (item.connectionObject.textAt "pool")
    (item.connectionObject.objectAt "pool_translation") kit.language
  if poolName ≠ "" then poolName
  else if label = "" then "reelsoprovod " ++ country ++ " " ++ protocolName
  else label

/-- In `decorate`, the description of a server. -/
def connectionDescription (protocolName hostName : String) : String :=
  let variant := kit.protocolVariant item
  let details := (labelParts (displayLabel (item.connectionObject.textAt "connection_label"))).2
  let details :=
    if details = "" ∨ variant ≠ "" then if variant = "" then protocolName else variant else details
  details ++ " · " ++ hostName

/-- In `decorate`, what is shown of a server. -/
def displayInfo (protocolName hostName : String) : QJsonObject :=
  let country := kit.toUpper (item.connectionObject.textAt "country_code")
  let variant := kit.protocolVariant item
  let o := empty.insertText "countryCode" country
  let o := o.insertText "countryName" country
  let o := o.insertText "protocol" (if variant = "" then protocolName else variant)
  let o := o.insertText "hostName" hostName
  let o := o.insertText "serviceName" ((item.serviceObject.objectAt "service_info").textAt "name")
  let o := o.insertText "connectionUuid" item.connectionUuid
  let o := o.insertText "connectionLabel"
    (displayLabel (item.connectionObject.textAt "connection_label"))
  let o := o.insertText "pool" (item.connectionObject.textAt "pool")
  o.insertObject "poolTranslation" (item.connectionObject.objectAt "pool_translation")

/-- `decorate`: what the list of services says of a server. -/
def decorate (authData serverConfig : QJsonObject) (item : WorkItem) (configRev : String) :
    QJsonObject :=
  let api := decorateApiConfig authData item configRev (apiConfig serverConfig)
  let hostName := serverConfig.textAt "hostName"
  let protocolName := kit.protocolName item api
  let server := serverConfig.insertObject "auth_data" authData
  let server := server.insertObject "api_config" api
  let server := server.insertText "name" (kit.connectionName item protocolName)
  let server := server.insertText "description"
    (kit.connectionDescription item protocolName hostName)
  server.insertObject "displayInfo" (kit.displayInfo item protocolName hostName)

/-! ## The feed -/

end Toolkit

/-- `ConfigSlot` with its work item: the config of the stored server, if it can be used again. -/
structure Slot where
  item : WorkItem
  reused : Option QJsonObject

/-- `storedByKey`: the first stored server of the subscription with a key. -/
def storedByKey (subscriptionId : String) (shared : Bool) (servers : List QJsonObject)
    (key : String) : QJsonObject :=
  let own := servers.filter fun server =>
    !shared && subscriptionIdForServer server = subscriptionId && connectionUuid server ≠ ""
  (own.find? fun server => serverKey server = key).getD empty

/-- What a feed delivers: `failures` are keys. -/
structure Feed where
  success : Bool
  configs : List QJsonObject
  failures : List String

/-- Each key is noted once. -/
def noteFailure (failures : List String) (item : WorkItem) : List String :=
  if item.connectionUuid ≠ "" ∧ item.key ∉ failures then failures ++ [item.key] else failures

namespace Toolkit

variable (kit : Toolkit) (subscriptionId : String) (shared : Bool) (servers : List QJsonObject)

/-- The slot of a work item. -/
def slotOf (item : WorkItem) : Slot :=
  let incomingRev := item.connectionObject.textAt "config_rev"
  let stored := storedByKey subscriptionId shared servers item.key
  let storedUsable : Bool := stored.textAt "hostName" ≠ "" && stored.arrayAt "containers" ≠ []
  if storedUsable && item.connectionUuid ≠ "" && incomingRev ≠ "" &&
      incomingRev = (apiConfig stored).textAt "config_rev" then
    ⟨item, some (kit.decorate (feedAuthData subscriptionId shared) stored item incomingRev)⟩
  else ⟨item, none⟩

/-- The slots of a feed, with the servers that are stored when the services are known. There are
none if no services are listed. -/
def feedSlots (body : String) : List Slot :=
  (workItems (kit.fromJson body)).map (kit.slotOf subscriptionId shared servers)

variable (authData : QJsonObject)

/-- The config of a work item, from the response to its request. -/
def fetchedConfig (item : WorkItem) (fresh : ProtocolData)
    (response : Response) : Option QJsonObject :=
  let serviceProtocol := item.serviceObject.textAt "service_protocol"
  match response with
  | .error _ => none
  | .ok body =>
      match kit.fillServerConfig serviceProtocol (kit.generateProtocolData serviceProtocol fresh)
          body empty with
      | .error _ => none
      | .ok server =>
          let responseRev := (kit.fromJson body).textAt "config_rev"
          let servicesRev := item.connectionObject.textAt "config_rev"
          some (kit.decorate authData server item
            (if responseRev ≠ "" then responseRev else servicesRev))

/-- The config in a slot, where `answer` has the fresh keys and the response of its request. -/
def slotConfig (slot : Slot) (answer : ProtocolData × Response) :
    Option QJsonObject :=
  slot.reused.or (kit.fetchedConfig authData slot.item answer.1 answer.2)

/-- What a feed delivers after the last response. The failures are listed in the order of the items.
-/
def closeFeed (slots : List Slot)
    (answers : ℕ → ProtocolData × Response) : Feed :=
  let results := slots.zipIdx.map fun p => (p.1.item, kit.slotConfig authData p.1 (answers p.2))
  { success := results.any fun r => r.2.isSome
    configs := results.filterMap fun r => r.2
    failures := ((results.filter fun r => r.2.isNone).map fun r => r.1).foldl noteFailure [] }

/-- `fetchSubscriptionFeed`, if nothing happens between the requests. -/
def fetchSubscriptionFeed (services : Response) (answers : ℕ → ProtocolData × Response) : Feed :=
  match services with
  | .error _ => ⟨false, [], []⟩
  | .ok body =>
      kit.closeFeed (feedAuthData subscriptionId shared)
        (kit.feedSlots subscriptionId shared servers body) answers

end Toolkit

/-! ## The order of the configs -/

/-- The text by which configs with the same label are counted. -/
def labelKey (config : QJsonObject) : String :=
  let info := config.objectAt "displayInfo"
  info.textAt "connectionLabel" ++ "|" ++ info.textAt "countryCode" ++ "|" ++ info.textAt "protocol"

/-- The config with a number behind its name, unless the number is zero. -/
def setDisplayIndex (config : QJsonObject) (displayIndex : ℕ) : QJsonObject :=
  let info := (config.objectAt "displayInfo").insert "displayIndex" (some (.double displayIndex))
  let baseName := config.textAt "name"
  let name := if 0 < displayIndex then baseName ++ " #" ++ toString displayIndex else baseName
  (config.insertText "name" name).insertObject "displayInfo" info

/-- The loop of `applyDisplayIndexAndSort` that numbers the configs with a label that occurs again.
-/
def numberLabels (labelCounts : String → ℕ) : (String → ℕ) → List QJsonObject → List QJsonObject
  | _, [] => []
  | labelCurrent, config :: l =>
      if labelCounts (labelKey config) > 1 then
        let displayIndex := labelCurrent (labelKey config) + 1
        setDisplayIndex config displayIndex ::
          numberLabels labelCounts (Function.update labelCurrent (labelKey config) displayIndex) l
      else setDisplayIndex config 0 :: numberLabels labelCounts labelCurrent l

namespace Toolkit

variable (kit : Toolkit)

def protocolRank (config : QJsonObject) : ℕ :=
  let raw := (apiConfig config).textAt "service_protocol"
  let protocol := kit.canonicalServiceProtocol raw
  if kit.sameUpToCase raw "AmneziaWgMobile" then 0
  else if protocol = "awg" then 1
  else if protocol = "hysteria2" then 2
  else if protocol = "vless" then 3
  else if protocol = "wireguard" then 4
  else 5

def applyDisplayIndexAndSort (configs : List QJsonObject) : List QJsonObject :=
  (numberLabels (fun key => configs.countP fun c => labelKey c = key) (fun _ => 0)
    configs).insertionSort fun a b => kit.protocolRank a ≤ kit.protocolRank b

end Toolkit

/-! ## What a feed delivers -/

section Decorated

variable {kit : Toolkit} {authData server : QJsonObject} {item : WorkItem} {rev : String}

theorem apiConfig_decorate : apiConfig (kit.decorate authData server item rev) =
    Toolkit.decorateApiConfig authData item rev (apiConfig server) := by
  simp [apiConfig, Toolkit.decorate, objectAt, value_insert]

theorem value_decorate_of_ne {key : String}
    (h : key ∉ ["auth_data", "api_config", "name", "description", "displayInfo"]) :
    (kit.decorate authData server item rev).value key = server.value key := by
  simp only [mem_cons, not_mem_nil, or_false, not_or] at h
  simp [Toolkit.decorate, value_insert, h]

theorem value_insertNonEmpty (o : QJsonObject) (key text key' : String) :
    (insertNonEmpty o key text).value key' =
      if text ≠ "" ∧ key' = key then some (.string text) else o.value key' := by
  rw [insertNonEmpty]
  split_ifs with htext h h
  · exact absurd htext h.1
  · rfl
  · rw [value_insert, if_pos h.2]
  · rw [value_insert, if_neg fun hkey => h ⟨htext, hkey⟩]

/-- A decorated server has the connection of its work item. -/
theorem connectionUuid_decorate :
    connectionUuid (kit.decorate authData server item rev) = item.connectionUuid := by
  rw [connectionUuid, apiConfig_decorate]
  simp [Toolkit.decorateApiConfig, textAt, value_insertNonEmpty, value_insert]

theorem nodeId_decorate : nodeId (kit.decorate authData server item rev) = item.nodeId := by
  rw [nodeId, apiConfig_decorate]
  simp [Toolkit.decorateApiConfig, textAt, value_insertNonEmpty, value_insert]

theorem serverKey_decorate : serverKey (kit.decorate authData server item rev) = item.key := by
  rw [serverKey, connectionUuid_decorate, nodeId_decorate]
  rfl

end Decorated

/-- A stored server that is found has the key and the subscription. -/
theorem storedByKey_spec {subscriptionId key : String} {shared : Bool} {servers : List QJsonObject}
    (h : storedByKey subscriptionId shared servers key ≠ empty) :
    storedByKey subscriptionId shared servers key ∈ servers ∧
      subscriptionIdForServer (storedByKey subscriptionId shared servers key) = subscriptionId ∧
      serverKey (storedByKey subscriptionId shared servers key) = key := by
  rw [storedByKey] at h ⊢
  cases hfind : (servers.filter fun server => !shared &&
      subscriptionIdForServer server = subscriptionId && connectionUuid server ≠ "").find?
        fun server => serverKey server = key with
  | none =>
    simp only [hfind, Option.getD_none, ne_eq, not_true_eq_false] at h
  | some server =>
    simp only [Option.getD_some]
    have hkey := find?_some (p := fun server => decide (serverKey server = key)) hfind
    have hmem := mem_filter.mp (mem_of_find?_eq_some hfind)
    simp only [Bool.and_eq_true, decide_eq_true_eq] at hmem
    exact ⟨hmem.1, hmem.2.1.2, of_decide_eq_true hkey⟩

namespace Toolkit

variable {kit : Toolkit} {subscriptionId key : String} {shared : Bool} {servers : List QJsonObject}
  {item : WorkItem} {config : QJsonObject} {failures : List String} {items : List WorkItem}

/-- A config that is used again is the one of a stored server. -/
theorem slotOf_reused (h : (kit.slotOf subscriptionId shared servers item).reused = some config) :
    ∃ server ∈ servers, subscriptionIdForServer server = subscriptionId ∧
      serverKey server = item.key ∧
      config = kit.decorate (feedAuthData subscriptionId shared) server item
        (item.connectionObject.textAt "config_rev") := by
  rw [slotOf] at h
  split_ifs at h with hcond
  · simp only [Bool.and_eq_true, decide_eq_true_eq] at hcond
    have hne : storedByKey subscriptionId shared servers item.key ≠ empty := by
      intro heq
      rw [heq] at hcond
      exact hcond.1.1.1.1 rfl
    obtain ⟨hmem, hsub, hkey⟩ := storedByKey_spec hne
    exact ⟨_, hmem, hsub, hkey, (Option.some.inj h).symm⟩

theorem slotOf_item (subscriptionId : String) (shared : Bool) (servers : List QJsonObject)
    (item : WorkItem) : (kit.slotOf subscriptionId shared servers item).item = item := by
  rw [slotOf]
  split_ifs <;> rfl

/-- A config that is fetched is filled in from nothing. -/
theorem fetchedConfig_eq_some {authData : QJsonObject} {fresh : ProtocolData}
    {response : Response} (h : kit.fetchedConfig authData item fresh response = some config) :
    ∃ body new server rev, Filled (kit.fromJson body) new server ∧
      config = kit.decorate authData server item rev := by
  cases response with
  | error e => cases h
  | ok body =>
    simp only [fetchedConfig] at h
    split at h
    · cases h
    · next server hfill =>
      obtain ⟨new, -, rfl⟩ := kit.fillServerConfig_eq_ok.mp hfill
      exact ⟨body, new, _, _, filled _ new, (Option.some.inj h).symm⟩

/-- The config in a slot has the connection of its work item. -/
theorem serverKey_slotConfig {subscriptionId : String} {shared : Bool} {servers : List QJsonObject}
    {item : WorkItem} {answer : ProtocolData × Response} {config : QJsonObject}
    (h : kit.slotConfig (feedAuthData subscriptionId shared)
      (kit.slotOf subscriptionId shared servers item) answer = some config) :
    serverKey config = item.key := by
  rw [slotConfig, Option.or_eq_some_iff] at h
  rcases h with hreused | ⟨-, hfetched⟩
  · obtain ⟨server, -, -, -, rfl⟩ := slotOf_reused hreused
    exact serverKey_decorate
  · obtain ⟨body, new, server, rev, -, rfl⟩ := fetchedConfig_eq_some hfetched
    exact serverKey_decorate.trans (congrArg WorkItem.key (slotOf_item ..))

theorem mem_noteFailure :
    key ∈ noteFailure failures item ↔
      key ∈ failures ∨ item.connectionUuid ≠ "" ∧ item.key = key := by
  rw [noteFailure]
  split_ifs with hnote
  · rw [mem_append, mem_singleton, eq_comm (a := key)]
    exact or_congr_right (and_iff_right hnote.1).symm
  · refine (or_iff_left_of_imp ?_).symm
    rintro ⟨huuid, rfl⟩
    exact not_not.mp fun hmem => hnote ⟨huuid, hmem⟩

/-- The keys of the items with a connection that failed are noted. -/
theorem mem_foldl_noteFailure :
    key ∈ items.foldl noteFailure failures ↔
      key ∈ failures ∨ ∃ item ∈ items, item.connectionUuid ≠ "" ∧ item.key = key := by
  induction items generalizing failures with
  | nil => simp
  | cons item items ih =>
    rw [foldl_cons, ih, mem_noteFailure, or_assoc, exists_mem_cons_iff]

variable {authData : QJsonObject} {slots : List Slot} {answers : ℕ → ProtocolData × Response}

theorem mem_results {result : WorkItem × Option QJsonObject} :
    (result ∈ slots.zipIdx.map fun p => (p.1.item, kit.slotConfig authData p.1 (answers p.2))) ↔
      ∃ i slot, slots[i]? = some slot ∧
        result = (slot.item, kit.slotConfig authData slot (answers i)) := by
  rw [mem_map]
  constructor
  · rintro ⟨⟨slot, i⟩, hmem, rfl⟩
    exact ⟨i, slot, mem_zipIdx_iff_getElem?.mp hmem, rfl⟩
  · rintro ⟨i, slot, hslot, rfl⟩
    exact ⟨(slot, i), mem_zipIdx_iff_getElem?.mpr hslot, rfl⟩

/-- The configs that a feed delivers are those in its slots. -/
theorem mem_closeFeed_configs :
    config ∈ (kit.closeFeed authData slots answers).configs ↔
      ∃ i slot, slots[i]? = some slot ∧ kit.slotConfig authData slot (answers i) = some config := by
  refine mem_filterMap.trans ⟨?_, ?_⟩
  · rintro ⟨result, hmem, hconfig⟩
    obtain ⟨i, slot, hslot, rfl⟩ := mem_results.mp hmem
    exact ⟨i, slot, hslot, hconfig⟩
  · rintro ⟨i, slot, hslot, hconfig⟩
    exact ⟨_, mem_results.mpr ⟨i, slot, hslot, rfl⟩, hconfig⟩

/-- The failures are the keys of the slots without a config, if they have a connection. -/
theorem mem_closeFeed_failures :
    key ∈ (kit.closeFeed authData slots answers).failures ↔
      ∃ i slot, slots[i]? = some slot ∧ kit.slotConfig authData slot (answers i) = none ∧
        slot.item.connectionUuid ≠ "" ∧ slot.item.key = key := by
  refine mem_foldl_noteFailure.trans ((or_iff_right not_mem_nil).trans ?_)
  constructor
  · rintro ⟨item, hmem, huuid, rfl⟩
    obtain ⟨result, hresult, rfl⟩ := mem_map.mp hmem
    obtain ⟨hresult, hnone⟩ := mem_filter.mp hresult
    obtain ⟨i, slot, hslot, rfl⟩ := mem_results.mp hresult
    exact ⟨i, slot, hslot, Option.isNone_iff_eq_none.mp hnone, huuid, rfl⟩
  · rintro ⟨i, slot, hslot, hnone, huuid, rfl⟩
    refine ⟨slot.item, mem_map.mpr ⟨(slot.item, none), mem_filter.mpr ⟨?_, rfl⟩, rfl⟩,
      huuid, rfl⟩
    exact mem_results.mpr ⟨i, slot, hslot, congrArg _ hnone.symm⟩

/-- Every work item with a connection is among the configs or among the failures. -/
theorem key_mem_closeFeed (hitem : item ∈ items) (huuid : item.connectionUuid ≠ "") :
    let feed := kit.closeFeed (feedAuthData subscriptionId shared)
      (items.map (kit.slotOf subscriptionId shared servers)) answers
    item.key ∈ feed.configs.map serverKey ∨ item.key ∈ feed.failures := by
  obtain ⟨i, hi⟩ := mem_iff_getElem?.mp hitem
  have hslot : (items.map (kit.slotOf subscriptionId shared servers))[i]? =
      some (kit.slotOf subscriptionId shared servers item) := by
    rw [getElem?_map, hi]
    rfl
  cases hconfig : kit.slotConfig (feedAuthData subscriptionId shared)
      (kit.slotOf subscriptionId shared servers item) (answers i) with
  | some config =>
    refine .inl (mem_map.mpr ⟨config, ?_, serverKey_slotConfig hconfig⟩)
    exact mem_closeFeed_configs.mpr ⟨i, _, hslot, hconfig⟩
  | none =>
    refine .inr (mem_closeFeed_failures.mpr ⟨i, _, hslot, hconfig, ?_⟩)
    rw [slotOf_item]
    exact ⟨huuid, rfl⟩

/-- Every listed connection is among the configs of the feed or among its failures. -/
theorem key_mem_fetchSubscriptionFeed {body : String}
    (hitem : item ∈ workItems (kit.fromJson body)) (huuid : item.connectionUuid ≠ "") :
    let feed := kit.fetchSubscriptionFeed subscriptionId shared servers (.ok body) answers
    item.key ∈ feed.configs.map serverKey ∨ item.key ∈ feed.failures :=
  key_mem_closeFeed hitem huuid

end Toolkit

end Dopamine.Client
