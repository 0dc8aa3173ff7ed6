import Dopamine.Client.Gateway
import Dopamine.Client.ServersModel

/-!
# Updates of a server from the gateway

`prepareGatewayConfigUpdate` and `finishGatewayConfigUpdate` of
`client/ui/controllers/api/apiConfigsController.cpp`. An update is prepared from the config that the
server has then, and it is finished when the response has come: `updateServiceFromGatewayAsync` does
the two at different times.
-/

namespace Dopamine.Client

open QJsonObject

/-- An update that has been requested. -/
structure GatewayConfigUpdate where
  serverIndex : ℕ
  newCountryName : String
  reloadServiceConfig : Bool
  silent : Bool
  isTestPurchase : Bool
  isConnectEvent : Bool
  serviceProtocol : String
  protocolData : ProtocolData
  /-- The config of the server when the request was made. -/
  serverConfig : QJsonObject
  apiConfig : QJsonObject
  authData : QJsonObject
  apiPayload : QJsonObject

/-! ## The request -/

/-- Insert a text that is not empty. -/
def insertNonEmpty (o : QJsonObject) (key text : String) : QJsonObject :=
  if text = "" then o else o.insertText key text

namespace Toolkit

variable (kit : Toolkit)

/-- `GatewayRequestData::toJsonObject`. -/
def requestData (userCountryCode serverCountryCode serviceType serviceProtocol : String)
    (authData : QJsonObject) : QJsonObject :=
  let o := insertNonEmpty empty "os_version" kit.productType
  let o := insertNonEmpty o "app_version" kit.appVersion
  let o := insertNonEmpty o "app_language" kit.appLanguage
  let o := insertNonEmpty o "installation_uuid" kit.installationUuid
  let o := insertNonEmpty o "user_country_code" userCountryCode
  let o := insertNonEmpty o "server_country_code" serverCountryCode
  let o := insertNonEmpty o "service_type" serviceType
  let o := insertNonEmpty o "service_protocol" serviceProtocol
  o.insertObject "auth_data" authData

/-- `generateProtocolData`, which takes what it needs from fresh keys and a fresh id. -/
def generateProtocolData (protocol : String) (fresh : ProtocolData) : ProtocolData :=
  let p := kit.canonicalServiceProtocol protocol
  if p = "awg" ∨ p = "wireguard" then
    { fresh with xrayUuid := "" }
  else if p = "vless" then
    { wireGuardClientPrivKey := "", wireGuardClientPubKey := "", xrayUuid := fresh.xrayUuid }
  else { wireGuardClientPrivKey := "", wireGuardClientPubKey := "", xrayUuid := "" }

def appendProtocolDataToApiPayload (protocol : String) (data : ProtocolData)
    (payload : QJsonObject) : QJsonObject :=
  let p := kit.canonicalServiceProtocol protocol
  if p = "awg" ∨ p = "wireguard" then payload.insertText "public_key" data.wireGuardClientPubKey
  else if p = "vless" then payload.insertText "public_key" data.xrayUuid
  else payload

/-- In `prepareGatewayConfigUpdate`, the stored keys of the client take the place of new ones. -/
def reuseKeys (containers : List Json) (data : ProtocolData) : ProtocolData :=
  let awg := containers.findSome? fun v =>
    let o := (Json.toObject (some v)).objectAt "awg"
    if o.isEmpty then none else some o
  match awg with
  | none => data
  | some o =>
      let lastConfig := kit.fromJson (o.textAt "last_config")
      let privKey := lastConfig.textAt "client_priv_key"
      let pubKey :=
        if privKey = "" then lastConfig.textAt "client_pub_key"
        else kit.genPublicKeyFromPrivate privKey
      if privKey ≠ "" ∧ pubKey ≠ "" then
        { data with wireGuardClientPrivKey := privKey, wireGuardClientPubKey := pubKey }
      else data

/-- `prepareGatewayConfigUpdate`, for the config of the server. -/
def prepareGatewayConfigUpdate (serverConfig : QJsonObject) (serverIndex : ℕ)
    (newCountryCode newCountryName : String) (reloadServiceConfig silent : Bool)
    (fresh : ProtocolData) : GatewayConfigUpdate :=
  let apiConfig := Client.apiConfig serverConfig
  let isConnectEvent : Bool :=
    newCountryCode = "" && newCountryName = "" && !reloadServiceConfig
  let isShared := (Client.authData serverConfig).contains "share_token"
  let authData := withApiKey (Client.authData serverConfig)
  let serviceProtocol := apiConfig.textAt "service_protocol"
  let protocolData :=
    if isShared then
      { wireGuardClientPrivKey := "", wireGuardClientPubKey := "", xrayUuid := "" }
    else kit.generateProtocolData serviceProtocol fresh
  let protocolData :=
    if !isShared && isConnectEvent && kit.canonicalServiceProtocol serviceProtocol = "awg" then
      kit.reuseKeys (serverConfig.arrayAt "containers") protocolData
    else protocolData
  let payload := kit.requestData (apiConfig.textAt "user_country_code") newCountryCode
    (apiConfig.textAt "service_type") serviceProtocol authData
  let payload :=
    if newCountryCode = "" then
      insertNonEmpty payload "connection_id" (apiConfig.textAt "connection_uuid")
    else payload
  let payload :=
    if newCountryCode = "" then insertNonEmpty payload "node_id" (apiConfig.textAt "node_id")
    else payload
  let payload :=
    if isShared then payload
    else kit.appendProtocolDataToApiPayload serviceProtocol protocolData payload
  let payload :=
    if isConnectEvent then payload.insert "is_connect_event" (some (.bool true)) else payload
  { serverIndex, newCountryName, reloadServiceConfig, silent, isConnectEvent, serviceProtocol,
    protocolData, serverConfig, apiConfig, authData
    isTestPurchase := Json.boolValue (apiConfig.value "is_test_purchase")
    apiPayload := payload }

end Toolkit

/-! ## The response -/

/-- What is emitted when an update is finished. -/
inductive UpdateSignal where
  | errorOccurred (e : ErrorCode)
  | reloadServerFromApiFinished
  | changeApiCountryFinished (newCountryName : String)
  | updateServerFromApiFinished

/-- The outcome of an update: the config to store, the returned value and what is emitted. -/
structure FinishedUpdate where
  write : Option QJsonObject
  result : Bool
  signals : List UpdateSignal

namespace GatewayConfigUpdate

variable (update : GatewayConfigUpdate)

/-- What an update emits if it does not fail. -/
def finishedSignals : List UpdateSignal :=
  if update.reloadServiceConfig then [.reloadServerFromApiFinished]
  else if update.newCountryName ≠ "" then [.changeApiCountryFinished update.newCountryName]
  else if update.silent then [] else [.updateServerFromApiFinished]

/-- An update that fails: with a usable config at hand it can count as done. -/
def fail (keep : Bool) (e : ErrorCode) : FinishedUpdate :=
  if keep then ⟨none, true, []⟩
  else ⟨none, false, if update.silent then [] else [.errorOccurred e]⟩

/-- In `finishGatewayConfigUpdate`, the API config: the old one, with what the response has. -/
def newApiConfig (response fetched : QJsonObject) : QJsonObject :=
  let api := update.apiConfig.merge fetched
  let api := insertNonEmpty api "config_rev" (response.textAt "config_rev")
  let api := api.insert "user_country_code" (update.apiConfig.value "user_country_code")
  let api := api.insert "service_type" (update.apiConfig.value "service_type")
  let api := api.insert "service_protocol" (update.apiConfig.value "service_protocol")
  let api := api.insert "vpn_key" (update.apiConfig.value "vpn_key")
  api.insertObject "auth_data" update.authData

/-- In `finishGatewayConfigUpdate`, the new config of the server: the names are those that it had
when the update was prepared. -/
def newServerConfig (response filled : QJsonObject) : QJsonObject :=
  let server := filled.insertObject "auth_data" update.authData
  let server := server.insertObject "api_config"
    (update.newApiConfig response (Client.apiConfig filled))
  let server := server.insert "crc" (update.serverConfig.value "crc")
  let server := server.insert "name" (update.serverConfig.value "name")
  let server :=
    if Json.boolValue (update.serverConfig.value "nameOverriddenByUser") then
      server.insert "nameOverriddenByUser" (some (.bool true))
    else server.insert "description" (update.serverConfig.value "description")
  if update.serverConfig.contains "displayInfo" then
    server.insert "displayInfo" (update.serverConfig.value "displayInfo")
  else server

/-- `finishGatewayConfigUpdate`, where `current` is the config in the row of the update. The config
to write goes to `editServer` for that row. -/
def finish (kit : Toolkit) (current : QJsonObject) (response : Response) : FinishedUpdate :=
  let hasUsable := serverHasUsableConfig current
  let keepLocalQuietly : Bool :=
    hasUsable && !update.reloadServiceConfig && update.newCountryName = ""
  match response with
  | .error e => update.fail keepLocalQuietly e
  | .ok body =>
      match kit.fillServerConfig update.serviceProtocol update.protocolData body empty with
      | .error e => update.fail keepLocalQuietly e
      | .ok filled =>
          let new := update.newServerConfig (kit.fromJson body) filled
          if new.textAt "hostName" = "" ∨ new.arrayAt "containers" = [] then
            update.fail hasUsable .apiConfigDownloadError
          else if new = update.serverConfig then ⟨none, true, update.finishedSignals⟩
          else ⟨some new, true, update.finishedSignals⟩

end GatewayConfigUpdate

/-- `finishGatewayConfigUpdate`: undefined if it writes to a row that is not there. -/
def ServersModel.finishGatewayConfigUpdate (m : ServersModel) (kit : Toolkit)
    (update : GatewayConfigUpdate) (response : Response) : Option ServersModel :=
  match (update.finish kit (m.getServerConfig update.serverIndex) response).write with
  | none => some m
  | some server => m.editServer server update.serverIndex

/-! ## What an update writes -/

theorem GatewayConfigUpdate.fail_write (update : GatewayConfigUpdate) (keep : Bool)
    (e : ErrorCode) : (update.fail keep e).write = none := by
  rw [fail]
  split_ifs <;> rfl

/-- The config in a response, before it is filled in. -/
def Toolkit.responseConfig (kit : Toolkit) (protocol : String) (data : ProtocolData)
    (body : String) : Except ErrorCode QJsonObject :=
  kit.decodeConfig body >>= kit.newServerConfig protocol data

variable {kit : Toolkit} {server : QJsonObject}

/-- A config that was filled in comes from a response and the config in it. -/
theorem Toolkit.fillServerConfig_eq_ok {protocol : String} {data : ProtocolData} {body : String}
    {old : QJsonObject} : kit.fillServerConfig protocol data body old = .ok server ↔
      ∃ new, kit.responseConfig protocol data body = .ok new ∧
        server = fillFrom (kit.fromJson body) new old := by
  simp only [fillServerConfig, responseConfig, Fallible.bind_eq_ok]
  constructor
  · rintro ⟨configStr, hdecode, new, hnew, h⟩
    exact ⟨new, ⟨configStr, hdecode, hnew⟩, (Except.ok.inj h).symm⟩
  · rintro ⟨new, ⟨configStr, hdecode, hnew⟩, rfl⟩
    exact ⟨configStr, hdecode, new, hnew, rfl⟩

theorem arrayAt_congr {o o' : QJsonObject} {key : String} (h : o.value key = o'.value key) :
    o.arrayAt key = o'.arrayAt key := by
  rw [arrayAt, arrayAt, h]

theorem textAt_congr {o o' : QJsonObject} {key : String} (h : o.value key = o'.value key) :
    o.textAt key = o'.textAt key := by
  rw [textAt, textAt, h]

theorem value_newServerConfig_of_ne {update : GatewayConfigUpdate} {response filled : QJsonObject}
    {key : String} (h : key ∉ ["auth_data", "api_config", "crc", "name", "nameOverriddenByUser",
      "description", "displayInfo"]) :
    (update.newServerConfig response filled).value key = filled.value key := by
  simp only [List.mem_cons, List.not_mem_nil, or_false, not_or] at h
  simp only [GatewayConfigUpdate.newServerConfig, value_ite, value_insert, h, if_false, ite_self]

namespace GatewayConfigUpdate

variable {update : GatewayConfigUpdate} {body : String} {new : QJsonObject}

/-- The server after an update, for a response and the config in it. -/
def updated (update : GatewayConfigUpdate) (kit : Toolkit) (body : String) (new : QJsonObject) :
    QJsonObject :=
  update.newServerConfig (kit.fromJson body) (fillFrom (kit.fromJson body) new empty)

/-- The config in a response is written: it has a host and containers, and the server is not as it
was when the update was prepared. -/
structure Writes (update : GatewayConfigUpdate) (kit : Toolkit) (body : String)
    (new : QJsonObject) : Prop where
  read : kit.responseConfig update.serviceProtocol update.protocolData body = .ok new
  hostName : new.textAt "hostName" ≠ ""
  containers : new.arrayAt "containers" ≠ []
  changed : update.updated kit body new ≠ update.serverConfig

theorem containers_updated : (update.updated kit body new).arrayAt "containers" =
    new.arrayAt "containers" :=
  arrayAt_congr ((value_newServerConfig_of_ne (by decide)).trans (filled _ new).containers)

/-- An update writes the config in a response and nothing else. -/
theorem finish_write_iff {current : QJsonObject} {response : Response} :
    (update.finish kit current response).write = some server ↔
      ∃ body new, response = .ok body ∧ update.Writes kit body new ∧
        server = update.updated kit body new := by
  cases response with
  | error e => simp [finish, fail_write]
  | ok body =>
    simp only [finish]
    cases hfill : kit.fillServerConfig update.serviceProtocol update.protocolData body empty with
    | error e =>
      refine iff_of_false (fun h => ?_) ?_
      · cases (update.fail_write ..).symm.trans h
      · rintro ⟨body', new, hbody, hwrites, -⟩
        obtain rfl := Except.ok.inj hbody
        cases hfill.symm.trans (kit.fillServerConfig_eq_ok.mpr ⟨new, hwrites.read, rfl⟩)
    | ok filled =>
      obtain ⟨new, hread, rfl⟩ := kit.fillServerConfig_eq_ok.mp hfill
      have hhost : (update.updated kit body new).textAt "hostName" = new.textAt "hostName" :=
        textAt_congr ((value_newServerConfig_of_ne (by decide)).trans (Client.filled _ new).hostName)
      dsimp only
      rw [show update.newServerConfig (kit.fromJson body) (fillFrom (kit.fromJson body) new empty) =
        update.updated kit body new from rfl, hhost, containers_updated]
      constructor
      · intro h
        split_ifs at h with hempty hsame
        · cases (update.fail_write ..).symm.trans h
        · rw [not_or] at hempty
          exact ⟨body, new, rfl, ⟨hread, hempty.1, hempty.2, hsame⟩, (Option.some.inj h).symm⟩
      · rintro ⟨body', new', hbody, hwrites, rfl⟩
        obtain rfl := Except.ok.inj hbody
        obtain rfl := Except.ok.inj (hwrites.read.symm.trans hread)
        rw [if_neg (not_or.mpr ⟨hwrites.hostName, hwrites.containers⟩), if_neg hwrites.changed]

end GatewayConfigUpdate

/-- A toolkit whose responses have a config without names. -/
def namelessKit : Toolkit := Toolkit.plain fun _ => ofMembers
  [("config", .string "c"), ("hostName", .string "h"), ("containers", .array [.object []])]

end Dopamine.Client
