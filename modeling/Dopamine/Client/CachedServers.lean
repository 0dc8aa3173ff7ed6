import Dopamine.Client.ServersModel
import Dopamine.Trace.Runs
import Dopamine.Views.Keys

/-!
# The derived data of the list of servers

`ServersModel` of `client/ui/models/servers_model.cpp` keeps what it derives from the list: the
protocols and the environments for the filters, the subscriptions, and the tags of the gateway
servers. Each method recomputes some of it. The tags are recomputed when the model is reset
(`endResetModel`).

`Mutator` has the public methods that change the list, the default server or the processed server,
and `importSubscriptionConfigs` of `client/ui/controllers/importController.cpp`. Methods that only
change health results, the DNS flag or what is shown are left out. An index outside of the list is
undefined for the methods that replace a record, so nothing happens then.

`QString` sorts by UTF-16 code units. The order of `String` is used for it, as for the members of
objects.
-/

namespace Dopamine.Client

open QJsonObject
open DockerContainer (containerToString containerFromString)

/-- What the model asks Qt and the platform. -/
structure ModelPlatform where
  toLower : String → String
  /-- `ContainerProps::isSupportedByCurrentPlatform`. -/
  isSupported : DockerContainer → Bool

/-! ## What is derived from one server -/

/-- `ServiceProtocolFilterRole`. -/
def serviceProtocolFilter (platform : ModelPlatform) (server : QJsonObject) : String :=
  let protocol := (apiConfig server).textAt "service_protocol"
  let protocol :=
    if protocol = "" then (server.objectAt "displayInfo").textAt "protocol" else protocol
  let protocol :=
    if protocol = "" then
      let container := containerFromString (server.textAt "defaultContainer")
      let name := container.containerTypeToProtocolString
      if name = "none" then "" else name
    else protocol
  platform.toLower protocol

variable (server : QJsonObject)

/-- `ConnectionEnvRole`. -/
def connectionEnv : String :=
  let env := (apiConfig server).textAt "env"
  if "custompremium".toList.isPrefixOf env.toList then "premium"
  else if "custom".toList.isPrefixOf env.toList then "private"
  else env

def subscriptionIdOfServer : String :=
  if Json.boolValue ((apiConfig server).value "shared") then ""
  else if (authData server).contains "share_token" then ""
  else authId (authData server)

/-- A text of the API config, for servers of the gateway. -/
def gatewayTag (key : String) (server : QJsonObject) : String :=
  if configVersion server = amneziaGateway then (apiConfig server).textAt key else ""

/-! ## What is derived from the list -/

structure GatewayStacks where
  userCountryCodes : Finset String
  serviceTypes : Finset String
deriving DecidableEq

/-- `recomputeAvailableProtocols`. -/
def availableProtocols (platform : ModelPlatform) (servers : List QJsonObject) : List String :=
  Views.sortedKeys "" (serviceProtocolFilter platform) servers

variable (servers : List QJsonObject)

/-- `recomputeAvailableEnvs`. -/
def availableEnvs : List String :=
  Views.sortedKeys "" connectionEnv servers

/-- `recomputeAvailableSubscriptions`: the ids in the order in which they are first seen. -/
def availableSubscriptions : List String :=
  servers.foldl (fun ids server =>
    let id := subscriptionIdOfServer server
    if id ≠ "" ∧ id ∉ ids then ids ++ [id] else ids) []

/-- `recomputeGatewayStacks`. -/
def gatewayStacks : GatewayStacks where
  userCountryCodes := Views.keySet "" (gatewayTag "user_country_code") servers
  serviceTypes := Views.keySet "" (gatewayTag "service_type") servers

/-- The model with its derived data. -/
structure CachedServers where
  model : ServersModel
  protocols : List String
  envs : List String
  subscriptions : List String
  gateway : GatewayStacks

/-! ## Records -/

variable (c : DockerContainer)

/-- `Settings::containers`: the last container of a kind. -/
def containerOf : Option QJsonObject :=
  ((server.arrayAt "containers").map fun v => Json.toObject (some v)).reverse.find? fun o =>
    containerFromString (o.textAt "container") = c

def containerConfig : QJsonObject := if c = .none then empty else (containerOf server c).getD empty

/-- `Settings::setContainerConfig`, on the record: the containers are written in their order. -/
def setContainerConfig (config : QJsonObject) : QJsonObject :=
  if c = .none then server
  else
    let config := config.insertText "container" (containerToString c)
    let containers := DockerContainer.all.filterMap fun c' =>
      if c' = c then some config.toValue else (containerOf server c').map toValue
    server.insert "containers" (some (.array containers))

/-- `Settings::clearLastConnectionConfig`, on the record. -/
def clearLastConnectionConfig : QJsonObject :=
  c.protocolsForContainer.foldl (fun server p =>
    let config := containerConfig server c
    let protocol := (config.objectAt p.protoToString).insert "last_config" none
    setContainerConfig server c (config.insertObject p.protoToString protocol)) server

/-- The containers with another config for the first one of a kind. -/
def replaceContainer (c : DockerContainer) (config : QJsonObject) : List Json → List Json
  | [] => []
  | v :: l =>
      if containerFromString ((Json.toObject (some v)).textAt "container") = c then
        config.toValue :: l
      else v :: replaceContainer c config l

/-- The record that `reloadDefaultServerContainerConfig` and `updateContainerConfig` write. -/
def withContainer (config : QJsonObject) : QJsonObject :=
  server.insert "containers" (some (.array (replaceContainer c config (server.arrayAt "containers"))))

/-- The record that `addContainerConfig` writes. -/
def addedContainer (platform : ModelPlatform) (server : QJsonObject) (c : DockerContainer)
    (config : QJsonObject) : QJsonObject :=
  let defaultContainer := containerFromString (server.textAt "defaultContainer")
  let server := server.insert "containers"
    (some (.array (server.arrayAt "containers" ++ [config.toValue])))
  if defaultContainer = .none ∧ c.containerService ≠ .other ∧ platform.isSupported c then
    server.insertText "defaultContainer" (containerToString c)
  else server

/-- The record that `isApiKeyExpired` writes if the key has no date. -/
def withExpiry (tomorrow : String) : QJsonObject :=
  let publicKeyInfo := ((apiConfig server).objectAt "public_key").insertText "expires_at" tomorrow
  server.insertObject "api_config" ((apiConfig server).insertObject "public_key" publicKeyInfo)

/-- The record that `removeApiConfig` writes. -/
def withoutApiConfig : QJsonObject :=
  let server := (((server.insert "dns1" none).insert "dns2" none).insert "containers" none).insert
    "hostName" none
  let server := server.insertObject "api_config" ((apiConfig server).insert "public_key" none)
  server.insertText "defaultContainer" (containerToString .none)

/-! ## Methods -/

/-- The methods that change the model. -/
inductive Mutator where
  | resetModel
  | setData (row : ℕ) (name : String)
  | setDefaultServerIndex (index : ℤ)
  | setProcessedServerIndex (index : ℤ)
  | addServer (server : QJsonObject)
  | addServers (servers : List QJsonObject)
  | removeAllServers
  | editServer (server : QJsonObject) (row : ℕ)
  | removeProcessedServer
  | removeServer (row : ℕ)
  | reloadDefaultServerContainerConfig
  | updateContainerConfig (c : DockerContainer) (config : QJsonObject)
  | addContainerConfig (c : DockerContainer) (config : QJsonObject)
  | setDefaultContainer (row : ℕ) (c : DockerContainer)
  | clearCachedProfile (c : DockerContainer)
  | isApiKeyExpired (row : ℕ) (tomorrow : String)
  | removeApiConfig (row : ℕ)
  | importSubscriptionConfigs (configs : List QJsonObject) (replaceExisting : Bool)

namespace CachedServers

variable (s : CachedServers) (platform : ModelPlatform)

/-- The records of the list. -/
def configs : List QJsonObject := s.model.servers.map Row.config

def recomputeAvailableProtocols : CachedServers :=
  { s with protocols := availableProtocols platform s.configs }

def recomputeAvailableEnvs : CachedServers := { s with envs := availableEnvs s.configs }

def recomputeAvailableSubscriptions : CachedServers :=
  { s with subscriptions := availableSubscriptions s.configs }

/-- `recomputeGatewayStacks`, which is connected to `modelReset`. -/
def endResetModel : CachedServers := { s with gateway := gatewayStacks s.configs }

/-- The end of the methods that recompute all. -/
def recomputeAll : CachedServers :=
  let s := (s.recomputeAvailableProtocols platform).recomputeAvailableEnvs
  s.recomputeAvailableSubscriptions.endResetModel

def rowOf (index : ℤ) : Option ℕ :=
  if 0 ≤ index ∧ index.toNat < s.model.servers.length then some index.toNat else none

def editServer (server : QJsonObject) (row : ℕ) : CachedServers :=
  match s.model.editServer server row with
  | some model => ({ s with model := model } : CachedServers).recomputeAvailableSubscriptions
  | none => s

def addServers (servers : List QJsonObject) : CachedServers :=
  ({ s with model := s.model.addServers servers } : CachedServers).recomputeAll platform

def removeAllServers : CachedServers :=
  ({ s with model := s.model.removeAllServers } : CachedServers).recomputeAll platform

/-- `clearCachedProfile`: the record is written to the settings and read back. -/
def clearCachedProfile (c : DockerContainer) : CachedServers :=
  match s.rowOf s.model.processedServerIndex with
  | some row =>
      match s.model.editServer (clearLastConnectionConfig (s.model.getServerConfig row) c) row with
      | some model => { s with model := model }
      | none => s
  | none => s

/-- The record that a method passes to `editServer`, and its row. -/
def edits : Mutator → Option (ℕ × QJsonObject)
  | .editServer server row => some (row, server)
  | .reloadDefaultServerContainerConfig =>
      (s.rowOf s.model.defaultServerIndex).map fun row =>
        let server := s.model.getServerConfig row
        let c := containerFromString (server.textAt "defaultContainer")
        (row, withContainer server c (containerConfig server c))
  | .updateContainerConfig c config =>
      (s.rowOf s.model.processedServerIndex).map fun row =>
        (row, withContainer (s.model.getServerConfig row) c config)
  | .addContainerConfig c config =>
      (s.rowOf s.model.processedServerIndex).map fun row =>
        (row, addedContainer platform (s.model.getServerConfig row) c config)
  | .setDefaultContainer row c =>
      some (row, (s.model.getServerConfig row).insertText "defaultContainer" (containerToString c))
  | .isApiKeyExpired row tomorrow =>
      let server := s.model.getServerConfig row
      if ((apiConfig server).objectAt "public_key").textAt "expires_at" = "" then
        some (row, withExpiry server tomorrow)
      else none
  | .removeApiConfig row => some (row, withoutApiConfig (s.model.getServerConfig row))
  | _ => none

/-- The row that a method removes. -/
def removes : Mutator → Option ℕ
  | .removeServer row => some row
  | .removeProcessedServer => s.rowOf s.model.processedServerIndex
  | _ => none

/-- What a method does. -/
def step : Mutator → CachedServers
  | .resetModel =>
      ({ s with model := s.model.setProcessedServerIndex s.model.defaultServerIndex } :
        CachedServers).recomputeAll platform
  | .setData row name => { s with model := s.model.setName row name }
  | .setDefaultServerIndex index => { s with model := s.model.setDefaultServerIndex index }
  | .setProcessedServerIndex index => { s with model := s.model.setProcessedServerIndex index }
  | .addServer server =>
      ({ s with model := s.model.addServer server } : CachedServers).recomputeAll platform
  | .addServers servers => s.addServers platform servers
  | .removeAllServers => s.removeAllServers platform
  | .removeProcessedServer =>
      ({ s with model := s.model.removeProcessedServer } :
        CachedServers).recomputeAvailableSubscriptions.endResetModel
  | .removeServer row =>
      ({ s with model := s.model.removeServer row } :
        CachedServers).recomputeAvailableSubscriptions.endResetModel
  | .clearCachedProfile c => s.clearCachedProfile c
  | .importSubscriptionConfigs configs replaceExisting =>
      if configs = [] then s
      else (if replaceExisting then s.removeAllServers platform else s).addServers platform configs
  | m =>
      match s.edits platform m with
      | some (row, server) => s.editServer server row
      | none => s

/-- The model after some methods. -/
def run (mutators : List Mutator) : CachedServers :=
  Trace.run (fun s m => s.step platform m) s mutators

end CachedServers

/-- `resetModel` at the start of the application, for what is stored. -/
def CachedServers.load (platform : ModelPlatform) (configs : List QJsonObject) (defaultIndex : ℤ) :
    CachedServers :=
  CachedServers.recomputeAll ⟨.resetModel configs defaultIndex, [], [], [], gatewayStacks []⟩ platform

end Dopamine.Client
