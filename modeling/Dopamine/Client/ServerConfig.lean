import Dopamine.Client.QJsonObject

/-!
# Server configs

A server of the client is a JSON object. This module has what the code reads from it: the container
names of `client/containers/containers_defs.cpp`, `ServersModel::serverHasUsableConfig` of
`client/ui/models/servers_model.cpp`, and from `client/ui/controllers/api/apiConfigsController.cpp`
to which subscription a server belongs.
-/

namespace Dopamine.Client

open QJsonObject

/-! ## Containers -/

inductive DockerContainer where
  | none
  | awg
  | awg2
  | wireGuard
  | xray
  | ssXray
  | torWebSite
  | dns
  | sftp
  | socks5Proxy
deriving DecidableEq

namespace DockerContainer

/-- `ContainerProps::allContainers`. -/
def all : List DockerContainer :=
  [none, awg, awg2, wireGuard, xray, ssXray, torWebSite, dns, sftp, socks5Proxy]

def containerToString : DockerContainer → String
  | none => "none"
  | awg => "amnezia-awg"
  | awg2 => "amnezia-awg2"
  | wireGuard => "amnezia-wireguard"
  | xray => "amnezia-xray"
  | ssXray => "amnezia-ssxray"
  | torWebSite => "amnezia-torwebsite"
  | dns => "amnezia-dns"
  | sftp => "amnezia-sftp"
  | socks5Proxy => "amnezia-socks5proxy"

def containerTypeToString : DockerContainer → String
  | none => "none"
  | awg => "awg"
  | awg2 => "awg"
  | wireGuard => "wireguard"
  | xray => "xray"
  | ssXray => "ssxray"
  | torWebSite => "torwebsite"
  | dns => "dns"
  | sftp => "sftp"
  | socks5Proxy => "socks5proxy"

def containerFromString (container : String) : DockerContainer :=
  (all.find? fun c => container = containerToString c).getD none

end DockerContainer

inductive Proto where
  | any
  | shadowSocks
  | wireGuard
  | awg
  | l2tp
  | xray
  | ssXray
  | torWebSite
  | dns
  | sftp
  | socks5Proxy
deriving DecidableEq

inductive ServiceType where
  | none
  | vpn
  | other
deriving DecidableEq

def Proto.protoToString : Proto → String
  | .any => ""
  | .shadowSocks => "shadowsocks"
  | .wireGuard => "wireguard"
  | .awg => "awg"
  | .l2tp => "l2tp"
  | .xray => "xray"
  | .ssXray => "ssxray"
  | .torWebSite => "torwebsite"
  | .dns => "dns"
  | .sftp => "sftp"
  | .socks5Proxy => "socks5proxy"

def Proto.protocolService : Proto → ServiceType
  | .any => .none
  | .ssXray => .none
  | .shadowSocks => .vpn
  | .wireGuard => .vpn
  | .awg => .vpn
  | .xray => .vpn
  | _ => .other

namespace DockerContainer

def defaultProtocol : DockerContainer → Proto
  | none => .any
  | wireGuard => .wireGuard
  | awg2 => .awg
  | awg => .awg
  | xray => .xray
  | ssXray => .ssXray
  | torWebSite => .torWebSite
  | dns => .dns
  | sftp => .sftp
  | socks5Proxy => .socks5Proxy

def containerTypeToProtocolString (c : DockerContainer) : String :=
  if c = none then "none" else c.defaultProtocol.protoToString

def protocolsForContainer (c : DockerContainer) : List Proto :=
  if c = none then [] else [c.defaultProtocol]

def containerService (c : DockerContainer) : ServiceType := c.defaultProtocol.protocolService

end DockerContainer

open DockerContainer (containerToString containerFromString)

/-! ## Usable configs -/

/-- The object holds the config of a protocol. -/
def hasProtocolConfig (o : QJsonObject) : Bool :=
  o.textAt "last_config" ≠ "" || o.textAt "config" ≠ ""

/-- The container holds the config of a protocol, in a nested object or in itself. -/
def containerHasConfig (container : QJsonObject) : Bool :=
  (container.members.any fun e => hasProtocolConfig (Json.toObject (some e.2))) ||
    hasProtocolConfig container

/-- In `serverHasUsableConfig`, for the name of the default container and the containers. -/
def containersUsable (defaultContainer : String) (containers : List Json) : Bool :=
  let defaultContainerName := containerToString (containerFromString defaultContainer)
  match containers.find? fun v =>
      (Json.toObject (some v)).textAt "container" = defaultContainerName with
  | none => false
  | some v => containerHasConfig (Json.toObject (some v))

variable (server : QJsonObject)

/-- `ServersModel::serverHasUsableConfig`, for the config of the server. -/
def serverHasUsableConfig : Bool :=
  containersUsable (server.textAt "defaultContainer") (server.arrayAt "containers")

/-! ## Subscriptions -/

/-- `apiDefs::ConfigSource::AmneziaGateway`. -/
def amneziaGateway : ℤ := 2

def apiConfig : QJsonObject := server.objectAt "api_config"

def configVersion : ℤ := Json.intValue (server.value "config_version")

def connectionUuid : String := (apiConfig server).textAt "connection_uuid"

def nodeId : String := (apiConfig server).textAt "node_id"

/-- The key of a connection and a node, by which feeds and servers are compared. -/
def nodeKey (connectionUuid nodeId : String) : String := connectionUuid ++ "|" ++ nodeId

def serverKey : String := nodeKey (connectionUuid server) (nodeId server)

/-- In `isFrknSubscriptionServer`, for the version, the API config and the `auth_data` of a server.
-/
def isFrknSubscription (configVersion : ℤ) (apiConfig authData : QJsonObject) : Bool :=
  if configVersion ≠ 0 ∧ configVersion ≠ amneziaGateway then false
  else if apiConfig.textAt "connection_uuid" = "" then false
  else if Json.boolValue (apiConfig.value "shared") then false
  else if (apiConfig.objectAt "auth_data").contains "share_token" then false
  else if authData.contains "share_token" then false
  else true

def isFrknSubscriptionServer : Bool :=
  isFrknSubscription (configVersion server) (apiConfig server) (server.objectAt "auth_data")

/-- The `auth_data` of an API config, or else of its server. -/
def chooseAuthData (apiConfig authData : QJsonObject) : QJsonObject :=
  if (apiConfig.objectAt "auth_data").isEmpty then authData else apiConfig.objectAt "auth_data"

/-- The `auth_data` of the API config, or else of the server. -/
def authData : QJsonObject := chooseAuthData (apiConfig server) (server.objectAt "auth_data")

/-- The id in some `auth_data`: `api_key`, or else `id`. -/
def authId (authData : QJsonObject) : String :=
  if authData.textAt "api_key" = "" then authData.textAt "id" else authData.textAt "api_key"

def subscriptionIdForServer : String :=
  if isFrknSubscriptionServer server then authId (authData server) else ""

/-- The `auth_data` with an `api_key`, which is the `id` if there is none. -/
def withApiKey (authData : QJsonObject) : QJsonObject :=
  if !authData.contains "api_key" && authData.contains "id" then
    authData.insert "api_key" (authData.value "id")
  else authData

/-- The triple by which a fetched config and a server are matched. -/
structure ServerId where
  subscriptionId : String
  connectionUuid : String
  nodeId : String
deriving DecidableEq

/-- The triple of a server. -/
def serverId : ServerId := ⟨subscriptionIdForServer server, connectionUuid server, nodeId server⟩

/-- A server of a subscription, with a connection and a node. -/
def subscriptionServer (subscriptionId connectionUuid nodeId : String)
    (members : List (String × Json)) : QJsonObject :=
  ofMembers (("config_version", .double 2) ::
    ("api_config", .object [("auth_data", .object [("id", .string subscriptionId)]),
      ("connection_uuid", .string connectionUuid), ("node_id", .string nodeId)]) :: members)

variable {server server' : QJsonObject}

/-- What the subscription of a server depends on. -/
theorem subscriptionIdForServer_congr (hversion : configVersion server = configVersion server')
    (hapi : server.value "api_config" = server'.value "api_config")
    (hauth : server.value "auth_data" = server'.value "auth_data") :
    subscriptionIdForServer server = subscriptionIdForServer server' := by
  have hfrkn : isFrknSubscriptionServer server = isFrknSubscriptionServer server' := by
    simp only [isFrknSubscriptionServer, apiConfig, objectAt, hversion, hapi, hauth]
  have hdata : authData server = authData server' := by
    simp only [authData, apiConfig, objectAt, hapi, hauth]
  rw [subscriptionIdForServer, hfrkn, hdata]
  rfl

theorem serverKey_congr (h : serverId server = serverId server') :
    serverKey server = serverKey server' := by
  rw [serverId, serverId, ServerId.mk.injEq] at h
  rw [serverKey, serverKey, h.2.1, h.2.2]

/-- A server with a subscription is one of the gateway, with a connection. -/
theorem isFrkn_of_subscriptionId (h : subscriptionIdForServer server ≠ "") :
    isFrknSubscriptionServer server = true := by
  by_contra hfrkn
  exact h (if_neg hfrkn)

theorem connectionUuid_ne_of_isFrkn (h : isFrknSubscriptionServer server = true) :
    connectionUuid server ≠ "" := by
  intro huuid
  rw [isFrknSubscriptionServer, isFrknSubscription] at h
  split_ifs at h with _ hne
  exact hne huuid

/-- Without a connection there is no subscription. -/
theorem subscriptionId_of_uuid (h : connectionUuid server = "") :
    subscriptionIdForServer server = "" := by
  by_contra hne
  exact connectionUuid_ne_of_isFrkn (isFrkn_of_subscriptionId hne) h

variable (authData : QJsonObject)

/-- An added `api_key` does not change the id. -/
theorem authId_withApiKey : authId (withApiKey authData) = authId authData := by
  rw [withApiKey]
  split_ifs with h
  · rw [Bool.and_eq_true, Bool.not_eq_true', contains, Option.isSome_eq_false_iff,
      Option.isNone_iff_eq_none] at h
    simp [authId, textAt, value_insert, h.1, Json.text, Json.str?]
  · rfl

theorem contains_shareToken_withApiKey :
    (withApiKey authData).contains "share_token" = authData.contains "share_token" := by
  rw [withApiKey]
  split_ifs
  · simp [contains, value_insert]
  · rfl

end Dopamine.Client
