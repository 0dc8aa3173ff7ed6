import Dopamine.Client.ServerConfig
import Mathlib.Data.List.Infix

/-!
# Configs of the gateway

`fillServerConfig` of `client/ui/controllers/api/apiConfigsController.cpp`, which reads the response
of the gateway to a config request. For AmneziaWG it puts the key of the client into the config and
makes the text of a configuration file if there is none.

JSON text, base64, compression and keys come from libraries; `Toolkit` has what the code takes from
them. A document that was written by the code itself is read back as it was written.
-/

namespace Dopamine.Client

open QJsonObject
open DockerContainer (containerFromString containerTypeToString)

/-- `ErrorCode`, with the errors of requests as numbers. -/
inductive ErrorCode where
  | apiConfigEmptyError
  | apiConfigDownloadError
  | request (code : ℤ)
deriving DecidableEq

/-- The outcome of a request: an error or the body of the response. -/
abbrev Response := Except ErrorCode String

structure ProtocolData where
  wireGuardClientPrivKey : String
  wireGuardClientPubKey : String
  xrayUuid : String

/-- The languages that are told apart when a pool name is chosen. -/
inductive Language where
  | russian
  | ukrainian
  | other
deriving DecidableEq

/-- What the modelled code takes from Qt, zlib, OpenSSL and the settings.

* `fromJson` is `QJsonDocument::fromJson(…).object()`, empty for text that is no object, and `toJson`
  is the compact text of an object.
* `gzipDecompress` is what the function of that name returns, for an answer for which it returns
  (see `GzipDecompress`).
* `toCaseFolded` gives equal texts for texts that are equal up to case.
* `genPublicKeyFromPrivate` is the function of `WireguardConfigurator`.
* `defaultMtu` is `protocols::awg::defaultMtu` of the platform.
* The last fields are sent with every request. -/
structure Toolkit where
  fromJson : String → QJsonObject
  toJson : QJsonObject → String
  fromBase64 : String → List UInt8
  fromBase64Url : String → List UInt8
  qUncompress : List UInt8 → List UInt8
  gzipDecompress : List UInt8 → List UInt8
  fromUtf8 : List UInt8 → String
  toUpper : String → String
  toCaseFolded : String → String
  genPublicKeyFromPrivate : String → String
  defaultMtu : String
  language : Language
  productType : String
  appVersion : String
  appLanguage : String
  installationUuid : String

/-- A toolkit that stores bytes as they are, with a table of documents. -/
def Toolkit.plain (fromJson : String → QJsonObject) : Toolkit where
  fromJson := fromJson
  toJson _ := ""
  fromBase64 s := s.toList.map fun c => UInt8.ofNat c.toNat
  fromBase64Url s := s.toList.map fun c => UInt8.ofNat c.toNat
  qUncompress _ := []
  gzipDecompress _ := []
  fromUtf8 l := String.ofList (l.map fun b => Char.ofNat b.toNat)
  toUpper s := s
  toCaseFolded s := s
  genPublicKeyFromPrivate s := s
  defaultMtu := "1280"
  language := .other
  productType := "linux"
  appVersion := "1"
  appLanguage := "en"
  installationUuid := "i"

/-! ## Text -/

/-- `QString::replace`: `skip` characters belong to an occurrence that was replaced. -/
def replaceFrom (before after : List Char) : ℕ → List Char → List Char
  | _, [] => []
  | skip + 1, _ :: l => replaceFrom before after skip l
  | 0, c :: l =>
      if before <+: c :: l then after ++ replaceFrom before after (before.length - 1) l
      else c :: replaceFrom before after 0 l

/-- `QString::replace`. -/
def replaceText (before after s : String) : String :=
  String.ofList (replaceFrom before.toList after.toList 0 s.toList)

/-- The white space of a regular expression. -/
def isRegexSpace (c : Char) : Bool := c = ' ' || (9 ≤ c.toNat && c.toNat ≤ 13)

/-- A match of `PrivateKey\s*=\s*(\S+)` at the start of a text: what is captured. -/
def privateKeyAt (l : List Char) : Option (List Char) :=
  if "PrivateKey".toList <+: l then
    match (l.drop 10).dropWhile isRegexSpace with
    | '=' :: rest =>
        let key := (rest.dropWhile isRegexSpace).takeWhile fun c => !isRegexSpace c
        if key = [] then none else some key
    | _ => none
  else none

/-- The text holds the key of a configuration file, and not a placeholder for it. -/
def hasValidPrivateKey (ini : String) : Bool :=
  match ini.toList.tails.findSome? privateKeyAt with
  | some key => key.head? ≠ some '$'
  | none => false

/-- `toString(default)` of a value. -/
def textOr (o : QJsonObject) (key default : String) : String :=
  (Json.str? (o.value key)).getD default

namespace Toolkit

variable (kit : Toolkit)

/-- `compare(…, Qt::CaseInsensitive) == 0`. -/
def sameUpToCase (s t : String) : Bool := kit.toCaseFolded s = kit.toCaseFolded t

def canonicalServiceProtocol (protocol : String) : String :=
  if kit.sameUpToCase protocol "awg-mobile" || kit.sameUpToCase protocol "AmneziaWgMobile" then "awg"
  else protocol

def serviceProtocolDisplayName (protocol : String) : String :=
  if kit.sameUpToCase protocol "awg-mobile" || kit.sameUpToCase protocol "AmneziaWgMobile" then
    "AmneziaWgMobile"
  else protocol

/-! ## The config in a response -/

/-- In `fillServerConfig`, the text of the config. -/
def decodeConfig (body : String) : Except ErrorCode String :=
  let data := replaceText "vpn://" "" ((kit.fromJson body).textAt "config")
  let ba := kit.fromBase64 data
  let ba :=
    if ba = [] ∨ (ba.head? ≠ some 0x7b ∧ ba.take 2 ≠ [0x1f, 0x8b]) then kit.fromBase64Url data
    else ba
  if ba = [] then .error .apiConfigEmptyError
  else
    let uncompressed := kit.qUncompress ba
    let uncompressed := if uncompressed = [] then kit.gzipDecompress ba else uncompressed
    .ok (kit.fromUtf8 (if uncompressed ≠ [] then uncompressed else ba))

/-! ## AmneziaWG -/

/-- What stands in a config for the private key of the client. -/
def keyPlaceholder : String := "$WIREGUARD_CLIENT_PRIVATE_KEY"

/-- The private key of the client: the one in the config if there is one. -/
def effectiveClientPrivKey (data : ProtocolData) (configStr : String) : String :=
  match (kit.fromJson configStr).arrayAt "containers" with
  | [] => data.wireGuardClientPrivKey
  | container :: _ =>
      let container := Json.toObject (some container)
      let name := containerTypeToString (containerFromString (container.textAt "container"))
      let key := (kit.fromJson ((container.objectAt name).textAt "last_config")).textAt
        "client_priv_key"
      if key ≠ "" ∧ key ≠ keyPlaceholder then key else data.wireGuardClientPrivKey

/-- The keys that the protocol config takes from `last_config`, before and after
`persistent_keep_alive`. -/
def syncedKeys : List String × List String :=
  (["client_priv_key", "client_pub_key", "server_pub_key", "psk_key", "client_ip", "mtu", "port",
      "hostName"],
    ["Jc", "Jmin", "Jmax", "S1", "S2", "H1", "H2", "H3", "H4", "S3", "S4", "I1", "I2", "I3", "I4",
      "I5"])

/-- The protocol config with the values of `last_config`. -/
def syncProtocolConfig (client server : QJsonObject) : QJsonObject :=
  let copy (o : QJsonObject) (key : String) : QJsonObject := o.insert key (client.value key)
  let server := syncedKeys.1.foldl copy server
  let server := server.insertText "persistent_keep_alive" (textOr client "persistent_keep_alive" "25")
  syncedKeys.2.foldl copy server

/-- The lines of a configuration file for AmneziaWG. -/
def awgIni (newServerConfig client : QJsonObject) : List String :=
  let hostName := newServerConfig.textAt "hostName"
  let port := textOr client "port" "55424"
  let dns1 := newServerConfig.textAt "dns1"
  let line (name key : String) : String := name ++ " = " ++ client.textAt key
  ["[Interface]", line "PrivateKey" "client_priv_key", line "Address" "client_ip",
    "MTU = " ++ textOr client "mtu" kit.defaultMtu] ++
  (if dns1 = "" then [] else ["DNS = " ++ dns1]) ++
  (["Jc", "Jmin", "Jmax", "S1", "S2", "S3", "S4", "H1", "H2", "H3", "H4", "I1", "I2", "I3", "I4",
      "I5"].map fun key => line key key) ++
  ((["HeaderProtectionKey", "ContentPaddingAddition", "RekeyAfterTime", "RekeyTimeout",
      "RejectAfterTime", "KeepaliveTimeout", "MaxHandshakeAttempts"].filter fun key =>
        client.textAt key ≠ "").map fun key => line key key) ++
  ["", "[Peer]", line "PublicKey" "server_pub_key"] ++
  (if client.textAt "psk_key" = "" then [] else [line "PresharedKey" "psk_key"]) ++
  ["Endpoint = " ++ hostName ++ ":" ++ port, "AllowedIPs = 0.0.0.0/0",
    "PersistentKeepalive = " ++ textOr client "persistent_keep_alive" "25"]

/-- The first container of a config for AmneziaWG. -/
def awgContainer (key : String) (newServerConfig container : QJsonObject) : QJsonObject :=
  let containerName := container.textAt "container"
  let containerType := containerFromString containerName
  let server := container.objectAt containerName
  let client := kit.fromJson (server.textAt "last_config")
  let apiKey := client.textAt "client_priv_key"
  let missing : Bool := apiKey = keyPlaceholder || apiKey = ""
  -- the key is kept in `last_config`, so that later connections use it again
  let client :=
    if missing then
      (client.insertText "client_priv_key" key).insertText "client_pub_key"
        (kit.genPublicKeyFromPrivate key)
    else client
  let server := if missing then server.insertText "last_config" (kit.toJson client) else server
  let server := syncProtocolConfig client server
  let ini := server.textAt "config"
  let server :=
    if "[Interface]".toList <:+: ini.toList ∧ hasValidPrivateKey ini then server
    else server.insertText "config" ("\n".intercalate (kit.awgIni newServerConfig client))
  let client := client.insertText "config" (server.textAt "config")
  let server := server.insertText "last_config" (kit.toJson client)
  let container := container.insertObject containerName server
  if containerType = .awg ∨ containerType = .awg2 then container.insertObject "awg" server
  else container

/-- In `fillServerConfig`, the config of an AmneziaWG server. -/
def awgServerConfig (data : ProtocolData) (configStr : String) : Except ErrorCode QJsonObject :=
  let key := kit.effectiveClientPrivKey data configStr
  let newServerConfig := kit.fromJson (replaceText keyPlaceholder key configStr)
  match newServerConfig.arrayAt "containers" with
  | [] => .error .apiConfigEmptyError
  | container :: rest =>
      let container := kit.awgContainer key newServerConfig (Json.toObject (some container))
      .ok (newServerConfig.insert "containers" (some (.array (container.toValue :: rest))))

/-! ## Filling a server config -/

/-- The config of a server, from the text in the response. -/
def newServerConfig (protocol : String) (data : ProtocolData) (configStr : String) :
    Except ErrorCode QJsonObject :=
  if kit.canonicalServiceProtocol protocol = "awg" then kit.awgServerConfig data configStr
  else .ok (kit.fromJson configStr)

end Toolkit

/-- Insert a value if the key is not there. -/
def insertMissing (o : QJsonObject) (key : String) (v : Option Json) : QJsonObject :=
  if o.contains key then o else o.insert key v

/-- In `fillServerConfig`, the version, and the texts that a config of the gateway has only if there
are none yet. -/
def fillVersion (new server : QJsonObject) : QJsonObject :=
  if configVersion new = amneziaGateway then
    let server := server.insert "config_version" (new.value "config_version")
    let server := insertMissing server "name" (new.value "name")
    insertMissing server "description" (new.value "description")
  else insertMissing server "config_version" (some (.double 2))

/-- In `fillServerConfig`, the API config. -/
def fillApiConfig (response new server : QJsonObject) : QJsonObject :=
  let api := (apiConfig server).merge (apiConfig new)
  let api :=
    if server.contains "auth_data" then api.insert "auth_data" (server.value "auth_data") else api
  if configVersion new = amneziaGateway then
    (api.insert "supported_protocols"
      (some (.array (response.arrayAt "supported_protocols")))).insertObject "service_info"
        (response.objectAt "service_info")
  else api

/-- In `fillServerConfig`, what the response and its config `new` write to a server. -/
def fillFrom (response new server : QJsonObject) : QJsonObject :=
  let server := server.insert "dns1" (new.value "dns1")
  let server := server.insert "dns2" (new.value "dns2")
  let server := server.insert "containers" (new.value "containers")
  let server := server.insert "hostName" (new.value "hostName")
  let nodeIps := response.arrayAt "node_ips"
  let server := server.insert "node_ips" (if nodeIps = [] then none else some (.array nodeIps))
  let server := fillVersion new server
  let server := server.insertText "defaultContainer" (new.textAt "defaultContainer")
  server.insertObject "api_config" (fillApiConfig response new server)

def Toolkit.fillServerConfig (kit : Toolkit) (protocol : String) (data : ProtocolData)
    (body : String) (serverConfig : QJsonObject) : Except ErrorCode QJsonObject := do
  let configStr ← kit.decodeConfig body
  let new ← kit.newServerConfig protocol data configStr
  return fillFrom (kit.fromJson body) new serverConfig

/-! ## What is filled in -/

theorem value_insertMissing (o : QJsonObject) (key : String) (v : Option Json) (key' : String) :
    (insertMissing o key v).value key' =
      if key' = key then (o.value key).or v else o.value key' := by
  rw [insertMissing, contains]
  split_ifs with hcontains hkey hkey
  · obtain ⟨w, hw⟩ := Option.isSome_iff_exists.mp hcontains
    rw [hkey, hw]
    rfl
  · rfl
  · rw [hkey, value_insert, if_pos rfl, Option.not_isSome_iff_eq_none.mp hcontains]
    rfl
  · rw [value_insert, if_neg hkey]

theorem value_fillVersion_of_ne {new server : QJsonObject} {key : String}
    (hversion : key ≠ "config_version") (hname : key ≠ "name") (hdescription : key ≠ "description") :
    (fillVersion new server).value key = server.value key := by
  rw [fillVersion]
  split_ifs <;> simp [value_insert, value_insertMissing, *]

/-- A config that is filled from nothing is one of the gateway. -/
theorem configVersion_fillVersion {new server : QJsonObject}
    (h : server.value "config_version" = none) :
    configVersion (fillVersion new server) = amneziaGateway := by
  rw [fillVersion]
  split_ifs with hnew
  · refine Eq.trans (congrArg Json.intValue ?_) hnew
    simp [value_insert, value_insertMissing]
  · rw [configVersion, value_insertMissing, if_pos rfl, h]
    rfl

/-- What is filled in from nothing. -/
structure Filled (response new server : QJsonObject) : Prop where
  hostName : server.value "hostName" = new.value "hostName"
  dns1 : server.value "dns1" = new.value "dns1"
  dns2 : server.value "dns2" = new.value "dns2"
  containers : server.value "containers" = new.value "containers"
  nodeIps : server.value "node_ips" =
    if response.arrayAt "node_ips" = [] then none else some (.array (response.arrayAt "node_ips"))
  version : configVersion server = amneziaGateway
  defaultContainer : server.value "defaultContainer" =
    some (.string (new.textAt "defaultContainer"))
  nameOverridden : server.value "nameOverriddenByUser" = none

attribute [local simp] fillFrom value_insert value_fillVersion_of_ne in
theorem filled (response new : QJsonObject) : Filled response new
    (fillFrom response new empty) where
  hostName := by simp
  dns1 := by simp
  dns2 := by simp
  containers := by simp
  nodeIps := by simp
  version := by
    simp only [fillFrom, configVersion, value_insert, String.reduceEq, if_false]
    exact configVersion_fillVersion (by simp)
  defaultContainer := by simp
  nameOverridden := by simp

end Dopamine.Client
