import Dopamine.Client.ServerConfig

/-!
# The list of servers

`ServersModel` of `client/ui/models/servers_model.cpp` and the part of `Settings` that stores it
(`client/settings.h`). The stored list is read back as it was written.

A row has a tag, which tells servers apart: a new server gets a new tag, and it keeps it while its
config is edited and while rows before it are removed. Tags are not in the source and nothing that
is computed depends on them.
-/

namespace Dopamine.Client

open QJsonObject List

/-- A server of the list. -/
structure Row where
  tag : ℕ
  config : QJsonObject
deriving DecidableEq

/-- `Servers/serversList` and `Servers/defaultServerIndex`. -/
structure Settings where
  serversArray : List Row
  defaultServerIndex : ℤ

namespace Settings

def addServer (s : Settings) (server : Row) : Settings :=
  { s with serversArray := s.serversArray ++ [server] }

def removeServer (s : Settings) (index : ℕ) : Settings :=
  { s with serversArray := s.serversArray.eraseIdx index }

def editServer (s : Settings) (index : ℕ) (server : QJsonObject) : Settings :=
  { s with serversArray := s.serversArray.modify index fun r => { r with config := server } }

def setDefaultServer (s : Settings) (index : ℤ) : Settings := { s with defaultServerIndex := index }

end Settings

/-- The model: the list in memory is the stored one, and tags are not used twice. -/
structure ServersModel where
  settings : Settings
  servers : List Row
  defaultServerIndex : ℤ
  processedServerIndex : ℤ
  nextTag : ℕ
  servers_eq : servers = settings.serversArray
  default_eq : defaultServerIndex = settings.defaultServerIndex
  tags_lt : ∀ r ∈ servers, r.tag < nextTag
  tags_nodup : (servers.map Row.tag).Nodup

namespace ServersModel

/-- `resetModel`, for the stored servers and the stored default index. -/
def resetModel (configs : List QJsonObject) (defaultIndex : ℤ) : ServersModel where
  settings := ⟨configs.zipIdx.map fun p => ⟨p.2, p.1⟩, defaultIndex⟩
  servers := configs.zipIdx.map fun p => ⟨p.2, p.1⟩
  defaultServerIndex := defaultIndex
  processedServerIndex := defaultIndex
  nextTag := configs.length
  servers_eq := rfl
  default_eq := rfl
  tags_lt r hr := by
    obtain ⟨p, hp, rfl⟩ := mem_map.mp hr
    exact (mem_zipIdx' hp).1
  tags_nodup := by
    rw [map_map]
    show (configs.zipIdx.map Prod.snd).Nodup
    rw [zipIdx_map_snd]
    exact nodup_range'

variable (m : ServersModel)

def setDefaultServerIndex (index : ℤ) : ServersModel :=
  { m with
    settings := m.settings.setDefaultServer index
    defaultServerIndex := index
    servers_eq := m.servers_eq
    default_eq := rfl }

/-- `getServerConfig`: empty for an index that is not in the list. -/
def getServerConfig (index : ℕ) : QJsonObject :=
  match m.servers[index]? with
  | some r => r.config
  | none => empty

def addServer (server : QJsonObject) : ServersModel where
  settings := m.settings.addServer ⟨m.nextTag, server⟩
  servers := m.servers ++ [⟨m.nextTag, server⟩]
  defaultServerIndex := m.defaultServerIndex
  processedServerIndex := m.processedServerIndex
  nextTag := m.nextTag + 1
  servers_eq := congrArg (· ++ _) m.servers_eq
  default_eq := m.default_eq
  tags_lt r hr := by
    rcases mem_append.mp hr with hr | hr
    · exact Nat.lt_succ_of_lt (m.tags_lt r hr)
    · exact mem_singleton.mp hr ▸ Nat.lt_succ_self _
  tags_nodup := by
    rw [map_append, nodup_append]
    refine ⟨m.tags_nodup, nodup_singleton _, fun t ht t' ht' heq => ?_⟩
    obtain ⟨r, hr, rfl⟩ := mem_map.mp ht
    have := m.tags_lt r hr
    rw [heq, mem_singleton.mp ht'] at this
    exact Nat.lt_irrefl _ this

theorem mem_modify_config {l : List Row} {i : ℕ} {server : QJsonObject} {r : Row}
    (hr : r ∈ l.modify i fun r => { r with config := server }) : ∃ r' ∈ l, r'.tag = r.tag := by
  obtain ⟨j, hj⟩ := mem_iff_getElem?.mp hr
  rw [getElem?_modify] at hj
  obtain ⟨r', hr', rfl⟩ := Option.map_eq_some_iff.mp hj
  refine ⟨r', mem_of_getElem? hr', ?_⟩
  split_ifs <;> rfl

theorem map_tag_modify (l : List Row) (i : ℕ) (server : QJsonObject) :
    (l.modify i fun r => { r with config := server }).map Row.tag = l.map Row.tag := by
  refine ext_getElem? fun j => ?_
  rw [getElem?_map, getElem?_map, getElem?_modify, Option.map_eq_map,
    Option.map_map]
  refine congrArg (fun f => Option.map f l[j]?) (funext fun r => ?_)
  split_ifs <;> rfl

/-- `editServer`, for an index in the list. -/
def edit (index : Fin m.servers.length) (server : QJsonObject) : ServersModel where
  settings := m.settings.editServer index server
  servers := m.servers.modify index fun r => { r with config := server }
  defaultServerIndex := m.defaultServerIndex
  processedServerIndex := m.processedServerIndex
  nextTag := m.nextTag
  servers_eq := congrArg (modify · _ _) m.servers_eq
  default_eq := m.default_eq
  tags_lt r hr := by
    obtain ⟨r', hr', htag⟩ := mem_modify_config hr
    exact htag ▸ m.tags_lt r' hr'
  tags_nodup := (map_tag_modify ..).symm ▸ m.tags_nodup

/-- `editServer`. `QJsonArray::replace` outside of the list is undefined. -/
def editServer (server : QJsonObject) (serverIndex : ℕ) : Option ServersModel :=
  if h : serverIndex < m.servers.length then some (m.edit ⟨serverIndex, h⟩ server) else none

/-- The default index after row `serverIndex` was removed and `count` rows are left. -/
def shiftedDefault (default : ℤ) (serverIndex count : ℕ) : ℤ :=
  if count = 0 then -1
  else if default = serverIndex then 0
  else if default > serverIndex then default - 1
  else default

def removeServer (serverIndex : ℕ) : ServersModel where
  settings := (m.settings.removeServer serverIndex).setDefaultServer
    (shiftedDefault m.defaultServerIndex serverIndex (m.servers.eraseIdx serverIndex).length)
  servers := m.servers.eraseIdx serverIndex
  defaultServerIndex :=
    shiftedDefault m.defaultServerIndex serverIndex (m.servers.eraseIdx serverIndex).length
  processedServerIndex :=
    shiftedDefault m.defaultServerIndex serverIndex (m.servers.eraseIdx serverIndex).length
  nextTag := m.nextTag
  servers_eq := congrArg (eraseIdx · serverIndex) m.servers_eq
  default_eq := rfl
  tags_lt r hr := m.tags_lt r (mem_of_mem_eraseIdx hr)
  tags_nodup := m.tags_nodup.sublist ((eraseIdx_sublist ..).map _)

/-- The config of a server that the user gave a name. -/
def renamed (server : QJsonObject) (name : String) : QJsonObject :=
  let server :=
    if configVersion server ≠ 0 then server.insertText "name" name
    else server.insertText "description" name
  server.insert "nameOverriddenByUser" (some (.bool true))

/-- `setData` for `NameRole`. -/
def setName (index : ℕ) (name : String) : ServersModel :=
  if h : index < m.servers.length then
    m.edit ⟨index, h⟩ (renamed m.servers[index].config name)
  else m

def addServers (servers : List QJsonObject) : ServersModel := servers.foldl addServer m

def removeAllServers : ServersModel where
  settings := ⟨[], -1⟩
  servers := []
  defaultServerIndex := -1
  processedServerIndex := m.processedServerIndex
  nextTag := m.nextTag
  servers_eq := rfl
  default_eq := rfl
  tags_lt _ hr := nomatch hr
  tags_nodup := nodup_nil

def setProcessedServerIndex (index : ℤ) : ServersModel := { m with processedServerIndex := index }

/-- `removeServer()`, which removes the processed server. For an index before the list nothing is
removed, but the default index is shifted. -/
def removeProcessedServer : ServersModel :=
  if 0 ≤ m.processedServerIndex then m.removeServer m.processedServerIndex.toNat
  else
    let index :=
      if m.servers = [] then -1
      else if m.defaultServerIndex = m.processedServerIndex then 0
      else if m.defaultServerIndex > m.processedServerIndex then m.defaultServerIndex - 1
      else m.defaultServerIndex
    (m.setDefaultServerIndex index).setProcessedServerIndex index

end ServersModel

end Dopamine.Client
