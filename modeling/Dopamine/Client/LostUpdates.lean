import Dopamine.Client.UsableServers

/-!
# Updates that are lost

An update and a reload take a copy of a server when they begin and write fields of it when they are
done. `Commit` is what was written to a server meanwhile: a name that the user gave, or connection
data of the gateway with the time at which the gateway issued it. Every event of a run has its own
times. `Logs` observes for every operation that is in flight what was committed since it began, and
`KeepsCommits` says that its end loses nothing of that.
-/

namespace Dopamine.Client

open QJsonObject Option ServersModel

/-! ## What is committed -/

/-- The user gave the server this name: it is the one that is shown, and it is marked so. -/
def Shows (server : QJsonObject) (name : String) : Prop :=
  (if configVersion server ≠ 0 then server.textAt "name" else server.textAt "description") = name ∧
    Json.boolValue (server.value "nameOverriddenByUser") = true

instance (server : QJsonObject) (name : String) : Decidable (Shows server name) :=
  inferInstanceAs (Decidable (_ ∧ _))

/-- The keys of a server that the gateway decides. -/
def connectionKeys : List String := ["hostName", "dns1", "dns2", "containers", "node_ips"]

/-- What a server has from the gateway. -/
def connectionData (server : QJsonObject) : List (Option Json) := connectionKeys.map server.value

/-- What was written to the server with a tag. -/
inductive Commit where
  | rename (tag : ℕ) (name : String)
  | config (tag : ℕ) (data : List (Option Json)) (issued : ℕ)

namespace Commit

def tag : Commit → ℕ
  | rename tag _ => tag
  | config tag _ _ => tag

/-- The server has what was committed. -/
def Present : Commit → QJsonObject → Prop
  | rename _ name, server => Shows server name
  | config _ data _, server => connectionData server = data

/-- One of the configs, which have the time at which they were issued, is later. -/
def Superseded : Commit → List (QJsonObject × ℕ) → Prop
  | rename _ _, _ => False
  | config _ _ issued, fetched => ∃ p ∈ fetched, issued < p.2

end Commit

/-- What was committed since the operations in flight began: the updates, in their order, and the
reload. -/
structure Logs where
  updates : List (List Commit)
  reload : List Commit

namespace Controller

/-- An event, with the times at which the responses in it were issued. -/
abbrev TimedEvent := Event × (ℕ → ℕ)

variable (kit : Toolkit) (s : Controller) (e : TimedEvent)

/-- The configs that an operation has fetched for a server when it ends, with the times at which
they were issued. -/
def fetchedFor (r : Row) : List (QJsonObject × ℕ) :=
  match e.1 with
  | .respond k (.ok body) =>
      match s.updates[k]? with
      | some p =>
          match kit.fillServerConfig p.update.serviceProtocol p.update.protocolData body empty with
          | .ok filled => [(filled, e.2 0)]
          | .error _ => []
      | none => []
  | .configs answers =>
      match s.reload with
      | some rl =>
          match rl.opened with
          | some opened =>
              let slots := kit.feedSlots rl.subscriptionId false opened.servers opened.body
              slots.zipIdx.filterMap fun q =>
                if q.1.reused.isNone ∧ q.1.item.key = serverKey r.config then
                  (kit.fetchedConfig (feedAuthData rl.subscriptionId false) q.1.item (answers q.2).1
                    (answers q.2).2).map fun c => (c, e.2 q.2)
                else none
          | none => []
      | none => []
  | _ => []

/-- What an event commits. A config counts as committed if it was fetched, and not if it is the old
one of the server. -/
def commits : List Commit :=
  match e.1 with
  | .rename row name => (s.model.servers[row]?.map fun r => .rename r.tag name).toList
  | _ =>
      s.model.servers.flatMap fun r =>
        match s.written kit e.1 r with
        | some w =>
            ((fetchedFor kit s e r).filter fun p =>
              connectionData p.1 = connectionData w).map fun p =>
                .config r.tag (connectionData w) p.2
        | none => []

/-- The logs after an event: operations that begin have an empty one. -/
def observeCommits (logs : Logs) : Logs :=
  let new := commits kit s e
  let updates := logs.updates.map fun log => log ++ new
  let reload := if s.reload.isNone then [] else logs.reload ++ new
  match e.1 with
  | .prepare .. => ⟨updates ++ [[]], reload⟩
  | .respond k _ => ⟨updates.eraseIdx k, reload⟩
  | _ => ⟨updates, reload⟩

/-- The log of the operation that ends with an event. -/
def ownLog (logs : Logs) : Event → List Commit
  | .respond k _ => (logs.updates[k]?).getD []
  | .services _ => logs.reload
  | .configs _ => logs.reload
  | _ => []

/-- If an operation ends, what was committed to a server since it began is still there, unless the
operation has fetched a later config for the server. -/
def KeepsCommits (p : Controller × Logs) (e : TimedEvent) : Prop :=
  ∀ c ∈ ownLog p.2 e.1, ∀ r ∈ p.1.model.servers, ∀ r' ∈ (p.1.step kit e.1).model.servers,
    r.tag = c.tag → r'.tag = c.tag → c.Present r.config →
      c.Present r'.config ∨ c.Superseded (fetchedFor kit p.1 e r)

end Controller

/-! ## Connection data and names that are written -/

/-- The connection data of a response and the config in it. -/
def responseData (response new : QJsonObject) : List (Option Json) :=
  [new.value "hostName", new.value "dns1", new.value "dns2", new.value "containers",
    if response.arrayAt "node_ips" = [] then none else some (.array (response.arrayAt "node_ips"))]

theorem connectionData_congr {o o' : QJsonObject}
    (h : ∀ key ∈ connectionKeys, o.value key = o'.value key) :
    connectionData o = connectionData o' :=
  List.map_congr_left h

variable {update : GatewayConfigUpdate} {response filled : QJsonObject}

theorem connectionData_newServerConfig {new : QJsonObject} (h : Filled response new filled) :
    connectionData (update.newServerConfig response filled) = responseData response new := by
  have hother : ∀ key ∈ connectionKeys, key ∉ ["auth_data", "api_config", "crc", "name",
      "nameOverriddenByUser", "description", "displayInfo"] := by decide
  rw [connectionData_congr fun key hkey => value_newServerConfig_of_ne (hother key hkey),
    responseData, ← h.hostName, ← h.dns1, ← h.dns2, ← h.containers, ← h.nodeIps]
  rfl

theorem connectionData_updatedServer (config existing : QJsonObject) :
    connectionData (updatedServer config existing) = connectionData config := by
  have hcopied : ∀ key ∈ connectionKeys, key ∈ copiedKeys := by decide
  exact connectionData_congr fun key hkey => value_updatedServer_copied (hcopied key hkey)

/-- An update leaves a name that the user gave if the copy of the server had it already. -/
theorem shows_newServerConfig {new : QJsonObject} (h : Filled response new filled)
    (name : String) :
    Shows (update.newServerConfig response filled) name ↔
      update.serverConfig.textAt "name" = name ∧
        Json.boolValue (update.serverConfig.value "nameOverriddenByUser") = true := by
  have hversion : configVersion (update.newServerConfig response filled) ≠ 0 := by
    rw [configVersion, value_newServerConfig_of_ne (by decide)]
    exact h.version.trans_ne (by decide)
  have hname : (update.newServerConfig response filled).textAt "name" =
      update.serverConfig.textAt "name" := by
    refine textAt_congr ?_
    simp only [GatewayConfigUpdate.newServerConfig, value_ite, value_insert, String.reduceEq,
      if_true, if_false, ite_self]
  have hflag : Json.boolValue ((update.newServerConfig response filled).value
      "nameOverriddenByUser") = Json.boolValue (update.serverConfig.value "nameOverriddenByUser") := by
    simp only [GatewayConfigUpdate.newServerConfig, value_ite, value_insert, String.reduceEq,
      if_true, if_false, ite_self, h.nameOverridden]
    split_ifs with hflag
    · exact hflag.symm
    · exact (eq_false_of_ne_true hflag).symm
  rw [Shows, if_pos hversion, hname, hflag]

/-- A config of a feed leaves a name that the user gave, unless the name is the description. -/
theorem shows_updatedServer {config existing : QJsonObject} (h : Complete config) {name : String}
    (hshows : Shows existing name) : Shows (updatedServer config existing) name ↔
      configVersion existing ≠ 0 ∨ config.textAt "description" = name := by
  rw [Shows, configVersion_updatedServer, nameOverridden_updatedServer, and_iff_left hshows.2]
  by_cases hversion : configVersion existing = 0
  · have hdescription : (updatedServer config existing).textAt "description" =
        config.textAt "description" := by
      rw [textAt, value_updatedServer, if_neg (by decide), if_neg (by decide), if_neg (by decide),
        if_pos ⟨rfl, h.description.1⟩, text_string]
    rw [if_neg (not_not.mpr hversion), hdescription]
    exact (or_iff_right (not_not.mpr hversion)).symm
  · have hname : (updatedServer config existing).textAt "name" = existing.textAt "name" := by
      refine textAt_congr ?_
      rw [value_updatedServer, if_neg (by decide), if_neg (by decide), if_neg (by decide),
        if_neg (by simp), if_neg (by simp [hshows.2])]
    rw [if_pos hversion, hname]
    refine iff_of_true ?_ (.inl hversion)
    have := hshows.1
    rwa [if_pos hversion] at this

namespace Controller

variable {s : Controller} {kit : Toolkit}

/-! ## Steps -/

/-- The response to an update agrees with a commit: the copy of the server had the name already, or
the response has the connection data. -/
def ResponseAgrees (update : GatewayConfigUpdate) (response new : QJsonObject) : Commit → Prop
  | .rename _ name => update.serverConfig.textAt "name" = name ∧
      Json.boolValue (update.serverConfig.value "nameOverriddenByUser") = true
  | .config _ data _ => responseData response new = data

/-- A config of a feed agrees with a commit to a server: the name is not the description, or it is
the one of the config, or the config has the connection data. -/
def FeedAgrees (config server : QJsonObject) : Commit → Prop
  | .rename _ name => configVersion server ≠ 0 ∨ config.textAt "description" = name
  | .config _ data _ => connectionData config = data

/-- What the end of an operation writes to a server agrees with what was committed to it since the
operation began, or it has fetched a later config. -/
def AgreesWithCommits (kit : Toolkit) (p : Controller × Logs) (e : TimedEvent) : Prop :=
  ∀ c ∈ ownLog p.2 e.1, ∀ r ∈ p.1.model.servers, r.tag = c.tag → c.Present r.config →
    ¬c.Superseded (fetchedFor kit p.1 e r) →
    (∀ k body u new, e.1 = .respond k (.ok body) → p.1.updates[k]? = some u →
      p.1.model.servers[u.update.serverIndex]? = some r → u.update.Writes kit body new →
      ResponseAgrees u.update (kit.fromJson body) new c) ∧
    ∀ rl feed config, p.1.delivered kit e.1 = some (rl, feed) → feed.success = true →
      p.1.model.firstWithId (serverId r.config) = some r →
      installScheme.lastOf (serverId r.config) (kit.applyDisplayIndexAndSort feed.configs) =
        some config →
      FeedAgrees config r.config c

theorem keepsCommits_iff_written (p : Controller × Logs) (e : TimedEvent) :
    KeepsCommits kit p e ↔
      ∀ c ∈ ownLog p.2 e.1, ∀ r ∈ p.1.model.servers, r.tag = c.tag → c.Present r.config →
        ¬c.Superseded (fetchedFor kit p.1 e r) →
        ∀ w, p.1.written kit e.1 r = some w → c.Present w := by
  constructor
  · intro h c hc r hr htag hpresent hlater w hw
    obtain ⟨r', hr', htag', rfl⟩ := exists_of_written hr hw
    exact (h c hc r hr r' hr' htag (htag'.trans htag) hpresent).resolve_right hlater
  · intro h c hc r hr r' hr' htag htag' hpresent
    refine or_iff_not_imp_right.mpr fun hlater => ?_
    rw [config_step hr hr' (htag'.trans htag.symm)]
    cases hw : p.1.written kit e.1 r with
    | none => exact hpresent
    | some w => exact h c hc r hr htag hpresent hlater w hw

theorem present_newServerConfig {update : GatewayConfigUpdate} {response new filled : QJsonObject}
    (h : Filled response new filled) (c : Commit) :
    c.Present (update.newServerConfig response filled) ↔ ResponseAgrees update response new c := by
  cases c with
  | rename tag name => exact shows_newServerConfig h name
  | config tag data issued =>
    rw [Commit.Present, connectionData_newServerConfig h]
    rfl

theorem present_updatedServer {config existing : QJsonObject} (h : Complete config) {c : Commit}
    (hpresent : c.Present existing) :
    c.Present (updatedServer config existing) ↔ FeedAgrees config existing c := by
  cases c with
  | rename tag name => exact shows_updatedServer h hpresent
  | config tag data issued =>
    rw [Commit.Present, connectionData_updatedServer]
    rfl

theorem keepsCommits_iff_agrees (kit : Toolkit) (p : Controller × Logs) (e : TimedEvent) :
    KeepsCommits kit p e ↔ AgreesWithCommits kit p e := by
  rw [keepsCommits_iff_written]
  refine forall₂_congr fun c hc => forall₂_congr fun r hr => forall₃_congr fun _ hpresent _ => ?_
  constructor
  · refine fun h => ⟨fun k body u new hevent hu hrow hwrites => ?_,
      fun rl feed config hdelivered hsuccess hfirst hlast => ?_⟩
    · refine (present_newServerConfig (filled _ new) c).mp (h _ ?_)
      exact written_eq_some_iff.mpr (.inr (.inl ⟨k, body, u, new, hevent, hu, hrow, hwrites, rfl⟩))
    · have hwritten : p.1.written kit e.1 r = some (updatedServer config r.config) := by
        rw [written_of_delivered hdelivered, if_pos hsuccess]
        exact installed_eq_some.mpr ⟨hfirst, config, hlast, rfl⟩
      exact (present_updatedServer (complete_of_lastOf hdelivered hlast) hpresent).mp (h _ hwritten)
  · rintro ⟨hrespond, hdeliver⟩ w hw
    rcases written_eq_some_iff.mp hw with ⟨row, name, hevent, -, -⟩ |
      ⟨k, body, u, new, hevent, hu, hrow, hwrites, rfl⟩ |
      ⟨rl, feed, hdelivered, hsuccess, hinstalled⟩
    · rw [hevent] at hc
      cases hc
    · refine (present_newServerConfig (filled _ new) c).mpr ?_
      exact hrespond k body u new hevent hu hrow hwrites
    · obtain ⟨hfirst, config, hlast, rfl⟩ := installed_eq_some.mp hinstalled
      refine (present_updatedServer (complete_of_lastOf hdelivered hlast) hpresent).mpr ?_
      exact hdeliver rl feed config hdelivered hsuccess hfirst hlast

/-- In a run, the end of an update or of a feed never loses a name or a newer config that was
committed while the operation was in flight, exactly if what it writes agrees with them. -/
theorem no_lost_commit_iff (kit : Toolkit) (s : Controller) (events : List TimedEvent) :
    let start := (s, (⟨s.updates.map fun _ => [], []⟩ : Logs))
    let watched := Trace.watch (fun s (e : TimedEvent) => s.step kit e.1) (observeCommits kit)
    (∀ before e, before ++ [e] <+: events →
      KeepsCommits kit (Trace.run watched start before) e) ↔
      Trace.Meets watched (AgreesWithCommits kit) start events := by
  intro start watched
  rw [Trace.meets_iff_forall_before]
  exact forall₃_congr fun before e _ => keepsCommits_iff_agrees kit _ e

/-- The user renames a server while an update of it is in flight. -/
theorem rename_lost :
    let kit := namelessKit
    let s := idle (.resetModel [subscriptionServer "a" "u" "n" [("name", .string "old")]] 0)
    let later := s.run kit [.prepare 0 "" "" false true ⟨"", "", ""⟩, .rename 0 "new"]
    (later.model.servers.map fun r => (r.tag, decide (Shows r.config "new"))) = [(0, true)] ∧
      ((later.step kit (.respond 0 (.ok "r"))).model.servers.map fun r =>
        (r.tag, decide (Shows r.config "new"), r.config.textAt "name")) = [(0, false, "old")] := by
  decide +kernel

end Controller

end Dopamine.Client
