import Dopamine.Client.ReconcileRows
import Dopamine.Trace.Runs

/-!
# The controller of API configs

`ApiConfigsController` of `client/ui/controllers/api/apiConfigsController.cpp`, as a step function on
events: what the user does to the list of servers, updates of a server from the gateway, reloads of
all subscriptions and polls of the catalog version. Requests are answered later, so a step sends the
request and keeps what the code captures, and another step has the response.

* `prepare` and `respond`: `updateServiceFromGatewayAsync`.
* `reload`, `services` and `configs`: `reloadSubscriptionConfigs`. A feed is complete with the
  response to its last config request. If all configs are reused it is complete with the services.
* `poll` and `catalog`: `checkCatalogVersion`.

The responses to single config requests of a feed do not touch the state that is modelled here, so
`configs` has all of them. Filters of the server list, which a reload sets when it is done, and
messages to the user are left out.
-/

namespace Dopamine.Client

open QJsonObject List Option ServersModel

/-- An update that waits for its response, with the tag of the server that it was prepared for. -/
structure PendingUpdate where
  update : GatewayConfigUpdate
  tag : Option ℕ

/-- What the slots of a feed were made from: the stored servers and the list of services. -/
structure OpenFeed where
  servers : List QJsonObject
  body : String

/-- A reload that is running, with the subscription whose feed it waits for. -/
structure Reload where
  prevConnectionUuid : String
  prevNodeId : String
  subscriptionId : String
  remaining : List String
  anyFetched : Bool
  /-- Nothing while the list of services is awaited. -/
  opened : Option OpenFeed

/-- The state of the controller, with the settings it reads. -/
structure Controller where
  model : ServersModel
  subscriptionId : String
  updates : List PendingUpdate
  reload : Option Reload
  autoServerListUpdate : Bool
  /-- The number of catalog requests that wait for a reply. -/
  polls : ℕ
  lastCatalogVersion : String
  pendingCatalogVersion : String

/-- A controller with nothing in flight. -/
def Controller.idle (model : ServersModel) : Controller where
  model := model
  subscriptionId := ""
  updates := []
  reload := none
  autoServerListUpdate := true
  polls := 0
  lastCatalogVersion := ""
  pendingCatalogVersion := ""

/-- What happens to the controller. -/
inductive Event where
  | rename (row : ℕ) (name : String)
  | select (row : ℕ)
  | add (server : QJsonObject)
  | remove (row : ℕ)
  | prepare (row : ℕ) (newCountryCode newCountryName : String) (reloadServiceConfig silent : Bool)
      (fresh : ProtocolData)
  | respond (k : ℕ) (response : Response)
  | reload
  | services (response : Response)
  | configs (answers : ℕ → ProtocolData × Response)
  | poll
  | catalog (reply : Response)

namespace Controller

/-! ## Reloads -/

/-- The feed of a running reload, if nothing is requested any more. -/
def noAnswers : ℕ → ProtocolData × Response := fun _ => (⟨"", "", ""⟩, .error .apiConfigEmptyError)

variable (s : Controller) (kit : Toolkit)

def stored : List QJsonObject := s.model.servers.map Row.config

/-- Add an id to a list of different ids that are not empty. -/
def addId (ids : List String) (id : String) : List String :=
  if id ≠ "" ∧ id ∉ ids then ids ++ [id] else ids

def collectSubscriptionIds : List String :=
  (s.subscriptionId :: s.stored.map subscriptionIdForServer).foldl addId []

/-- `reloadSubscriptionConfigs`, up to the request for the first feed. -/
def reloadSubscriptionConfigs : Controller :=
  match s.reload, s.collectSubscriptionIds with
  | none, id :: remaining =>
      let prev := if s.model.defaultServerIndex < 0 then empty
        else s.model.getServerConfig s.model.defaultServerIndex.toNat
      { s with
        reload := some
          { prevConnectionUuid := connectionUuid prev
            prevNodeId := nodeId prev
            subscriptionId := id
            remaining := remaining
            anyFetched := false
            opened := none } }
  | _, _ => s

/-- The row that is selected when a reload is done: the first one with the connection and the node
that were selected when it began, or else the first one. -/
def restoredIndex (m : ServersModel) (prevConnectionUuid prevNodeId : String) : Option ℕ :=
  let same :=
    if prevConnectionUuid = "" then none
    else m.servers.findIdx? fun r =>
      connectionUuid r.config = prevConnectionUuid && nodeId r.config = prevNodeId
  same.or (if m.servers = [] then none else some 0)

/-- `setDefaultServerIndex`, for the restored row. -/
def restoreDefault (m : ServersModel) (prevConnectionUuid prevNodeId : String) : ServersModel :=
  match restoredIndex m prevConnectionUuid prevNodeId with
  | some i => m.setDefaultServerIndex i
  | none => m

/-- The end of a reload. -/
def finishReload (r : Reload) : Controller :=
  { s with
    model := restoreDefault s.model r.prevConnectionUuid r.prevNodeId
    reload := none
    lastCatalogVersion :=
      if s.pendingCatalogVersion = "" then s.lastCatalogVersion else s.pendingCatalogVersion
    pendingCatalogVersion := "" }

/-- The servers after a feed: a feed that failed leaves them. -/
def reconciled (r : Reload) (feed : Feed) : ServersModel :=
  if feed.success then
    s.model.reconcileSubscription kit r.subscriptionId feed.configs feed.failures
  else s.model

/-- The callback of a feed, up to the request for the next one. -/
def feedDone (r : Reload) (feed : Feed) : Controller :=
  let s := { s with model := s.reconciled kit r feed }
  let r := { r with anyFetched := r.anyFetched || feed.success }
  match r.remaining with
  | id :: remaining =>
      { s with reload := some { r with subscriptionId := id, remaining := remaining, opened := none } }
  | [] => s.finishReload r

/-- The feed that is complete with an event. -/
def delivered : Event → Option (Reload × Feed)
  | .services response =>
      match s.reload with
      | some r =>
          match r.opened, response with
          | some _, _ => none
          | none, .error e =>
              some (r, kit.fetchSubscriptionFeed r.subscriptionId false s.stored (.error e) noAnswers)
          | none, .ok body =>
              if (kit.feedSlots r.subscriptionId false s.stored body).all
                  fun slot => slot.reused.isSome then
                some (r, kit.fetchSubscriptionFeed r.subscriptionId false s.stored (.ok body) noAnswers)
              else none
      | none => none
  | .configs answers =>
      match s.reload with
      | some r =>
          r.opened.map fun opened =>
            (r, kit.fetchSubscriptionFeed r.subscriptionId false opened.servers (.ok opened.body)
              answers)
      | none => none
  | _ => none

/-- A running reload gets the list of services and asks for configs. -/
def openFeed (response : Response) : Controller :=
  match s.reload, response with
  | some r, .ok body =>
      match r.opened with
      | none => { s with reload := some { r with opened := some ⟨s.stored, body⟩ } }
      | some _ => s
  | _, _ => s

/-! ## The catalog -/

def resolveSubscriptionId : String :=
  if s.subscriptionId ≠ "" then s.subscriptionId
  else
    let ids := s.stored.map fun server =>
      if connectionUuid server = "" then ""
      else
        let id := ((apiConfig server).objectAt "auth_data").textAt "api_key"
        if id = "" then (server.objectAt "auth_data").textAt "api_key" else id
    (ids.find? fun id => id ≠ "").getD ""

/-- `checkCatalogVersion`, up to the request. -/
def checkCatalogVersion : Controller :=
  if !s.autoServerListUpdate || s.resolveSubscriptionId = "" then s
  else { s with polls := s.polls + 1 }

/-- The version in a reply. -/
def catalogVersion (reply : Response) : String :=
  match reply with
  | .error _ => ""
  | .ok body => ((kit.fromJson body).objectAt "response").textAt "version"

/-- The reply to a request of `checkCatalogVersion`. -/
def catalogReply (reply : Response) : Controller :=
  let version := catalogVersion kit reply
  let s := { s with polls := s.polls - 1 }
  if version = "" then s
  else if s.lastCatalogVersion = "" then { s with lastCatalogVersion := version }
  else if version = s.lastCatalogVersion then s
  else { s with pendingCatalogVersion := version }.reloadSubscriptionConfigs

/-! ## Steps -/

/-- `updateServiceFromGatewayAsync`, up to the request. -/
def prepareUpdate (row : ℕ) (newCountryCode newCountryName : String)
    (reloadServiceConfig silent : Bool) (fresh : ProtocolData) : Controller :=
  let update := kit.prepareGatewayConfigUpdate (s.model.getServerConfig row) row newCountryCode
    newCountryName reloadServiceConfig silent fresh
  { s with updates := s.updates ++ [⟨update, s.model.servers[row]?.map Row.tag⟩] }

/-- The response to an update. A write outside of the list, which is undefined, is left out. -/
def finishUpdate (k : ℕ) (response : Response) : Controller :=
  match s.updates[k]? with
  | none => s
  | some p =>
      { s with
        model := (s.model.finishGatewayConfigUpdate kit p.update response).getD s.model
        updates := s.updates.eraseIdx k }

/-- What an event does. Events that cannot happen are ignored. -/
def step : Event → Controller
  | .rename row name => { s with model := s.model.setName row name }
  | .select row =>
      if row < s.model.servers.length then { s with model := s.model.setDefaultServerIndex row }
      else s
  | .add server => { s with model := s.model.addServer server }
  | .remove row =>
      if row < s.model.servers.length then { s with model := s.model.removeServer row } else s
  | .prepare row newCountryCode newCountryName reloadServiceConfig silent fresh =>
      s.prepareUpdate kit row newCountryCode newCountryName reloadServiceConfig silent fresh
  | .respond k response => s.finishUpdate kit k response
  | .reload => s.reloadSubscriptionConfigs
  | .services response =>
      match s.delivered kit (.services response) with
      | some (r, feed) => s.feedDone kit r feed
      | none => s.openFeed response
  | .configs answers =>
      match s.delivered kit (.configs answers) with
      | some (r, feed) => s.feedDone kit r feed
      | none => s
  | .poll => s.checkCatalogVersion
  | .catalog reply => if s.polls = 0 then s else s.catalogReply kit reply

/-- The state after some events. -/
def run (events : List Event) : Controller := Trace.run (fun s e => s.step kit e) s events

end Controller

/-! ## Servers that are there before and after -/

namespace ServersModel

variable {m : ServersModel}

/-- The servers of the second list are those of the first one, by their tags, and new ones. -/
structure Evolves (m m' : ServersModel) : Prop where
  nextTag_le : m.nextTag ≤ m'.nextTag
  tag_mem : ∀ r' ∈ m'.servers, r'.tag < m.nextTag → ∃ r ∈ m.servers, r.tag = r'.tag

theorem Evolves.of_subset {m' : ServersModel} (hnext : m'.nextTag = m.nextTag)
    (hsub : ∀ r' ∈ m'.servers, ∃ r ∈ m.servers, r.tag = r'.tag) : Evolves m m' :=
  ⟨hnext.ge, fun r' hr' _ => hsub r' hr'⟩

theorem Evolves.refl (m : ServersModel) : Evolves m m := .of_subset rfl fun r hr => ⟨r, hr, rfl⟩

theorem Evolves.trans {a b c : ServersModel} (hab : a.Evolves b) (hbc : b.Evolves c) :
    a.Evolves c := by
  refine ⟨hab.nextTag_le.trans hbc.nextTag_le, fun r hr hlt => ?_⟩
  obtain ⟨r', hr', htag⟩ := hbc.tag_mem r hr (hlt.trans_le hab.nextTag_le)
  obtain ⟨r'', hr'', htag'⟩ := hab.tag_mem r' hr' (htag ▸ hlt)
  exact ⟨r'', hr'', htag'.trans htag⟩

theorem evolves_addServer (m : ServersModel) (server : QJsonObject) :
    Evolves m (m.addServer server) := by
  refine ⟨Nat.le_succ _, fun r' hr' hlt => ?_⟩
  rcases mem_append.mp hr' with hold | hnew
  · exact ⟨r', hold, rfl⟩
  · rw [mem_singleton.mp hnew] at hlt
    exact absurd hlt (Nat.lt_irrefl _)

theorem evolves_edit (m : ServersModel) (i : Fin m.servers.length) (server : QJsonObject) :
    Evolves m (m.edit i server) :=
  .of_subset rfl fun _ hr' => mem_modify_config hr'

theorem evolves_removeServer (m : ServersModel) (i : ℕ) : Evolves m (m.removeServer i) :=
  .of_subset rfl fun r' hr' => ⟨r', mem_of_mem_eraseIdx hr', rfl⟩

theorem evolves_reconcile (m : ServersModel) (kit : Toolkit) (subscriptionId : String)
    (configs : List QJsonObject) (failures : List String) :
    Evolves m (m.reconcileSubscription kit subscriptionId configs failures) := by
  obtain ⟨n, htags, hnext⟩ := m.tags_reconcile kit subscriptionId configs failures
  refine ⟨hnext ▸ Nat.le_add_right .., fun r' hr' hlt => ?_⟩
  have hmem := htags ▸ mem_map_of_mem hr'
  rcases mem_append.mp hmem with hold | hnew
  · obtain ⟨r, hr, htag⟩ := mem_map.mp hold
    exact ⟨r, (mem_filter.mp hr).1, htag⟩
  · exact absurd hlt (not_lt.mpr (mem_range'_1.mp hnew).1)

variable {r r' : Row}

/-- After an edit, the server in the row has the new config and the others have what they had. -/
theorem config_edit {i : Fin m.servers.length} {server : QJsonObject} (hr : r ∈ m.servers)
    (hr' : r' ∈ (m.edit i server).servers) (htag : r'.tag = r.tag) :
    r'.config = if m.servers[i] = r then server else r.config := by
  obtain ⟨j, hj⟩ := mem_iff_getElem?.mp hr'
  replace hj : (m.servers.modify i fun r => { r with config := server })[j]? = some r' := hj
  rw [getElem?_modify] at hj
  obtain ⟨q, hq, rfl⟩ := map_eq_some_iff.mp hj
  have hqtag : q.tag = r.tag := by
    rw [← htag]
    split_ifs <;> rfl
  obtain rfl := m.eq_of_tag (mem_of_getElem? hq) hr hqtag
  obtain ⟨hjlt, hget⟩ := List.getElem?_eq_some_iff.mp hq
  have hnodup : m.servers.Nodup := List.Nodup.of_map _ m.tags_nodup
  have hiff : m.servers[i] = q ↔ (i : ℕ) = j := by
    rw [← hget]
    exact List.Nodup.getElem_inj_iff hnodup
  by_cases hij : (i : ℕ) = j
  · rw [if_pos hij, if_pos (hiff.mpr hij)]
  · rw [if_neg hij, if_neg fun h => hij (hiff.mp h)]

theorem evolves_setName (m : ServersModel) (row : ℕ) (name : String) :
    Evolves m (m.setName row name) := by
  rw [setName]
  split_ifs
  · exact m.evolves_edit _ _
  · exact .refl m

theorem tags_setName (m : ServersModel) (row : ℕ) (name : String) :
    (m.setName row name).servers.map Row.tag = m.servers.map Row.tag := by
  rw [setName]
  split_ifs
  · exact map_tag_modify ..
  · rfl

theorem getElem?_eq_some_iff_fin {i : ℕ} (h : i < m.servers.length) :
    m.servers[i]? = some r ↔ m.servers[(⟨i, h⟩ : Fin m.servers.length)] = r := by
  rw [getElem?_eq_getElem h, some.injEq]
  rfl

theorem config_setName {row : ℕ} {name : String} (hr : r ∈ m.servers)
    (hr' : r' ∈ (m.setName row name).servers) (htag : r'.tag = r.tag) :
    r'.config = (if m.servers[row]? = some r then some (renamed r.config name)
      else none).getD r.config := by
  rw [setName] at hr'
  split_ifs at hr' with hlt
  · rw [config_edit hr hr' htag]
    by_cases hrow : m.servers[row]? = some r
    · have hget := (getElem?_eq_some_iff_fin hlt).mp hrow
      rw [if_pos hget, if_pos hrow]
      exact congrArg (fun r : Row => renamed r.config name) hget
    · rw [if_neg hrow, if_neg fun h => hrow ((getElem?_eq_some_iff_fin hlt).mpr h)]
      rfl
  · rw [getElem?_eq_none (not_lt.mp hlt), if_neg (some_ne_none r).symm]
    exact congrArg Row.config (m.eq_of_tag hr' hr htag)

/-- An update changes the server in its row only. -/
theorem config_finish {kit : Toolkit} {update : GatewayConfigUpdate} {response : Response}
    (hr : r ∈ m.servers)
    (hr' : r' ∈ ((m.finishGatewayConfigUpdate kit update response).getD m).servers)
    (htag : r'.tag = r.tag) :
    r'.config = (if m.servers[update.serverIndex]? = some r then
      (update.finish kit r.config response).write else none).getD r.config := by
  have hsame : ∀ {q : Row}, q ∈ m.servers → q.tag = r.tag → q.config = r.config := fun hq h =>
    congrArg Row.config (m.eq_of_tag hq hr h)
  rw [finishGatewayConfigUpdate] at hr'
  cases hwrite : (update.finish kit (m.getServerConfig update.serverIndex) response).write with
  | none =>
    rw [hwrite] at hr'
    split_ifs with hrow
    · rw [← getServerConfig_of_getElem? hrow, hwrite, getServerConfig_of_getElem? hrow]
      exact hsame hr' htag
    · exact hsame hr' htag
  | some server =>
    rw [hwrite] at hr'
    simp only [editServer] at hr'
    split_ifs at hr' with hlt
    · rw [config_edit hr hr' htag]
      split_ifs with hrow hrow' hrow'
      · rw [← getServerConfig_of_getElem? hrow', hwrite]
        rfl
      · exact absurd ((getElem?_eq_some_iff_fin hlt).mpr hrow) hrow'
      · exact absurd ((getElem?_eq_some_iff_fin hlt).mp hrow') hrow
      · rfl
    · rw [getElem?_eq_none (not_lt.mp hlt), if_neg (some_ne_none r).symm]
      exact hsame hr' htag

theorem finish_induction {P : ServersModel → Prop} {m : ServersModel} (hself : P m)
    (hedit : ∀ row server, P (m.edit row server)) (kit : Toolkit) (update : GatewayConfigUpdate)
    (response : Response) : P ((m.finishGatewayConfigUpdate kit update response).getD m) := by
  rw [finishGatewayConfigUpdate]
  cases (update.finish kit (m.getServerConfig update.serverIndex) response).write with
  | none => exact hself
  | some server =>
    simp only [editServer]
    split_ifs
    · exact hedit _ _
    · exact hself

theorem tags_finish (m : ServersModel) (kit : Toolkit) (update : GatewayConfigUpdate)
    (response : Response) :
    ((m.finishGatewayConfigUpdate kit update response).getD m).servers.map Row.tag =
      m.servers.map Row.tag :=
  finish_induction (P := fun m' => m'.servers.map Row.tag = m.servers.map Row.tag) rfl
    (fun _ _ => map_tag_modify ..) kit update response

theorem evolves_finish (m : ServersModel) (kit : Toolkit) (update : GatewayConfigUpdate)
    (response : Response) :
    Evolves m ((m.finishGatewayConfigUpdate kit update response).getD m) :=
  finish_induction (.refl m) m.evolves_edit kit update response

end ServersModel

namespace Controller

variable {s : Controller} {kit : Toolkit}

/-- What an event writes to a server. -/
def written (s : Controller) (kit : Toolkit) (e : Event) (r : Row) : Option QJsonObject :=
  match e with
  | .rename row name =>
      if s.model.servers[row]? = some r then some (ServersModel.renamed r.config name) else none
  | .respond k response =>
      (s.updates[k]?).bind fun p =>
        if s.model.servers[p.update.serverIndex]? = some r then
          (p.update.finish kit r.config response).write
        else none
  | e =>
      (s.delivered kit e).bind fun p =>
        if p.2.success then s.model.installed kit p.2.configs r else none

variable {e : Event} {rl : Reload} {feed : Feed} {r : Row} {w : QJsonObject}

theorem written_of_delivered (h : s.delivered kit e = some (rl, feed)) (r : Row) :
    s.written kit e r =
      if feed.success then s.model.installed kit feed.configs r else none := by
  cases e with
  | services response => simp only [written, h, bind_some]
  | configs answers => simp only [written, h, bind_some]
  | _ => cases h

theorem step_of_delivered (h : s.delivered kit e = some (rl, feed)) :
    s.step kit e = s.feedDone kit rl feed := by
  cases e with
  | services response => simp only [step, h]
  | configs answers => simp only [step, h]
  | _ => cases h

/-- The three ways to write to a server. -/
theorem written_eq_some_iff : s.written kit e r = some w ↔
    (∃ row name, e = .rename row name ∧ s.model.servers[row]? = some r ∧
      w = ServersModel.renamed r.config name) ∨
    (∃ k body p new, e = .respond k (.ok body) ∧ s.updates[k]? = some p ∧
      s.model.servers[p.update.serverIndex]? = some r ∧ p.update.Writes kit body new ∧
      w = p.update.updated kit body new) ∨
    ∃ rl feed, s.delivered kit e = some (rl, feed) ∧ feed.success = true ∧
      s.model.installed kit feed.configs r = some w := by
  constructor
  · intro h
    cases e with
    | rename row name =>
      simp only [written] at h
      split_ifs at h with hrow
      exact .inl ⟨row, name, rfl, hrow, (some.inj h).symm⟩
    | respond k response =>
      simp only [written, bind_eq_some_iff] at h
      obtain ⟨p, hp, hw⟩ := h
      split_ifs at hw with hrow
      obtain ⟨body, new, rfl, hwrites, rfl⟩ := GatewayConfigUpdate.finish_write_iff.mp hw
      exact .inr (.inl ⟨k, body, p, new, rfl, hp, hrow, hwrites, rfl⟩)
    | _ =>
      simp only [written, bind_eq_some_iff] at h
      obtain ⟨⟨rl, feed⟩, hdelivered, hw⟩ := h
      split_ifs at hw with hsuccess
      exact .inr (.inr ⟨rl, feed, hdelivered, hsuccess, hw⟩)
  · rintro (⟨row, name, rfl, hrow, rfl⟩ | ⟨k, body, p, new, rfl, hp, hrow, hwrites, rfl⟩ |
      ⟨rl, feed, hdelivered, hsuccess, hw⟩)
    · exact if_pos hrow
    · rw [written, hp, bind_some, if_pos hrow]
      exact GatewayConfigUpdate.finish_write_iff.mpr ⟨body, new, rfl, hwrites, rfl⟩
    · rw [written_of_delivered hdelivered, if_pos hsuccess, hw]

/-- A feed that is delivered was fetched for the running reload. -/
theorem delivered_eq_some {r : Reload} (h : s.delivered kit e = some (r, feed)) :
    s.reload = some r ∧ ∃ servers services answers,
      feed = kit.fetchSubscriptionFeed r.subscriptionId false servers services answers := by
  cases e with
  | services response =>
    simp only [delivered] at h
    split at h
    · next r' hreload =>
      split at h
      · cases h
      · obtain ⟨rfl, rfl⟩ := Prod.mk.inj (some.inj h)
        exact ⟨hreload, _, _, _, rfl⟩
      · split_ifs at h
        obtain ⟨rfl, rfl⟩ := Prod.mk.inj (some.inj h)
        exact ⟨hreload, _, _, _, rfl⟩
    · cases h
  | configs answers =>
    simp only [delivered] at h
    split at h
    · next r' hreload =>
      obtain ⟨opened, -, heq⟩ := map_eq_some_iff.mp h
      obtain ⟨rfl, rfl⟩ := Prod.mk.inj heq
      exact ⟨hreload, _, _, _, rfl⟩
    · cases h
  | _ => cases h

/-- The configs of a feed that are written are complete. -/
theorem complete_of_lastOf {id : ServerId} {config : QJsonObject}
    (h : s.delivered kit e = some (rl, feed))
    (hlast : installScheme.lastOf id (kit.applyDisplayIndexAndSort feed.configs) = some config) :
    Complete config := by
  obtain ⟨-, servers, services, answers, rfl⟩ := delivered_eq_some h
  exact complete_of_mem_finalized kit (fun c hc => complete_of_mem_feed hc) config
    (Keyed.Scheme.lastOf_eq_some hlast).1

theorem restoreDefault_servers (m : ServersModel) (prevConnectionUuid prevNodeId : String) :
    (restoreDefault m prevConnectionUuid prevNodeId).servers = m.servers ∧
      (restoreDefault m prevConnectionUuid prevNodeId).nextTag = m.nextTag := by
  rw [restoreDefault]
  split <;> exact ⟨rfl, rfl⟩

variable (s kit)

theorem feedDone_servers (r : Reload) (feed : Feed) :
    (s.feedDone kit r feed).model.servers = (s.reconciled kit r feed).servers ∧
      (s.feedDone kit r feed).model.nextTag = (s.reconciled kit r feed).nextTag := by
  simp only [feedDone]
  split
  · exact ⟨rfl, rfl⟩
  · exact restoreDefault_servers ..

theorem reloadSubscriptionConfigs_model : s.reloadSubscriptionConfigs.model = s.model := by
  rw [reloadSubscriptionConfigs]
  split <;> rfl

theorem openFeed_model (response : Response) : (s.openFeed response).model = s.model := by
  simp only [openFeed]
  split
  · split <;> rfl
  · rfl

theorem checkCatalogVersion_model : s.checkCatalogVersion.model = s.model := by
  rw [checkCatalogVersion]
  split_ifs <;> rfl

theorem catalogReply_model (reply : Response) : (s.catalogReply kit reply).model = s.model := by
  simp only [catalogReply]
  split_ifs
  · rfl
  · rfl
  · rfl
  · exact reloadSubscriptionConfigs_model _

/-- How a step changes the list of servers. -/
inductive Change (e : Event) : Prop where
  | stays (servers : (s.step kit e).model.servers = s.model.servers)
      (nextTag : (s.step kit e).model.nextTag = s.model.nextTag)
      (written : ∀ r, s.written kit e r = none)
  | adds (server : QJsonObject) (event : e = .add server)
      (model : (s.step kit e).model = s.model.addServer server)
  | removes (row : ℕ) (event : e = .remove row)
      (model : (s.step kit e).model = s.model.removeServer row)
  | renames (row : ℕ) (name : String) (event : e = .rename row name)
      (model : (s.step kit e).model = s.model.setName row name)
  | responds (k : ℕ) (response : Response) (p : PendingUpdate) (event : e = .respond k response)
      (pending : s.updates[k]? = some p)
      (model : (s.step kit e).model =
        (s.model.finishGatewayConfigUpdate kit p.update response).getD s.model)
  | delivers (r : Reload) (feed : Feed) (delivered : s.delivered kit e = some (r, feed))

variable {s kit}

theorem Change.of_model (hmodel : (s.step kit e).model = s.model)
    (hwritten : ∀ r, s.written kit e r = none) : s.Change kit e :=
  .stays (by rw [hmodel]) (by rw [hmodel]) hwritten

theorem change (s : Controller) (kit : Toolkit) (e : Event) : s.Change kit e := by
  cases e with
  | rename row name => exact .renames row name rfl rfl
  | select row =>
    refine .stays ?_ ?_ fun _ => rfl
    · simp only [step]
      split_ifs <;> rfl
    · simp only [step]
      split_ifs <;> rfl
  | add server => exact .adds server rfl rfl
  | remove row =>
    by_cases hlt : row < s.model.servers.length
    · refine .removes row rfl ?_
      simp only [step, if_pos hlt]
    · exact .of_model (congrArg model (if_neg hlt)) fun _ => rfl
  | prepare => exact .stays rfl rfl fun _ => rfl
  | respond k response =>
    cases hp : s.updates[k]? with
    | none =>
      refine .of_model ?_ fun r => ?_
      · simp only [step, finishUpdate, hp]
      · simp only [written, hp, bind_none]
    | some p =>
      refine .responds k response p rfl hp ?_
      simp only [step, finishUpdate, hp]
  | reload => exact .of_model (reloadSubscriptionConfigs_model s) fun _ => rfl
  | services response =>
    cases hfeed : s.delivered kit (.services response) with
    | none =>
      refine .of_model ?_ fun r => ?_
      · simp only [step, hfeed, openFeed_model]
      · simp only [written, hfeed, bind_none]
    | some p => exact .delivers p.1 p.2 hfeed
  | configs answers =>
    cases hfeed : s.delivered kit (.configs answers) with
    | none =>
      refine .of_model ?_ fun r => ?_
      · simp only [step, hfeed]
      · simp only [written, hfeed, bind_none]
    | some p => exact .delivers p.1 p.2 hfeed
  | poll => exact .of_model (checkCatalogVersion_model s) fun _ => rfl
  | catalog reply =>
    refine .of_model ?_ fun _ => rfl
    simp only [step]
    split_ifs
    · rfl
    · exact catalogReply_model ..

theorem evolves_reconciled (s : Controller) (kit : Toolkit) (r : Reload) (feed : Feed) :
    s.model.Evolves (s.reconciled kit r feed) := by
  rw [reconciled]
  split_ifs
  · exact s.model.evolves_reconcile ..
  · exact .refl _

/-- A step removes servers and adds new ones. -/
theorem evolves_step (s : Controller) (kit : Toolkit) (e : Event) :
    s.model.Evolves (s.step kit e).model := by
  cases s.change kit e with
  | stays hservers hnext _ =>
    exact .of_subset hnext fun r' hr' => ⟨r', hservers ▸ hr', rfl⟩
  | adds server _ hmodel => exact hmodel ▸ s.model.evolves_addServer server
  | removes row _ hmodel => exact hmodel ▸ s.model.evolves_removeServer row
  | renames row name _ hmodel => exact hmodel ▸ s.model.evolves_setName row name
  | responds k response p _ _ hmodel => exact hmodel ▸ s.model.evolves_finish ..
  | delivers r feed hdelivered =>
    obtain ⟨hservers, hnext⟩ := s.feedDone_servers kit r feed
    have hevolves := s.evolves_reconciled kit r feed
    rw [step_of_delivered hdelivered]
    exact ⟨hnext ▸ hevolves.nextTag_le, fun r' hr' => hevolves.tag_mem r' (hservers ▸ hr')⟩

/-- A server that is there before and after a step has what the step writes to it. -/
theorem config_step {r' : Row} (hr : r ∈ s.model.servers)
    (hr' : r' ∈ (s.step kit e).model.servers) (htag : r'.tag = r.tag) :
    r'.config = (s.written kit e r).getD r.config := by
  have hsame : r' ∈ s.model.servers → r'.config = r.config := fun h =>
    congrArg Row.config (s.model.eq_of_tag h hr htag)
  cases s.change kit e with
  | stays hservers _ hwritten =>
    rw [hwritten]
    exact hsame (hservers ▸ hr')
  | adds server hevent hmodel =>
    subst hevent
    rcases mem_append.mp (hmodel ▸ hr') with hold | hnew
    · exact hsame hold
    · rw [mem_singleton.mp hnew] at htag
      exact absurd (htag ▸ s.model.tags_lt r hr) (Nat.lt_irrefl _)
  | removes row hevent hmodel =>
    subst hevent
    exact hsame (mem_of_mem_eraseIdx (hmodel ▸ hr'))
  | renames row name hevent hmodel =>
    subst hevent
    exact config_setName hr (hmodel ▸ hr') htag
  | responds k response p hevent hpending hmodel =>
    subst hevent
    rw [config_finish hr (hmodel ▸ hr') htag, written, hpending, bind_some]
  | delivers rl feed hdelivered =>
    rw [written_of_delivered hdelivered]
    rw [step_of_delivered hdelivered] at hr'
    obtain ⟨-, servers, services, answers, rfl⟩ := delivered_eq_some hdelivered
    rw [(s.feedDone_servers kit rl _).1, reconciled] at hr'
    split_ifs at hr' ⊢
    · exact reconcile_row (fun c hc => complete_of_mem_feed hc) hr hr' htag
    · exact hsame hr'

/-- A server that a feed writes to is kept. -/
theorem tag_mem_of_installed (hr : r ∈ s.model.servers)
    (h : (if feed.success then s.model.installed kit feed.configs r else none) = some w) :
    r.tag ∈ (s.reconciled kit rl feed).servers.map Row.tag := by
  split_ifs at h with hsuccess
  rw [ServersModel.installed] at h
  split_ifs at h
  obtain ⟨c, hlast, -⟩ := map_eq_some_iff.mp h
  obtain ⟨hmem, hkey⟩ := Keyed.Scheme.lastOf_eq_some hlast
  have hid := (installScheme_keyOf_eq_some hkey).2
  rw [reconciled, if_pos hsuccess]
  refine tag_mem_reconcile hr (Bool.eq_false_iff.mpr fun hgone => ?_)
  refine (isGone_iff.mp hgone).2.2.1 ((kit.mem_map_serverKey).mp ?_)
  rw [serverKey_congr hid]
  exact mem_map_of_mem hmem

/-- A server that a step writes to is there afterwards, with what was written. -/
theorem exists_of_written (hr : r ∈ s.model.servers) (h : s.written kit e r = some w) :
    ∃ r' ∈ (s.step kit e).model.servers, r'.tag = r.tag ∧ r'.config = w := by
  suffices htags : r.tag ∈ (s.step kit e).model.servers.map Row.tag by
    obtain ⟨r', hr', htag⟩ := mem_map.mp htags
    refine ⟨r', hr', htag, ?_⟩
    rw [config_step hr hr' htag, h, getD_some]
  have hmem : r.tag ∈ s.model.servers.map Row.tag := mem_map_of_mem hr
  cases s.change kit e with
  | stays _ _ hwritten => cases (hwritten r).symm.trans h
  | adds server hevent _ =>
    subst hevent
    cases h
  | removes row hevent _ =>
    subst hevent
    cases h
  | renames row name _ hmodel => rwa [hmodel, tags_setName]
  | responds k response p _ _ hmodel => rwa [hmodel, tags_finish]
  | delivers rl feed hdelivered =>
    rw [step_of_delivered hdelivered, (s.feedDone_servers kit rl feed).1]
    exact tag_mem_of_installed hr ((written_of_delivered hdelivered r).symm.trans h)

/-! ## Runs -/

/-- The servers of a later state are those of an earlier one, and new ones. -/
theorem evolves_run (s : Controller) (kit : Toolkit) {earlier later : List Event}
    (h : earlier <+: later) : (s.run kit earlier).model.Evolves (s.run kit later).model := by
  have hmeets : Trace.Meets (fun s e => step s kit e) (fun _ _ => True) s later :=
    Trace.meets_of_forall (fun _ _ => trivial) s later
  exact hmeets.pair (R := fun a b => a.model.Evolves b.model) (fun a => .refl _)
    (fun a b c hab hbc => hab.trans hbc) (fun a e _ => a.evolves_step kit e) h prefix_rfl

end Controller

end Dopamine.Client
