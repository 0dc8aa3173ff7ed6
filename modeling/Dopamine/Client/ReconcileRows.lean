import Dopamine.Client.ReconcileTwice

/-!
# What reconciling does to a server

The configs of a feed are written to the first server with their triple, and of several configs with
one triple the last one decides. `reconcile_row` says this for a server that is there before and
after, whatever its row is.
-/

namespace Dopamine.Client

open QJsonObject List Option

namespace ServersModel

variable {m : ServersModel} {kit : Toolkit} {subscriptionId : String} {configs : List QJsonObject}
  {failures : List String} {r : Row}

/-- Servers with the same tag are the same. -/
theorem eq_of_tag {r' : Row} (hr : r ∈ m.servers) (hr' : r' ∈ m.servers) (h : r.tag = r'.tag) :
    r = r' :=
  inj_on_of_nodup_map m.tags_nodup hr hr' h

/-- The first server with the triple of another one. -/
def firstWithId (m : ServersModel) (id : ServerId) : Option Row :=
  m.servers.find? fun r => serverId r.config = id

/-- What configs write to a server: the last one with its triple, if no server before has it. -/
def installed (m : ServersModel) (kit : Toolkit) (configs : List QJsonObject) (r : Row) :
    Option QJsonObject :=
  if m.firstWithId (serverId r.config) = some r then
    (installScheme.lastOf (serverId r.config) (kit.applyDisplayIndexAndSort configs)).map
      (updatedServer · r.config)
  else none

theorem installed_eq_some {w : QJsonObject} : m.installed kit configs r = some w ↔
    m.firstWithId (serverId r.config) = some r ∧
    ∃ c, installScheme.lastOf (serverId r.config) (kit.applyDisplayIndexAndSort configs) = some c ∧
      w = updatedServer c r.config := by
  rw [installed]
  split_ifs with hfirst
  · rw [map_eq_some_iff]
    simp only [hfirst, true_and, eq_comm]
  · simp [hfirst]

/-- Servers that are gone do not come before a server with their triple that is kept. -/
theorem find?_keptRows {freshKeys : List String}
    (hr : r ∈ m.keptRows subscriptionId freshKeys failures) :
    ((m.keptRows subscriptionId freshKeys failures).find? fun q =>
      serverId q.config = serverId r.config) = m.firstWithId (serverId r.config) := by
  rw [keptRows, find?_filter, firstWithId]
  have hkept := (mem_filter.mp hr).2
  refine congrArg (find? · m.servers) (funext fun q => ?_)
  by_cases hid : serverId q.config = serverId r.config
  · rw [isGone_congr hid, hkept]
    simp
  · simp [hid]

/-- The tags of the servers after reconciling. -/
theorem tags_reconcile (m : ServersModel) (kit : Toolkit) (subscriptionId : String)
    (configs : List QJsonObject) (failures : List String) :
    ∃ n, (m.reconcileSubscription kit subscriptionId configs failures).servers.map Row.tag =
        (m.keptRows subscriptionId (configs.map serverKey) failures).map Row.tag ++
          range' m.nextTag n ∧
      (m.reconcileSubscription kit subscriptionId configs failures).nextTag = m.nextTag + n := by
  have hnext := congrArg Keyed.Table.next (m.reconcile_table kit subscriptionId configs failures)
  rw [reconcile_servers]
  obtain ⟨n, htags, hrun⟩ := tags_run
    ⟨m.keptRows subscriptionId (configs.map serverKey) failures, m.nextTag⟩
    (kit.applyDisplayIndexAndSort configs)
  exact ⟨n, htags, hnext.trans hrun⟩

/-- A server that is there before and after has what the configs write to it. -/
theorem reconcile_row (hconfigs : ∀ c ∈ configs, Complete c) {r' : Row} (hr : r ∈ m.servers)
    (hr' : r' ∈ (m.reconcileSubscription kit subscriptionId configs failures).servers)
    (htag : r'.tag = r.tag) : r'.config = (m.installed kit configs r).getD r.config := by
  obtain ⟨n, htags, -⟩ := m.tags_reconcile kit subscriptionId configs failures
  set rows := m.keptRows subscriptionId (configs.map serverKey) failures
  obtain ⟨i, hi⟩ := mem_iff_getElem?.mp hr'
  have htagAt : (rows.map Row.tag ++ range' m.nextTag n)[i]? = some r.tag := by
    rw [← htags, getElem?_map, hi, map_some, htag]
  -- new servers have new tags, so the server is one that was kept
  have hlt : i < rows.length := by
    by_contra hge
    rw [getElem?_append_right (by rwa [length_map, ← not_lt])] at htagAt
    have hnew := mem_range'_1.mp (mem_of_getElem? htagAt)
    exact absurd (m.tags_lt r hr) (not_lt.mpr hnew.1)
  obtain ⟨q, hq⟩ : ∃ q, rows[i]? = some q :=
    ⟨_, getElem?_eq_getElem hlt⟩
  rw [getElem?_append_left (by rwa [length_map]), getElem?_map, hq] at htagAt
  have hmem := mem_of_getElem? hq
  obtain rfl : q = r :=
    m.eq_of_tag (mem_filter.mp hmem).1 hr (some.inj htagAt)
  have hcomplete := complete_of_mem_finalized kit hconfigs
  rw [reconcile_servers] at hi
  have hfind := find?_keptRows hmem
  by_cases hfirst : serverId q.config ∈ (rows.map fun r => serverId r.config).take i
  · -- another server with the triple stands before
    have hlater := Keyed.Scheme.getElem?_run_of_later
      (t := ⟨rows, m.nextTag⟩)
      installScheme_keeps (fun c hc _ => (hcomplete c hc).installable) hq hfirst
    have hne : m.firstWithId (serverId q.config) ≠ some q := by
      rw [← hfind]
      intro hsome
      obtain ⟨-, j, hj, hget, hbefore⟩ := find?_eq_some_iff_getElem.mp hsome
      rw [← map_take] at hfirst
      obtain ⟨p, hp, hkey⟩ := mem_map.mp hfirst
      obtain ⟨k, hk, hpk⟩ := mem_take_iff_getElem.mp hp
      have hnodup : rows.Nodup :=
        (List.Nodup.of_map _ m.tags_nodup).filter _
      have hij : j = i := (List.Nodup.getElem_inj_iff hnodup).mp
        (hget.trans (List.getElem?_eq_some_iff.mp hq).2.symm)
      have := hbefore k (hij ▸ (Nat.lt_min.mp hk).1)
      rw [hpk] at this
      exact absurd hkey (by simpa using this)
    rw [installed, if_neg hne]
    exact congrArg Row.config (some.inj (hi.symm.trans hlater))
  · have hwritten := Keyed.Scheme.getElem?_run_of_first
      (t := ⟨rows, m.nextTag⟩)
      installScheme_keeps (fun c hc _ => (hcomplete c hc).installable) hq hfirst
    have hfirst' : m.firstWithId (serverId q.config) = some q :=
      hfind.symm.trans (Keyed.Scheme.find?_of_first (s := installScheme)
        (t := ⟨rows, m.nextTag⟩) hq hfirst)
    have hkey : installScheme.key q = serverId q.config := rfl
    rw [some.inj (hi.symm.trans hwritten),
      Keyed.Scheme.updated_eq installScheme_absorbing fun c hc _ => hcomplete c hc,
      installed, if_pos hfirst', hkey]
    cases installScheme.lastOf (serverId q.config) (kit.applyDisplayIndexAndSort configs) with
    | none => rfl
    | some c => rfl

end ServersModel

end Dopamine.Client
