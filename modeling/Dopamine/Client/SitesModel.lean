import Dopamine.Client.SplitSettings
import Dopamine.Trace.Runs
import Mathlib.Data.List.Nodup

/-!
# The rows of the sites

`SitesModel` of `client/ui/models/sites_model.cpp` shows the sites of one route mode. It keeps its
rows beside the stored list: most operations read the rows anew from it, but `addSite` and
`removeSite` change both. A name that is added with another address than the one it has is stored
with the new address and shown with both. Every other operation keeps the rows the entries of the
stored list (`SitesModel.step_mirrors_iff`).
-/

namespace Dopamine.Client

open List Option Prod Maps Trace

namespace SplitSettings

variable (s : SplitSettings) (mode : RouteMode)

/-- What `addVpnSite` returns. -/
def addsVpnSite (site ip : String) : Bool := ¬(((s.vpnSites mode).value site).isSome ∧ ip = "")

def addVpnSites (sites : SiteMap) : SplitSettings :=
  s.setVpnSites mode (sites.members.foldl
    (fun all site => if all.value site.1 = some site.2 then all else all.set site.1 (some site.2))
    (s.vpnSites mode))

def removeVpnSite (site : String) : SplitSettings :=
  if ((s.vpnSites mode).value site).isNone then s
  else s.setVpnSites mode ((s.vpnSites mode).set site none)

def removeAllVpnSites : SplitSettings := s.setVpnSites mode .empty

@[simp]
theorem vpnSites_setVpnSites (sites : SiteMap) (m : RouteMode) :
    (s.setVpnSites mode sites).vpnSites m = if m = mode then sites else s.vpnSites m := by
  exact Function.update_apply ..

/-- `removeVpnSite` takes the name out of the list. -/
theorem vpnSites_removeVpnSite (site : String) (m : RouteMode) :
    (s.removeVpnSite mode site).vpnSites m =
      if m = mode then (s.vpnSites mode).set site none else s.vpnSites m := by
  rw [removeVpnSite]
  split_ifs with hnone hm
  · subst hm
    refine SortedMap.ext fun k => ?_
    rw [SortedMap.value_set]
    split_ifs with hk
    · rw [hk, isNone_iff_eq_none.mp hnone]
    · rfl
  · rfl
  · rw [vpnSites_setVpnSites, if_pos ‹_›]
  · rw [vpnSites_setVpnSites, if_neg ‹_›]

/-- `addVpnSite` writes the address of the name unless it returns that it does not. -/
theorem vpnSites_addVpnSite (site ip : String) (m : RouteMode) :
    (s.addVpnSite mode site ip).vpnSites m =
      if s.addsVpnSite mode site ip = true ∧ m = mode then (s.vpnSites mode).set site (some ip)
      else s.vpnSites m := by
  rw [addVpnSite, addsVpnSite]
  split_ifs <;> simp_all

end SplitSettings

/-- `SitesModel`: the rows of the current route mode. -/
structure SitesModel where
  settings : SplitSettings
  currentRouteMode : RouteMode
  sites : List (String × String)

/-- The loop of `addSite` over the rows, and what `addSite` returns after it. -/
def addRow (hostname ip : String) : List (String × String) → List (String × String) × Bool
  | [] => ([(hostname, ip)], true)
  | row :: rows =>
      if row.1 = hostname ∧ row.2 = "" ∧ ip ≠ "" then ((row.1, ip) :: rows, true)
      else if row.1 = hostname ∧ row.2 = ip then (row :: rows, false)
      else (row :: (addRow hostname ip rows).1, (addRow hostname ip rows).2)

namespace SitesModel

variable (m : SitesModel)

/-- The stored list of the current route mode. -/
def stored : SiteMap := m.settings.vpnSites m.currentRouteMode

def fillSites : SitesModel := { m with sites := m.stored.members }

/-- The constructor. The mode that tunnels all sites is one of old settings. -/
def ofSettings (settings : SplitSettings) : SitesModel :=
  let mode := if settings.routeMode = .vpnAllSites then .vpnOnlyForwardSites else settings.routeMode
  fillSites ⟨{ settings with routeMode := mode }, mode, []⟩

def addSite (hostname ip : String) : SitesModel × Bool :=
  if m.settings.addsVpnSite m.currentRouteMode hostname ip = false then (m, false)
  else
    ({ m with
      settings := m.settings.addVpnSite m.currentRouteMode hostname ip
      sites := (addRow hostname ip m.sites).1 }, (addRow hostname ip m.sites).2)

def addSites (sites : SiteMap) (replaceExisting : Bool) : SitesModel :=
  let settings :=
    if replaceExisting then m.settings.removeAllVpnSites m.currentRouteMode else m.settings
  fillSites { m with settings := settings.addVpnSites m.currentRouteMode sites }

/-- `removeSite`. A row that the model does not have is not removed. -/
def removeSite (row : ℕ) : SitesModel :=
  match m.sites[row]? with
  | some site =>
      { m with
        settings := m.settings.removeVpnSite m.currentRouteMode site.1
        sites := m.sites.eraseIdx row }
  | none => m

def removeSites : SitesModel :=
  fillSites { m with settings := m.settings.removeAllVpnSites m.currentRouteMode }

def removeSitesByDomains (domains : List String) : SitesModel :=
  fillSites { m with
    settings := domains.foldl (fun s domain => s.removeVpnSite m.currentRouteMode domain) m.settings }

def setRouteMode (mode : RouteMode) : SitesModel :=
  fillSites { m with settings := { m.settings with routeMode := mode }, currentRouteMode := mode }

inductive Op where
  | addSite (hostname ip : String)
  | addSites (sites : SiteMap) (replaceExisting : Bool)
  | removeSite (row : ℕ)
  | removeSites
  | removeSitesByDomains (domains : List String)
  | setRouteMode (mode : RouteMode)

/-- What an operation does. -/
def step (m : SitesModel) : Op → SitesModel
  | .addSite hostname ip => (m.addSite hostname ip).1
  | .addSites sites replaceExisting => m.addSites sites replaceExisting
  | .removeSite row => m.removeSite row
  | .removeSites => m.removeSites
  | .removeSitesByDomains domains => m.removeSitesByDomains domains
  | .setRouteMode mode => m.setRouteMode mode

end SitesModel

/-! ## Rows and a stored list -/

/-- The rows are the entries of the list: each name once, with its address. -/
structure Mirrors (rows : List (String × String)) (map : SiteMap) : Prop where
  nodup : (rows.map Prod.fst).Nodup
  mem_iff : ∀ hostname ip, (hostname, ip) ∈ rows ↔ map.value hostname = some ip

theorem mirrors_members (map : SiteMap) : Mirrors map.members map :=
  ⟨map.keys_nodup, fun _ _ => SortedMap.mem_members_iff⟩

namespace Mirrors

variable {pre post : List (String × String)} {map : SiteMap} {hostname : String}

/-- The address of a name is changed in its place, or the name is put there or taken out. -/
theorem set {old : Option String}
    (h : Mirrors (pre ++ old.toList.map (Prod.mk hostname) ++ post) map)
    (hold : map.value hostname = old) (new : Option String) :
    Mirrors (pre ++ new.toList.map (Prod.mk hostname) ++ post) (map.set hostname new) := by
  have hnodup : (pre.map fst ++ post.map fst).Nodup ∧
      hostname ∉ pre.map fst ++ post.map fst := by
    cases old with
    | some ip =>
      have hcons : (hostname :: (pre.map fst ++ post.map fst)).Nodup :=
        nodup_middle.mp (by simpa using h.nodup)
      exact ⟨hcons.of_cons, nodup_cons.mp hcons |>.1⟩
    | none =>
      refine ⟨by simpa using h.nodup, fun hmem => ?_⟩
      rw [← map_append] at hmem
      obtain ⟨⟨_, ip⟩, hrow, rfl⟩ := mem_map.mp hmem
      cases ((h.mem_iff _ ip).mp (by simpa using hrow)).symm.trans hold
  refine ⟨?_, fun k ip => ?_⟩
  · cases new with
    | none => simpa using hnodup.1
    | some ip =>
      have : (pre.map fst ++ hostname :: post.map fst).Nodup :=
        nodup_middle.mpr (nodup_cons.mpr hnodup.symm)
      simpa using this
  · have hrest := h.mem_iff k ip
    rw [SortedMap.value_set]
    split_ifs with hk
    · subst hk
      have hout : (k, ip) ∉ pre ∧ (k, ip) ∉ post := by
        refine ⟨fun hmem => hnodup.2 ?_, fun hmem => hnodup.2 ?_⟩
        · exact mem_append_left _ (mem_map_of_mem (f := fst) hmem)
        · exact mem_append_right _ (mem_map_of_mem (f := fst) hmem)
      simp [hout, mem_toList, eq_comm]
    · rw [← hrest]
      simp [Ne.symm hk]

/-- A name that is listed has a row of its own. -/
theorem exists_split {rows : List (String × String)} (h : Mirrors rows map) {ip : String}
    (hip : map.value hostname = some ip) :
    ∃ pre post, rows = pre ++ (hostname, ip) :: post ∧ ∀ row ∈ pre, row.1 ≠ hostname := by
  obtain ⟨pre, post, rfl⟩ := append_of_mem ((h.mem_iff hostname ip).mpr hip)
  refine ⟨pre, post, rfl, fun row hrow heq => ?_⟩
  have hcons : (hostname :: (pre.map fst ++ post.map fst)).Nodup :=
    nodup_middle.mp (by simpa using h.nodup)
  refine (nodup_cons.mp hcons).1 (mem_append_left _ ?_)
  exact heq ▸ mem_map_of_mem (f := fst) hrow

end Mirrors

/-! ## The loop over the rows -/

variable {hostname ip : String}

/-- Rows with other names are passed over. -/
theorem addRow_append {pre : List (String × String)} (h : ∀ row ∈ pre, row.1 ≠ hostname)
    (rows : List (String × String)) :
    (addRow hostname ip (pre ++ rows)).1 = pre ++ (addRow hostname ip rows).1 := by
  induction pre with
  | nil => rfl
  | cons row pre ih =>
    have hrow : row.1 ≠ hostname := h row mem_cons_self
    rw [cons_append, addRow, if_neg fun h => hrow h.1, if_neg fun h => hrow h.1,
      ih fun row' hrow' => h row' (mem_cons_of_mem _ hrow')]
    rfl

variable {rows : List (String × String)}

/-- Another address of the name that is not empty stays. -/
theorem mem_addRow_of_ne {old : String} (hempty : old ≠ "") (hne : old ≠ ip)
    (h : (hostname, old) ∈ rows) : (hostname, old) ∈ (addRow hostname ip rows).1 := by
  induction rows with
  | nil => cases h
  | cons row rows ih =>
    rw [addRow]
    rcases mem_cons.mp h with rfl | h
    · rw [if_neg fun h => hempty h.2.1, if_neg fun h => hne h.2]
      exact mem_cons_self
    · split_ifs
      · exact mem_cons_of_mem _ h
      · exact mem_cons_of_mem _ h
      · exact mem_cons_of_mem _ (ih h)

/-- The rows follow a name that is stored, unless it had another address that was not empty. -/
theorem Mirrors.addRow_iff {map : SiteMap} (h : Mirrors rows map)
    (hadds : (map.value hostname).isSome → ip ≠ "") :
    Mirrors (addRow hostname ip rows).1 (map.set hostname (some ip)) ↔
      ∀ old, map.value hostname = some old → old = "" ∨ old = ip := by
  cases hold : map.value hostname with
  | none =>
    refine iff_of_true ?_ fun old h => nomatch h
    have hpre : ∀ row ∈ rows, row.1 ≠ hostname := by
      rintro ⟨_, old⟩ hrow rfl
      cases ((h.mem_iff _ old).mp hrow).symm.trans hold
    have happend : (addRow hostname ip (rows ++ [])).1 = rows ++ [(hostname, ip)] :=
      addRow_append hpre []
    have hrows : Mirrors (rows ++ (none : Option String).toList.map (Prod.mk hostname) ++ []) map := by
      simpa using h
    rw [append_nil] at happend
    rw [happend]
    simpa using hrows.set hold (some ip)
  | some old =>
    have hip : ip ≠ "" := hadds (by rw [hold]; rfl)
    obtain ⟨pre, post, rfl, hpre⟩ := h.exists_split hold
    constructor
    · rintro hmirrors old' heq
      obtain rfl := some.inj heq
      by_contra hnot
      obtain ⟨hempty, hne⟩ := not_or.mp hnot
      have hmem := (hmirrors.mem_iff hostname old).mp
        (mem_addRow_of_ne hempty hne (mem_append_right _ mem_cons_self))
      rw [SortedMap.value_set_self] at hmem
      exact hne (some.inj hmem).symm
    · intro hcond
      have hrow : Mirrors (pre ++ (some old).toList.map (Prod.mk hostname) ++ post) map := by
        simpa using h
      have hset := hrow.set hold (some ip)
      rw [addRow_append hpre, addRow]
      rcases hcond old rfl with rfl | rfl
      · rw [if_pos ⟨rfl, rfl, hip⟩]
        simpa using hset
      · rw [if_neg fun h => hip h.2.1, if_pos ⟨rfl, rfl⟩]
        simpa using hset

namespace SitesModel

variable {m : SitesModel}

/-! ## Operations -/

/-- The rows are the entries of the stored list. -/
def Mirrored (m : SitesModel) : Prop := Mirrors m.sites m.stored

theorem mirrored_fillSites (m : SitesModel) : m.fillSites.Mirrored := mirrors_members m.stored

theorem mirrored_removeSite (h : m.Mirrored) (row : ℕ) : (m.removeSite row).Mirrored := by
  rw [removeSite]
  cases hrow : m.sites[row]? with
  | none => exact h
  | some site =>
    obtain ⟨hlt, rfl⟩ := List.getElem?_eq_some_iff.mp hrow
    have hsplit : m.sites = m.sites.take row ++ m.sites[row] :: m.sites.drop (row + 1) := by
      rw [getElem_cons_drop, take_append_drop]
    have hvalue : m.stored.value m.sites[row].1 = some m.sites[row].2 :=
      (h.mem_iff _ _).mp (getElem_mem hlt)
    show Mirrors (m.sites.eraseIdx row) ((m.settings.removeVpnSite m.currentRouteMode _).vpnSites _)
    rw [SplitSettings.vpnSites_removeVpnSite, if_pos rfl, eraseIdx_eq_take_drop_succ]
    have hmirrors : Mirrors (m.sites.take row ++ (some m.sites[row].2).toList.map
        (Prod.mk m.sites[row].1) ++ m.sites.drop (row + 1)) m.stored := by
      rw [Mirrored, hsplit] at h
      simpa using h
    have hset := hmirrors.set hvalue none
    rwa [toList_none, map_nil, append_nil] at hset

/-- The condition on an operation: a site that is added has no other address yet. -/
def Agrees (m : SitesModel) : Op → Prop
  | .addSite hostname ip =>
      ip ≠ "" → ∀ old, m.stored.value hostname = some old → old = "" ∨ old = ip
  | _ => True

theorem addSite_mirrors_iff (h : m.Mirrored) (hostname ip : String) :
    (m.addSite hostname ip).1.Mirrored ↔ m.Agrees (.addSite hostname ip) := by
  rw [addSite]
  split_ifs with hadds
  · refine iff_of_true h fun hip => ?_
    simp [SplitSettings.addsVpnSite, hip] at hadds
  · have hadds : m.settings.addsVpnSite m.currentRouteMode hostname ip = true :=
      Bool.not_eq_false _ ▸ hadds
    show Mirrors _ ((m.settings.addVpnSite m.currentRouteMode hostname ip).vpnSites _) ↔ _
    rw [SplitSettings.vpnSites_addVpnSite, if_pos ⟨hadds, rfl⟩]
    have hknown : (m.stored.value hostname).isSome → ip ≠ "" := by
      intro hsome hip
      rw [SplitSettings.addsVpnSite, decide_eq_true_iff] at hadds
      exact hadds ⟨hsome, hip⟩
    refine (Mirrors.addRow_iff h hknown).trans ⟨fun hcond _ => hcond, fun hcond old hold => ?_⟩
    exact hcond (hknown (isSome_iff_exists.mpr ⟨old, hold⟩)) old hold

/-- Only `addSite` can part the rows from the stored list. -/
theorem step_mirrors_iff (h : m.Mirrored) (op : Op) : (m.step op).Mirrored ↔ m.Agrees op := by
  cases op with
  | addSite hostname ip => exact addSite_mirrors_iff h hostname ip
  | removeSite row => exact iff_of_true (mirrored_removeSite h row) trivial
  | _ => exact iff_of_true (mirrored_fillSites _) trivial

/-- After each of some operations the rows are the entries of the stored list of the current route
mode exactly if every site that is added has no other address at that time. -/
theorem rows_mirror_stored_iff (settings : SplitSettings) (ops : List Op) :
    (∀ reached, reached <+: ops → (run step (ofSettings settings) reached).Mirrored) ↔
      Meets step Agrees (ofSettings settings) ops := by
  have hgood := @forall_good_iff_meets _ _ step Agrees Mirrored (ofSettings settings) ops
    (fun _ _ => True) (fun _ op _ h => step_mirrors_iff h op)
    (meets_of_forall (fun _ _ => trivial) _ _)
  exact hgood.trans (and_iff_right (mirrored_fillSites _))

/-- Split tunneling with no sites. -/
def noSites : SplitSettings := ⟨true, .vpnOnlyForwardSites, fun _ => .empty⟩

/-- A name that is added again with another address. -/
def twoAddresses : List Op :=
  [.addSite "example.org" "192.0.2.1", .addSite "example.org" "192.0.2.2"]

/-- It has two rows then. -/
theorem rows_of_twoAddresses :
    (run step (ofSettings noSites) twoAddresses).sites =
      [("example.org", "192.0.2.1"), ("example.org", "192.0.2.2")] ∧
    (run step (ofSettings noSites) twoAddresses).stored.members =
      [("example.org", "192.0.2.2")] ∧
    ¬(run step (ofSettings noSites) twoAddresses).Mirrored := by
  have hsites : (run step (ofSettings noSites) twoAddresses).sites =
      [("example.org", "192.0.2.1"), ("example.org", "192.0.2.2")] := by decide +kernel
  refine ⟨hsites, by decide +kernel, fun h => absurd h.nodup ?_⟩
  rw [hsites]
  decide

end SitesModel

end Dopamine.Client
