import Dopamine.Client.CachedServers
import Dopamine.Client.ReloadSelection

/-!
# The index of the default server

The index of the default server should be -1 for an empty list and lie in the list otherwise.
Servers that are added to an empty list leave the index, so it is -1 until a server is selected.
An import that replaces the servers empties the list first.
-/

namespace Dopamine.Client

open List ServersModel

open Controller (defaultTag)

namespace ServersModel

/-- The index is -1 exactly for an empty list and lies in the list otherwise. -/
def DefaultInList (m : ServersModel) : Prop :=
  (m.defaultServerIndex = -1 ↔ m.servers = []) ∧
    (m.servers ≠ [] → 0 ≤ m.defaultServerIndex ∧ m.defaultServerIndex < m.servers.length)

instance (m : ServersModel) : Decidable m.DefaultInList :=
  inferInstanceAs (Decidable (_ ∧ (_ → _)))

variable {m : ServersModel} {row : ℕ}

theorem defaultInList_iff : m.DefaultInList ↔
    (m.servers = [] ∧ m.defaultServerIndex = -1) ∨
      (m.servers ≠ [] ∧ 0 ≤ m.defaultServerIndex ∧ m.defaultServerIndex < m.servers.length) := by
  rw [DefaultInList]
  by_cases hempty : m.servers = []
  · simp [hempty]
  · simp only [hempty, iff_false, ne_eq, not_false_eq_true, true_imp_iff, false_and, true_and,
      false_or]
    omega

/-- Methods that keep the number of servers and the index. -/
theorem defaultInList_congr {m' : ServersModel} (hlength : m'.servers.length = m.servers.length)
    (hindex : m'.defaultServerIndex = m.defaultServerIndex) :
    m'.DefaultInList ↔ m.DefaultInList := by
  rw [DefaultInList, DefaultInList, ← length_eq_zero_iff, ← length_eq_zero_iff, ne_eq,
    ← length_eq_zero_iff, ne_eq, ← length_eq_zero_iff, hlength, hindex]

theorem length_addServers (m : ServersModel) (servers : List QJsonObject) :
    (m.addServers servers).servers.length = m.servers.length + servers.length ∧
      (m.addServers servers).defaultServerIndex = m.defaultServerIndex := by
  induction servers generalizing m with
  | nil => exact ⟨rfl, rfl⟩
  | cons server servers ih =>
    obtain ⟨hlength, hindex⟩ := ih (m.addServer server)
    refine ⟨hlength.trans ?_, hindex⟩
    show (m.servers ++ [_]).length + servers.length = m.servers.length + (servers.length + 1)
    rw [length_append, length_singleton]
    omega

/-- Servers are added to a list that has some. -/
theorem defaultInList_addServers (h : m.DefaultInList) {servers : List QJsonObject} :
    (m.addServers servers).DefaultInList ↔ servers = [] ∨ m.servers ≠ [] := by
  obtain ⟨hlength, hindex⟩ := m.length_addServers servers
  rw [defaultInList_iff] at h ⊢
  rw [← length_eq_zero_iff, ne_eq, ← length_eq_zero_iff] at h
  rw [ne_eq, ← length_eq_zero_iff, ← length_eq_zero_iff, ne_eq,
    ← length_eq_zero_iff, hlength, hindex]
  push_cast
  omega

theorem removeServer_frame (m : ServersModel) (hrow : row < m.servers.length) :
    (m.removeServer row).servers.length = m.servers.length - 1 ∧
      (m.removeServer row).defaultServerIndex =
        shiftedDefault m.defaultServerIndex row (m.servers.length - 1) := by
  have hlength : (m.removeServer row).servers.length = m.servers.length - 1 :=
    length_eraseIdx_of_lt hrow
  refine ⟨hlength, ?_⟩
  rw [← hlength]
  rfl

/-- A server is removed. -/
theorem defaultInList_removeServer (h : m.DefaultInList) (hrow : row < m.servers.length) :
    (m.removeServer row).DefaultInList := by
  obtain ⟨hlength, hindex⟩ := m.removeServer_frame hrow
  rw [defaultInList_iff] at h ⊢
  rw [← length_eq_zero_iff, ne_eq, ← length_eq_zero_iff] at h
  rw [← length_eq_zero_iff, ne_eq, ← length_eq_zero_iff, hlength, hindex, shiftedDefault]
  split_ifs <;> omega

/-- If another server is removed, the default one stays. -/
theorem defaultTag_removeServer (m : ServersModel) (hrow : row < m.servers.length)
    (hne : m.defaultServerIndex ≠ row) : defaultTag (m.removeServer row) = defaultTag m := by
  have hservers : (m.removeServer row).servers = m.servers.eraseIdx row := rfl
  rw [defaultTag, defaultTag, hservers, (m.removeServer_frame hrow).2, shiftedDefault, if_neg hne]
  by_cases hlast : m.servers.length - 1 = 0
  · -- the only server is removed, and it is not the default one
    rw [if_pos hlast, if_pos (by decide)]
    split_ifs with hneg
    · rfl
    · rw [getElem?_eq_none (by omega)]
      rfl
  rw [if_neg hlast]
  by_cases hafter : m.defaultServerIndex > row
  · have hsucc : (m.defaultServerIndex - 1).toNat + 1 = m.defaultServerIndex.toNat := by omega
    rw [if_pos hafter, if_neg (by omega), if_neg (by omega),
      getElem?_eraseIdx_of_ge (by omega), hsucc]
  · rw [if_neg hafter]
    split_ifs with hneg
    · rfl
    · rw [getElem?_eraseIdx_of_lt (by omega)]

end ServersModel

namespace CachedServers

/-- The indices are in the list. -/
def ValidIndex (s : CachedServers) : Mutator → Prop
  | .setDefaultServerIndex index => 0 ≤ index ∧ index < s.model.servers.length
  | .removeProcessedServer =>
      0 ≤ s.model.processedServerIndex ∧ s.model.processedServerIndex < s.model.servers.length
  | .removeServer row => row < s.model.servers.length
  | _ => True

/-- Servers are added only to a list that has some, and not after it was emptied. -/
def AddsToServers (s : CachedServers) : Mutator → Prop
  | .addServer _ => s.model.servers ≠ []
  | .addServers servers => servers = [] ∨ s.model.servers ≠ []
  | .importSubscriptionConfigs configs replaceExisting =>
      configs = [] ∨ replaceExisting = false ∧ s.model.servers ≠ []
  | _ => True

instance (s : CachedServers) (m : Mutator) : Decidable (s.ValidIndex m) := by
  cases m <;> unfold ValidIndex <;> infer_instance

instance (s : CachedServers) (m : Mutator) : Decidable (s.AddsToServers m) := by
  cases m <;> unfold AddsToServers <;> infer_instance

variable {s : CachedServers} {platform : ModelPlatform}

theorem editServer_frame (s : CachedServers) (server : QJsonObject) (row : ℕ) :
    (s.editServer server row).model.servers.length = s.model.servers.length ∧
      (s.editServer server row).model.defaultServerIndex = s.model.defaultServerIndex := by
  rw [editServer, ServersModel.editServer]
  by_cases hrow : row < s.model.servers.length
  · rw [dif_pos hrow]
    exact ⟨length_modify .., rfl⟩
  · rw [dif_neg hrow]
    exact ⟨rfl, rfl⟩

theorem clearCachedProfile_frame (s : CachedServers) (c : DockerContainer) :
    (s.clearCachedProfile c).model.servers.length = s.model.servers.length ∧
      (s.clearCachedProfile c).model.defaultServerIndex = s.model.defaultServerIndex := by
  rw [clearCachedProfile]
  split
  · rw [ServersModel.editServer]
    split_ifs
    · exact ⟨length_modify .., rfl⟩
    · exact ⟨rfl, rfl⟩
  · exact ⟨rfl, rfl⟩

theorem setName_frame (m : ServersModel) (row : ℕ) (name : String) :
    (m.setName row name).servers.length = m.servers.length ∧
      (m.setName row name).defaultServerIndex = m.defaultServerIndex := by
  rw [ServersModel.setName]
  split_ifs
  · exact ⟨length_modify .., rfl⟩
  · exact ⟨rfl, rfl⟩

theorem step_import (platform : ModelPlatform) (s : CachedServers) (configs : List QJsonObject)
    (replaceExisting : Bool) :
    s.step platform (.importSubscriptionConfigs configs replaceExisting) =
      if configs = [] then s
      else (if replaceExisting then s.removeAllServers platform else s).addServers platform configs :=
  rfl

/-- A method that passes a record to `editServer`, or does nothing. -/
theorem step_edits_frame {m : Mutator}
    (hstep : s.step platform m = match s.edits platform m with
      | some (row, server) => s.editServer server row
      | none => s) :
    (s.step platform m).model.servers.length = s.model.servers.length ∧
      (s.step platform m).model.defaultServerIndex = s.model.defaultServerIndex := by
  rw [hstep]
  split
  · exact s.editServer_frame ..
  · exact ⟨rfl, rfl⟩

theorem removeProcessedServer_of_valid (h : 0 ≤ s.model.processedServerIndex ∧
    s.model.processedServerIndex < s.model.servers.length) :
    s.model.processedServerIndex.toNat < s.model.servers.length ∧ s.model.removeProcessedServer =
      s.model.removeServer s.model.processedServerIndex.toNat := by
  refine ⟨?_, if_pos h.1⟩
  have hlt := h.2
  have hge := h.1
  omega

variable {m : Mutator}

/-- A method that removes a row. -/
theorem step_of_removes {row : ℕ} (h : s.removes m = some row) :
    (s.step platform m).model = s.model.removeServer row := by
  cases m with
  | removeServer row' =>
    obtain rfl : row' = row := Option.some.inj h
    rfl
  | removeProcessedServer =>
    simp only [removes, rowOf] at h
    split_ifs at h with hindex
    obtain rfl := Option.some.inj h
    exact if_pos hindex.1
  | _ => cases h

/-- A method keeps the index in the list exactly if it does not add to an empty list. -/
theorem defaultInList_step_iff (hvalid : s.ValidIndex m) (h : s.model.DefaultInList) :
    (s.step platform m).model.DefaultInList ↔ s.AddsToServers m := by
  have hkeeps : ∀ {model : ServersModel}, model.servers.length = s.model.servers.length ∧
      model.defaultServerIndex = s.model.defaultServerIndex → (model.DefaultInList ↔ True) :=
    fun hframe => (defaultInList_congr hframe.1 hframe.2).trans (iff_true_intro h)
  have hadds : ∀ (m : ServersModel) (servers : List QJsonObject), m.DefaultInList →
      ((m.addServers servers).DefaultInList ↔ servers = [] ∨ m.servers ≠ []) :=
    fun _ _ h => defaultInList_addServers h
  cases m with
  | resetModel => exact hkeeps ⟨rfl, rfl⟩
  | setData row name => exact hkeeps (setName_frame ..)
  | setDefaultServerIndex index =>
    refine iff_true_intro (defaultInList_iff.mpr (.inr ⟨fun hempty => ?_, hvalid⟩))
    have hlength : s.model.servers.length = 0 := length_eq_zero_iff.mpr hempty
    have hlt := hvalid.2
    have hge := hvalid.1
    omega
  | setProcessedServerIndex index => exact hkeeps ⟨rfl, rfl⟩
  | addServer server =>
    refine (hadds s.model [server] h).trans ?_
    exact or_iff_right (cons_ne_nil _ _)
  | addServers servers => exact hadds s.model servers h
  | removeAllServers => exact iff_of_true ⟨iff_of_true rfl rfl, fun h => absurd rfl h⟩ trivial
  | removeProcessedServer =>
    refine iff_true_intro ?_
    obtain ⟨hrow, hremove⟩ := removeProcessedServer_of_valid hvalid
    show s.model.removeProcessedServer.DefaultInList
    rw [hremove]
    exact defaultInList_removeServer h hrow
  | removeServer row => exact iff_true_intro (defaultInList_removeServer h hvalid)
  | clearCachedProfile c => exact hkeeps (s.clearCachedProfile_frame c)
  | importSubscriptionConfigs configs replaceExisting =>
    by_cases hconfigs : configs = []
    · rw [step_import, if_pos hconfigs]
      exact iff_of_true h (.inl hconfigs)
    · rw [step_import, if_neg hconfigs]
      show _ ↔ configs = [] ∨ replaceExisting = false ∧ s.model.servers ≠ []
      cases replaceExisting with
      | true =>
        refine (hadds s.model.removeAllServers configs ⟨iff_of_true rfl rfl, fun h => absurd rfl h⟩).trans ?_
        simp [hconfigs, ServersModel.removeAllServers]
      | false =>
        refine (hadds s.model configs h).trans ?_
        simp
  | _ => exact hkeeps (step_edits_frame rfl)

/-- In a run with indices in the list, the index of the default server is -1 exactly if the list is
empty and lies in the list otherwise, exactly if it does at the start and servers are never added to
an empty list. Removing another server leaves the default one. -/
theorem default_index_iff (platform : ModelPlatform) (s : CachedServers) (mutators : List Mutator)
    (hvalid : Trace.Meets (fun s m => s.step platform m) ValidIndex s mutators) :
    ((∀ reached, reached <+: mutators → (s.run platform reached).model.DefaultInList) ↔
      s.model.DefaultInList ∧
        Trace.Meets (fun s m => s.step platform m) AddsToServers s mutators) ∧
    ∀ reached, reached <+: mutators → ∀ (m : Mutator) (row : ℕ),
      (s.run platform reached).removes m = some row →
      row < (s.run platform reached).model.servers.length →
      (s.run platform reached).model.defaultServerIndex ≠ row →
        defaultTag ((s.run platform reached).step platform m).model =
          defaultTag (s.run platform reached).model := by
  refine ⟨Trace.forall_good_iff_meets (fun _ _ => defaultInList_step_iff) hvalid, ?_⟩
  intro reached _ m row hremoves hrow hne
  rw [step_of_removes hremoves]
  exact defaultTag_removeServer _ hrow hne

/-- Two servers, of which the second one is selected and the first one is removed. -/
theorem default_index_two_servers :
    let platform : ModelPlatform := ⟨id, fun _ => true⟩
    let s := CachedServers.load platform [.empty, .empty] 0
    let mutators : List Mutator := [.setDefaultServerIndex 1, .removeServer 0, .addServer .empty]
    Trace.Meets (fun s m => s.step platform m) ValidIndex s mutators ∧
      (s.run platform mutators).model.DefaultInList := by
  intro platform s mutators
  have hvalid : Trace.Meets (fun s m => s.step platform m) ValidIndex s mutators := by decide +kernel
  have hgood := (default_index_iff platform s mutators hvalid).1.mpr ⟨by decide +kernel, by decide +kernel⟩
  exact ⟨hvalid, hgood mutators (prefix_refl _)⟩

/-- The default of a fresh installation is 0, and an import that replaces a server leaves -1. -/
theorem default_index_not_in_list :
    let platform : ModelPlatform := ⟨id, fun _ => true⟩
    let s := CachedServers.load platform [.empty] 0
    let later := s.run platform [.importSubscriptionConfigs [.empty, .empty] true]
    ¬(CachedServers.load platform [] 0).model.DefaultInList ∧ s.model.DefaultInList ∧
      later.model.servers.length = 2 ∧ later.model.defaultServerIndex = -1 ∧
      ¬later.model.DefaultInList := by
  decide +kernel

end CachedServers

end Dopamine.Client
