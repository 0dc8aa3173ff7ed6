import Dopamine.Windows.WindowsDaemon

/-!
# The rules of the peers

`enablePeerTraffic` adds the filters of a configuration under the public key of its server, and
`disablePeerTraffic` removes what was added under a key. A switch to a configuration with the same
key calls only the first of them, so the filters of the old configuration stay. A failed activation
and the kill switch of another hop touch the rules of live peers as well.

The relation `RulesOf` says of which configurations the rules are. Each call of the firewall changes
that list in one way, and a run keeps it equal to the live configurations as long as its requests
are `Clean` (`peer_rules_match`).
-/

namespace Dopamine.Windows

namespace WindowsFirewall

open Prog List

variable {host : WindowsHost} {q : Platform} {fw fw' : Firewall} {key pubkey peer : String}
  {f filter : WfpFilter} {l : List WfpFilter}

/-- A filter of the engine that is recorded under a key. -/
def Recorded (fw : Firewall) (key : String) (f : WfpFilter) : Prop :=
  ∃ entry ∈ fw.peerRules, entry.1 = key ∧ (entry.2, f) ∈ fw.filters

instance : Decidable (Recorded fw key f) :=
  inferInstanceAs (Decidable (∃ entry ∈ fw.peerRules, entry.1 = key ∧ (entry.2, f) ∈ fw.filters))

/-! ## What the functions record -/

theorem recorded_addFilter :
    Recorded (addFilter peer filter fw) key f ↔
      Recorded fw key f ∨ peer ≠ "" ∧ key = peer ∧ f = filter := by
  -- the id of the new filter is not recorded yet
  have hnew : ∀ entry ∈ fw.peerRules, (entry.2, f) ∈ (fw.nextId, filter) :: fw.filters →
      (entry.2, f) ∈ fw.filters := by
    intro entry hentry hmem
    refine (mem_cons.mp hmem).resolve_left fun heq => ?_
    exact (fw.peerRules_lt entry hentry).ne (Prod.ext_iff.mp heq).1
  unfold addFilter
  split
  case isTrue hpeer =>
    constructor
    · rintro ⟨entry, hentry, hkey, hmem⟩
      exact .inl ⟨entry, hentry, hkey, hnew entry hentry hmem⟩
    · rintro (⟨entry, hentry, hkey, hmem⟩ | ⟨hne, -, -⟩)
      · exact ⟨entry, hentry, hkey, mem_cons_of_mem _ hmem⟩
      · exact absurd hpeer hne
  case isFalse hpeer =>
    constructor
    · rintro ⟨entry, hentry, rfl, hmem⟩
      rcases mem_cons.mp hentry with rfl | hentry
      · rcases mem_cons.mp hmem with heq | hmem
        · exact .inr ⟨hpeer, rfl, (Prod.ext_iff.mp heq).2⟩
        · exact absurd rfl (fw.filters_lt _ hmem).ne
      · exact .inl ⟨entry, hentry, rfl, hnew entry hentry hmem⟩
    · rintro (⟨entry, hentry, hkey, hmem⟩ | ⟨-, rfl, rfl⟩)
      · exact ⟨entry, mem_cons_of_mem _ hentry, hkey, mem_cons_of_mem _ hmem⟩
      · exact ⟨(key, fw.nextId), mem_cons_self, rfl, mem_cons_self⟩

theorem enableFilters_always (fw : Firewall) : (enableFilters always peer l fw).1 = true := by
  induction l generalizing fw with
  | nil => rfl
  | cons filter l ih => exact ih _

theorem recorded_enableFilters :
    Recorded (enableFilters always peer l fw).2 key f ↔
      Recorded fw key f ∨ peer ≠ "" ∧ key = peer ∧ f ∈ l := by
  induction l generalizing fw with
  | nil => simp [enableFilters]
  | cons filter l ih =>
    have hstep : Recorded (enableFilters always peer (filter :: l) fw).2 key f ↔
        Recorded (addFilter peer filter (ask always .filterAdd fw).2) key f ∨
          peer ≠ "" ∧ key = peer ∧ f ∈ l := ih
    have hask : Recorded (ask always .filterAdd fw).2 key f ↔ Recorded fw key f := Iff.rfl
    rw [hstep, recorded_addFilter, hask, mem_cons]
    tauto

/-- A rule in a transaction. -/
theorem enableRules_always (depth : ℕ) :
    ∃ fw', enableRules host always depth peer l fw = some (true, fw') ∧
      ∀ key f, Recorded fw' key f ↔ Recorded fw key f ∨ peer ≠ "" ∧ key = peer ∧ f ∈ l := by
  refine ⟨(transactionCommit always
    (enableFilters always peer l (transactionBegin always fw).2).2).2, ?_, fun key f => ?_⟩
  · show (if (enableFilters always peer l (transactionBegin always fw).2).1 then _ else _) = _
    rw [if_pos (enableFilters_always _)]
    rfl
  · exact recorded_enableFilters

/-- Nothing is recorded once everything is allowed. -/
theorem not_recorded_allowAllTraffic : ¬Recorded (allowAllTraffic always fw).2 key f := by
  rintro ⟨entry, hentry, -, -⟩
  exact nomatch (mem_filter.mp hentry).2

/-- The rounds of `disablePeerTraffic`. -/
def forget (pubkey : String) (ids : List ℕ) (fw : Firewall) : Firewall :=
  ids.foldl (fun fw id => dropPeerRules (· ≠ (pubkey, id)) (filterDeleteById always fw id)) fw

variable {ids : List ℕ}

theorem mem_peerRules_forget {entry : String × ℕ} :
    entry ∈ (forget pubkey ids fw).peerRules ↔
      entry ∈ fw.peerRules ∧ ∀ id ∈ ids, entry ≠ (pubkey, id) := by
  have hfold : (forget pubkey ids fw).peerRules
      = ids.foldl (fun l id => l.filter (· ≠ (pubkey, id))) fw.peerRules :=
    (foldl_hom Firewall.peerRules fun _ _ => rfl).symm
  rw [hfold, mem_foldl_filter]
  simp only [decide_eq_true_eq]

theorem mem_filters_forget {entry : ℕ × WfpFilter} :
    entry ∈ (forget pubkey ids fw).filters ↔ entry ∈ fw.filters ∧ ∀ id ∈ ids, entry.1 ≠ id := by
  have hfold : (forget pubkey ids fw).filters
      = ids.foldl (fun l id => l.filter (·.1 ≠ id)) fw.filters :=
    (foldl_hom Firewall.filters fun _ _ => rfl).symm
  rw [hfold, mem_foldl_filter]
  simp only [decide_eq_true_eq]

/-- What was recorded under the key is gone, and nothing else. -/
theorem recorded_disablePeerTraffic :
    Recorded (disablePeerTraffic always pubkey fw).2 key f ↔ Recorded fw key f ∧ key ≠ pubkey := by
  have hids : ∀ id, id ∈ (fw.peerRules.filter (·.1 = pubkey)).map (·.2) ↔
      (pubkey, id) ∈ fw.peerRules := by
    intro id
    simp
  generalize hforget : (fw.peerRules.filter (·.1 = pubkey)).map (·.2) = ids at hids
  have hdisable : (disablePeerTraffic always pubkey fw).2
      = (transactionCommit always (forget pubkey ids (transactionBegin always fw).2)).2 := by
    rw [← hforget]
    rfl
  rw [hdisable]
  constructor
  · rintro ⟨entry, hentry, rfl, hmem⟩
    obtain ⟨hentry, hstays⟩ := mem_peerRules_forget.mp hentry
    refine ⟨⟨entry, hentry, rfl, (mem_filters_forget.mp hmem).1⟩, fun hkey => ?_⟩
    have heq : entry = (pubkey, entry.2) := Prod.ext hkey rfl
    exact hstays entry.2 ((hids _).mpr (heq ▸ hentry)) heq
  · rintro ⟨⟨entry, hentry, rfl, hmem⟩, hne⟩
    -- an id under another key is not one of those that go
    have hother : ∀ id ∈ ids, entry.2 ≠ id := by
      intro id hid heq
      exact hne (Prod.ext_iff.mp (fw.peerRules_inj entry hentry _ ((hids id).mp hid) heq)).1
    refine ⟨entry, mem_peerRules_forget.mpr ⟨hentry, fun id hid heq => ?_⟩, rfl,
      mem_filters_forget.mpr ⟨hmem, hother⟩⟩
    exact hother id hid (Prod.ext_iff.mp heq).2

/-! ## The kill switch -/

/-- The rules of the peers are the same. Everything is blocked under a key of its own, which is not
a public key. -/
def SameRules (fw fw' : Firewall) : Prop :=
  ∀ key ≠ "killswitch", ∀ f, Recorded fw' key f ↔ Recorded fw key f

theorem SameRules.trans {fw'' : Firewall} (h : SameRules fw fw') (h' : SameRules fw' fw'') :
    SameRules fw fw'' :=
  fun key hkey f => (h' key hkey f).trans (h key hkey f)

/-- A part goes on with the next one and leaves the rules of the peers alone. -/
def Quiet (stage : Firewall → Exit × Firewall) : Prop :=
  ∀ fw, (stage fw).1 = .next ∧ SameRules fw (stage fw).2

theorem sameRules_enableFilters (hpeer : peer = "" ∨ peer = "killswitch") :
    SameRules fw (enableFilters always peer l fw).2 := by
  intro key hkey f
  rw [recorded_enableFilters]
  refine or_iff_left fun h => ?_
  rcases hpeer with rfl | rfl
  · exact h.1 rfl
  · exact hkey h.2.1

theorem quiet_fwOk {rule : Firewall → Bool × Firewall}
    (hrule : ∀ fw, (rule fw).1 = true ∧ SameRules fw (rule fw).2) : Quiet (fwOk always rule) := by
  intro fw
  obtain ⟨hok, hsame⟩ := hrule (transactionBegin always fw).2
  have hfwOk : fwOk always rule fw
      = (.next, (transactionCommit always (rule (transactionBegin always fw).2).2).2) := if_pos hok
  rw [hfwOk]
  exact ⟨rfl, hsame⟩

theorem quiet_fwOk_enableFilters : Quiet (fwOk always (enableFilters always "" l)) :=
  quiet_fwOk fun _ => ⟨enableFilters_always _, sameRules_enableFilters (.inl rfl)⟩

theorem quiet_plain : Quiet (plain (enableFilters always "killswitch" l)) := by
  intro fw
  rw [plain, if_pos (enableFilters_always fw)]
  exact ⟨rfl, sameRules_enableFilters (.inr rfl)⟩

theorem quiet_stages {parts : List (Firewall → Exit × Firewall)}
    (h : ∀ stage ∈ parts, Quiet stage) : Quiet (stages parts) := by
  induction parts with
  | nil => exact fun fw => ⟨rfl, fun _ _ _ => Iff.rfl⟩
  | cons stage parts ih =>
    intro fw
    obtain ⟨hnext, hsame⟩ := h stage mem_cons_self fw
    have hstages : stages (stage :: parts) fw = stages parts (stage fw).2 := by
      rw [stages, show stage fw = (.next, (stage fw).2) from Prod.ext hnext rfl]
    obtain ⟨hrest, hsame'⟩ := ih (fun s hs => h s (mem_cons_of_mem _ hs)) (stage fw).2
    rw [hstages]
    exact ⟨hrest, hsame.trans hsame'⟩

theorem quiet_attempt (vpnAdapterIndex : ℤ) : Quiet (attempt host always vpnAdapterIndex) := by
  refine quiet_stages fun stage hstage => ?_
  rcases mem_append.mp hstage with hstage | hstage
  · split at hstage
    · simp only [mem_cons, not_mem_nil, or_false] at hstage
      rcases hstage with rfl | rfl <;> exact quiet_plain
    · obtain rfl := mem_singleton.mp hstage
      exact quiet_fwOk_enableFilters
  · simp only [mem_cons, not_mem_nil, or_false] at hstage
    rcases hstage with rfl | rfl | rfl | rfl | rfl
    all_goals exact quiet_fwOk fun _ => ⟨enableFilters_always _, sameRules_enableFilters (.inl rfl)⟩

theorem enableInterface_always (depth : ℕ) (vpnAdapterIndex : ℤ) (fw : Firewall) :
    ∃ fw', enableInterface host always (depth + 1) vpnAdapterIndex fw = some (true, fw') ∧
      SameRules fw fw' := by
  have hquiet : Quiet (attempt host always vpnAdapterIndex) := quiet_attempt vpnAdapterIndex
  obtain ⟨hnext, hsame⟩ := hquiet fw
  refine ⟨_, ?_, hsame⟩
  rw [enableInterface, show attempt host always vpnAdapterIndex fw
    = (.next, (attempt host always vpnAdapterIndex fw).2) from Prod.ext hnext rfl]

theorem disableAllTraffic_always (depth : ℕ) (fw : Firewall) :
    ∃ fw', disableAllTraffic host always (depth + 2) fw = some (true, fw') ∧ SameRules fw fw' := by
  rw [disableAllTraffic]
  obtain ⟨fw', heq, hsame⟩ := enableInterface_always depth (-1) fw
  rw [heq]
  exact ⟨fw', rfl, hsame⟩

/-- Without the strict kill switch everything is allowed. -/
theorem disableKillSwitch_always (depth : ℕ) (fw : Firewall) :
    ∃ fw', disableKillSwitch host always (depth + 3) fw = some (true, fw') ∧
      if host.strict then SameRules fw fw' else ∀ key f, ¬Recorded fw' key f := by
  rw [disableKillSwitch]
  split
  · exact disableAllTraffic_always depth fw
  · exact ⟨_, rfl, fun _ _ => not_recorded_allowAllTraffic⟩

/-! ## Of which configurations the rules are -/

/-- What `enablePeerTraffic` installs for a configuration when there are no rules. -/
def Installed (host : WindowsHost) (q : Platform) (config : InterfaceConfig) (f : WfpFilter) :
    Prop :=
  Recorded (after (enablePeerTraffic host always q · config) create) config.serverPublicKey f

instance {host : WindowsHost} {q : Platform} {config : InterfaceConfig} {f : WfpFilter} :
    Decidable (Installed host q config f) :=
  inferInstanceAs (Decidable (Recorded _ _ _))

variable {config : InterfaceConfig} {configs configs' : List InterfaceConfig}

theorem recorded_after_enablePeerTraffic :
    Recorded (after (enablePeerTraffic host always q · config) fw) key f ↔
      Recorded fw key f ∨
        config.serverPublicKey ≠ "" ∧ key = config.serverPublicKey ∧ f ∈ peerFilters q config := by
  obtain ⟨fw', heq, hrecorded⟩ : ∃ fw',
    enablePeerTraffic host always q 3 config fw = some (true, fw') ∧ _ := enableRules_always 3
  rw [after, heq]
  exact hrecorded key f

theorem installed_iff :
    Installed host q config f ↔ config.serverPublicKey ≠ "" ∧ f ∈ peerFilters q config := by
  rw [Installed, recorded_after_enablePeerTraffic]
  constructor
  · rintro (⟨_, hentry, -, -⟩ | ⟨hne, -, hmem⟩)
    · cases hentry
    · exact ⟨hne, hmem⟩
  · exact fun h => .inr ⟨h.1, rfl, h.2⟩

/-- The rules of the peers are those of these configurations. -/
def RulesOf (host : WindowsHost) (q : Platform) (configs : List InterfaceConfig) (fw : Firewall) :
    Prop :=
  ∀ key ≠ "killswitch", ∀ f,
    Recorded fw key f ↔ ∃ c ∈ configs, c.serverPublicKey = key ∧ Installed host q c f

theorem rulesOf_nil (h : ∀ key f, ¬Recorded fw key f) : RulesOf host q [] fw :=
  fun key _ f => ⟨fun hrecorded => absurd hrecorded (h key f),
    fun ⟨_, hc, _⟩ => nomatch hc⟩

section

variable (h : RulesOf host q configs fw)
include h

theorem RulesOf.sameRules (hsame : SameRules fw fw') : RulesOf host q configs fw' :=
  fun key hkey f => (hsame key hkey f).trans (h key hkey f)

/-- Two lists with the same filters for each key. -/
theorem RulesOf.congr
    (hle : ∀ c ∈ configs, ∀ f, Installed host q c f →
      ∃ c' ∈ configs', c'.serverPublicKey = c.serverPublicKey ∧ Installed host q c' f)
    (hge : ∀ c ∈ configs', ∀ f, Installed host q c f →
      ∃ c' ∈ configs, c'.serverPublicKey = c.serverPublicKey ∧ Installed host q c' f) :
    RulesOf host q configs' fw := by
  intro key hkey f
  rw [h key hkey f]
  constructor
  · rintro ⟨c, hc, rfl, hf⟩
    exact hle c hc f hf
  · rintro ⟨c, hc, rfl, hf⟩
    exact hge c hc f hf

theorem RulesOf.perm (hperm : configs.Perm configs') : RulesOf host q configs' fw :=
  h.congr (fun c hc _ hf => ⟨c, hperm.subset hc, rfl, hf⟩)
    fun c hc _ hf => ⟨c, hperm.symm.subset hc, rfl, hf⟩

theorem RulesOf.enablePeerTraffic :
    RulesOf host q (config :: configs)
      (after (WindowsFirewall.enablePeerTraffic host always q · config) fw) := by
  intro key hkey f
  rw [recorded_after_enablePeerTraffic, h key hkey f, exists_mem_cons_iff, installed_iff,
    or_comm]
  refine or_congr_left ⟨fun h => ⟨h.2.1.symm, h.1, h.2.2⟩, fun h => ⟨h.2.1, h.1.symm, h.2.2⟩⟩

theorem RulesOf.disablePeerTraffic (pubkey : String) :
    RulesOf host q (configs.filter (·.serverPublicKey ≠ pubkey))
      (WindowsFirewall.disablePeerTraffic always pubkey fw).2 := by
  intro key hkey f
  rw [recorded_disablePeerTraffic, h key hkey f]
  constructor
  · rintro ⟨⟨c, hc, rfl, hf⟩, hne⟩
    exact ⟨c, mem_filter.mpr ⟨hc, decide_eq_true hne⟩, rfl, hf⟩
  · rintro ⟨c, hc, rfl, hf⟩
    obtain ⟨hc, hne⟩ := mem_filter.mp hc
    exact ⟨⟨c, hc, rfl, hf⟩, of_decide_eq_true hne⟩

theorem RulesOf.enableLanBypass (ranges : List IPAddress) :
    RulesOf host q configs (after (WindowsFirewall.enableLanBypass host always · ranges) fw) := by
  obtain ⟨fw', heq, hrecorded⟩ : ∃ fw',
    WindowsFirewall.enableLanBypass host always 3 ranges fw = some (true, fw') ∧ _ :=
      enableRules_always 3
  rw [after, heq]
  refine h.sameRules fun key _ f => (hrecorded key f).trans (or_iff_left fun h => ?_)
  exact h.1 rfl

theorem RulesOf.enableInterface (vpnAdapterIndex : ℤ) :
    RulesOf host q configs
      (after (WindowsFirewall.enableInterface host always · vpnAdapterIndex) fw) := by
  obtain ⟨fw', heq, hsame⟩ := enableInterface_always 2 vpnAdapterIndex fw
  rw [after, heq]
  exact h.sameRules hsame

end

/-- A configuration whose filters another one with the same key has as well. -/
theorem RulesOf.absorb {lastConfig : InterfaceConfig}
    (h : RulesOf host q (config :: lastConfig :: configs) fw)
    (hkey : lastConfig.serverPublicKey = config.serverPublicKey)
    (hcovers : ∀ f, Installed host q lastConfig f → Installed host q config f) :
    RulesOf host q (config :: configs) fw := by
  refine h.congr (fun c hc f hf => ?_) fun c hc f hf => ⟨c, ?_, rfl, hf⟩
  · rcases mem_cons.mp hc with rfl | hc
    · exact ⟨c, mem_cons_self, rfl, hf⟩
    · rcases mem_cons.mp hc with rfl | hc
      · exact ⟨config, mem_cons_self, hkey.symm, hcovers f hf⟩
      · exact ⟨c, mem_cons_of_mem _ hc, rfl, hf⟩
  · exact cons_subset_cons _ (subset_cons_self ..) hc

/-- There are no rules of peers afterwards, unless the kill switch is strict. -/
theorem rulesOf_disableKillSwitch (h : host.strict = true → RulesOf host q [] fw) :
    RulesOf host q [] (after (disableKillSwitch host always) fw) := by
  obtain ⟨fw', heq, hrules⟩ := disableKillSwitch_always 0 fw
  rw [after, heq]
  split at hrules
  case isTrue hstrict => exact (h hstrict).sameRules hrules
  case isFalse => exact rulesOf_nil hrules

end WindowsFirewall

namespace WindowsDaemon

open Prog Daemon WindowsFirewall List

variable (host : WindowsHost) (q : Platform) {d : Daemon.State}
  {config lastConfig : InterfaceConfig} {configs : List InterfaceConfig} {up : Bool}
  {R : WindowsReply → Prop} {F : World → Prop}

/-- The rules of each live peer are those of its configuration, and there are no rules of other
peers. -/
structure Matches (s : World) : Prop where
  live : ∀ config ∈ s.vars.live, ∀ f,
    Recorded s.env.firewall config.serverPublicKey f ↔ Installed host q config f
  gone : ∀ key ≠ "killswitch", (∀ config ∈ s.vars.live, config.serverPublicKey ≠ key) →
    ∀ f, ¬Recorded s.env.firewall key f

/-- What holds between two requests. -/
structure Settled (s : World) : Prop where
  rules : RulesOf host q s.vars.live s.env.firewall
  keys : (s.vars.live.map (·.serverPublicKey)).Nodup
  named : ∀ config ∈ s.vars.live, config.serverPublicKey ≠ "killswitch"
  idle : s.vars.deactivating = false
  up : s.vars.live ≠ [] → s.env.tunnel = true

variable {host q} {s : World} {ip : IPAddress}

theorem Settled.matches (h : Settled host q s) : Matches host q s := by
  refine ⟨fun config hconfig f => ?_, fun key hkey hlive f hrecorded => ?_⟩
  · rw [h.rules _ (h.named config hconfig) f]
    constructor
    · rintro ⟨c, hc, heq, hf⟩
      exact inj_on_of_nodup_map h.keys hc hconfig heq ▸ hf
    · exact fun hf => ⟨config, hconfig, rfl, hf⟩
  · obtain ⟨c, hc, heq, -⟩ := (h.rules key hkey f).mp hrecorded
    exact hlive c hc heq

theorem settled_of_live_eq_nil (hlive : s.vars.live = []) (hidle : s.vars.deactivating = false)
    (hrules : RulesOf host q [] s.env.firewall) : Settled host q s :=
  ⟨hlive ▸ hrules, hlive ▸ nodup_nil, fun _ hc => absurd hc (hlive ▸ not_mem_nil), hidle,
    fun h => absurd hlive h⟩

/-- What holds inside a request: the connections are still those of `d`, and the rules are those of
`configs`. -/
structure Held (host : WindowsHost) (q : Platform) (d : Daemon.State) (up : Bool)
    (configs : List InterfaceConfig) (s : World) : Prop where
  connections : s.vars.connections = d.connections
  deactivating : s.vars.deactivating = d.deactivating
  tunnel : up = true → s.env.tunnel = true
  rules : RulesOf host q configs s.env.firewall

/-- The configuration is connected, next to those of the other hops. -/
theorem Held.settled_connect (h : Held host q d true (config :: d.others config.hopType) s)
    (hidle : d.deactivating = false)
    (hkeys : ((d.others config.hopType).map (·.serverPublicKey)).Nodup)
    (halone : ∀ c ∈ d.others config.hopType, c.serverPublicKey ≠ config.serverPublicKey)
    (hnamed : ∀ c ∈ config :: d.others config.hopType, c.serverPublicKey ≠ "killswitch") :
    Settled host q { s with vars := connect config s.vars } := by
  have hothers : s.vars.others config.hopType = d.others config.hopType :=
    congrArg (filterMap · _) h.connections
  have hlive := hothers ▸ live_connect_perm config s.vars
  refine ⟨h.rules.perm hlive.symm, ?_, fun c hc => hnamed c (hlive.subset hc),
    h.deactivating.trans hidle, fun _ => h.tunnel rfl⟩
  rw [(hlive.map _).nodup_iff, map_cons, nodup_cons]
  refine ⟨fun hmem => ?_, hkeys⟩
  obtain ⟨c, hc, heq⟩ := mem_map.mp hmem
  exact halone c hc heq

/-! ## The calls -/

theorem held_other :
    Triple (exec host q) R (Held host q d up configs) (perform .other)
      fun _ => Held host q d up configs :=
  .perform fun _ _ _ h => { h with }

theorem held_addExclusionRoute :
    Triple (exec host q) R (Held host q d up configs) (addExclusionRoute utils ip)
      fun _ => Held host q d up configs :=
  addExclusionRoute_rule (fun _ h _ => { h with })
    ((held_other.keep fun _ h => h).pre (fun _ h => h.1)) fun _ h => { h with }

theorem held_delExclusionRoute :
    Triple (exec host q) R (Held host q d up configs) (delExclusionRoute utils ip)
      fun _ => Held host q d up configs :=
  delExclusionRoute_rule (fun _ => .return fun _ h => h) (fun _ h _ => { h with })
    (fun _ h _ => { h with }) held_other

theorem held_excludeRoutes :
    Triple (exec host q) R (Held host q d up configs) (excludeRoutes utils q config)
      fun _ => Held host q d up configs := by
  refine (Triple.each fun _ _ => held_addExclusionRoute).bind fun _ => Triple.ignore ?_
  refine Triple.ite (fun _ => Triple.skip) fun _ => held_other.bind fun _ => ?_
  refine .bind (.perform fun _ _ _ h => ?_) fun _ => .skip
  exact { h with rules := h.rules.enableLanBypass _ }

theorem held_maybeUpdateResolvers :
    Triple (exec host q) R (Held host q d up configs) (maybeUpdateResolvers utils q config)
      fun _ => Held host q d up configs :=
  .ite (fun _ => held_other) fun _ => .skip

theorem held_deletePeer :
    Triple (exec host q) R (Held host q d up configs) (deletePeer lastConfig)
      fun _ => Held host q d up
        (configs.filter (·.serverPublicKey ≠ lastConfig.serverPublicKey)) := by
  refine .ignore_bind (.perform fun _ _ _ h => ?_) .skip
  exact { h with rules := h.rules.disablePeerTraffic _ }

/-- If the interface is not there, nothing is live and everything may be allowed. -/
theorem held_ensureInterface (hfail : ∀ s : World,
      s.vars.connections = d.connections → s.vars.deactivating = d.deactivating → F s) :
    Triple (exec host q) R (fun s => Settled host q s ∧ s.vars = d) (ensureInterface utils config)
      (Post (Held host q d true d.live) F) := by
  refine ensureInterface_rule
    (M := fun b s => (Settled host q s ∧ s.vars = d) ∧ b = s.env.tunnel)
    (.perform fun s r _ hs => ⟨hs, rfl⟩) (fun s hs => ?_) ?_
  · obtain ⟨⟨h, rfl⟩, hup⟩ := hs
    exact ⟨rfl, rfl, fun _ => hup.symm, h.rules⟩
  · have hlookup : Triple (exec host q) R (fun s => Held host q d true [] s ∧ d.live = [])
        (perform .other) (Post (fun s => Held host q d true [] s ∧ d.live = []) F) :=
      .keep (.perform fun _ _ _ h => h) fun _ h =>
        hfail _ h.1.connections h.1.deactivating
    have hdone : Triple (exec host q) R (fun s => Held host q d true [] s ∧ d.live = [])
        (pure true) (Post (Held host q d true d.live) F) :=
      .return fun s hs => by
        rw [hs.2]
        exact hs.1
    refine .stage (.perform fun s r _ hs => ?_)
      (hlookup.stage (.ite (fun _ => ?_) fun _ => hdone))
    · obtain ⟨⟨h, rfl⟩, hdown⟩ := hs
      have hlive : s.vars.live = [] := by
        by_contra hne
        cases hdown.trans (h.up hne)
      rw [exec]
      cases r.ok with
      | true => exact ⟨⟨rfl, rfl, fun _ => rfl, hlive ▸ h.rules⟩, hlive⟩
      | false => exact hfail _ rfl rfl
    refine .ignore_bind (M := fun s => Held host q d true [] s ∧ d.live = [])
      (.perform fun s _ _ h => ?_)
      (.ignore_bind (.perform fun s r _ h => ?_) hdone)
    · exact ⟨{ h.1 with rules := rulesOf_nil fun _ _ => not_recorded_allowAllTraffic }, h.2⟩
    · exact ⟨{ h.1 with rules := h.1.rules.enableInterface r.ifindex }, h.2⟩

/-! ## The requests -/

section Enabled

variable (henabled : config.killSwitchEnabled = false → ∀ f, ¬Installed host q config f)
include henabled

/-- The rules of a new peer are there, if it has any, before anything of it can fail. -/
theorem held_updatePeer :
    Triple (exec host q) R (Held host q d up configs) (updatePeer config)
      fun _ => Held host q d up (config :: configs) := by
  refine .ite (fun _ => ?_) fun hoff => held_other.pre fun s h => ?_
  · refine .ignore_bind (.perform fun _ _ _ h => ?_) held_other
    exact { h with rules := h.rules.enablePeerTraffic }
  · refine { h with rules := h.rules.congr (fun c hc f hf => ?_) fun c hc f hf => ?_ }
    · exact ⟨c, mem_cons_of_mem _ hc, rfl, hf⟩
    · rcases mem_cons.mp hc with rfl | hc
      · exact absurd hf (henabled (Bool.eq_false_iff.mpr hoff) f)
      · exact ⟨c, hc, rfl, hf⟩

variable (hkey : config.serverPublicKey ≠ "killswitch")
include hkey

theorem settled_bringUp (hnone : d.connections config.hopType = none)
    (halone : ∀ c ∈ d.others config.hopType, c.serverPublicKey ≠ config.serverPublicKey)
    (hfail : ∀ s : World,
      s.vars.connections = d.connections → s.vars.deactivating = d.deactivating → F s) :
    Triple (exec host q) R (fun s => Settled host q s ∧ s.vars = d) (bringUp utils q config)
      (Post (Settled host q) F) := by
  intro s b t hs hr
  obtain ⟨h, rfl⟩ := hs
  have hlive : s.vars.live.Perm (s.vars.others config.hopType) :=
    State.live_perm_others hnone
  have hheld : ∀ configs t, Held host q s.vars true configs t → F t := fun _ t ht =>
    hfail t ht.connections ht.deactivating
  have hconfigure : Triple (exec host q) R (Held host q s.vars true s.vars.live)
      (configure utils q config) (Post (Settled host q) F) := by
    refine configure_rule .skip .skip
      held_excludeRoutes ((held_updatePeer henabled).keep (hheld _))
      (held_maybeUpdateResolvers.keep (hheld _))
      (.every fun _ _ => held_other.keep (hheld _)) .skip
      fun t ht => ?_
    have ht' : Held host q s.vars true (config :: s.vars.others config.hopType) t :=
      { ht with rules := ht.rules.perm (hlive.cons config) }
    refine ht'.settled_connect h.idle ((hlive.map _).nodup_iff.mp h.keys) halone fun c hc => ?_
    rcases mem_cons.mp hc with rfl | hc
    · exact hkey
    · exact h.named c (hlive.symm.subset hc)
  exact bringUp_rule .skip (held_ensureInterface hfail) hconfigure s b t ⟨h, rfl⟩ hr

/-- When nothing is live, a failure leaves nothing live. -/
theorem settled_bringUp_of_none {A : Prop} :
    Triple (exec host q) R
      (fun t => Settled host q t ∧ t.vars.connections = fun _ => none) (bringUp utils q config)
      (Post (Settled host q) fun t =>
        A → t.vars.live = [] ∧ t.vars.deactivating = false) := by
  intro t b t' ht
  obtain ⟨h, hconn⟩ := ht
  have hempty : ∀ u : Daemon.State, u.connections = t.vars.connections →
      ∀ l : List HopType, l.filterMap u.connections = [] := by
    intro u hu l
    rw [hu, hconn]
    exact filterMap_none l
  refine settled_bringUp henabled hkey (by rw [hconn]) (fun c hc => ?_)
    (fun u hu hdeact _ => ⟨hempty u.vars hu hops, hdeact.trans h.idle⟩) t b t' ⟨h, rfl⟩
  rw [Daemon.State.others, hempty t.vars rfl] at hc
  cases hc

section Switch

variable (hfail : ∀ s, F s) (hsome : d.connections config.hopType = some lastConfig)
  (halone : ∀ c ∈ d.others config.hopType, c.serverPublicKey ≠ config.serverPublicKey)
  (hcovers : lastConfig.serverPublicKey = config.serverPublicKey →
    ∀ f, Installed host q lastConfig f → Installed host q config f)
include hfail hsome halone hcovers

/-- A switch that succeeds. The rules of the old configuration stay if it has the same key. -/
theorem settled_switchServer :
    Triple (exec host q) R (fun s => Settled host q s ∧ s.vars = d)
      (switchServer utils q config lastConfig)
      (Post (fun s => Settled host q s ∧ s.vars.connections config.hopType = some config) F) := by
  intro s b t hs hr
  obtain ⟨h, rfl⟩ := hs
  have hlive : s.vars.live.Perm (lastConfig :: s.vars.others config.hopType) :=
    State.live_perm_cons hsome
  have hup : s.env.tunnel = true := h.up (State.live_ne_nil hsome)
  obtain ⟨hlast, hkeys⟩ := nodup_cons.mp ((hlive.map _).nodup_iff.mp h.keys)
  have hremove : Triple (exec host q) R (Held host q s.vars true (config :: s.vars.live))
      (removeLast utils config lastConfig)
      (Post (Held host q s.vars true (config :: s.vars.others config.hopType)) F) := by
    refine removeLast_rule (fun hne => ?_) fun heq t ht => ?_
    · -- the key of the old peer is the key of no other one
      have hgone : (config :: lastConfig :: s.vars.others config.hopType).filter
          (·.serverPublicKey ≠ lastConfig.serverPublicKey)
            = config :: s.vars.others config.hopType := by
        have hstay : ∀ c ∈ s.vars.others config.hopType,
            c.serverPublicKey ≠ lastConfig.serverPublicKey := fun c hc heq =>
          hlast (mem_map.mpr ⟨c, hc, heq⟩)
        rw [filter_cons_of_pos (by simpa using hne), filter_cons_of_neg (by simp),
          filter_eq_self.mpr (by simpa using hstay)]
      refine .keep (held_deletePeer.post fun _ t ht => ?_) fun t _ => hfail t
      exact { ht with rules := hgone ▸ ht.rules.perm ((hlive.cons config).filter _) }
    · have hrules := ht.rules.perm (hlive.cons config)
      exact { ht with rules := hrules.absorb heq.symm (hcovers heq.symm) }
  refine switchServer_rule (.each fun _ _ => held_addExclusionRoute)
    ((held_updatePeer henabled).keep fun t _ => hfail t) (.every_keep fun _ _ => held_other)
    (.each fun _ _ => held_delExclusionRoute) (.each fun _ _ => held_other) hremove
    (fun t ht => ⟨ht.settled_connect h.idle hkeys halone fun c hc => ?_, Function.update_self ..⟩)
    s b t ⟨rfl, rfl, fun _ => hup, h.rules⟩ hr
  rcases mem_cons.mp hc with rfl | hc
  · exact hkey
  · exact h.named c (hlive.symm.subset (mem_cons_of_mem _ hc))

theorem settled_switchTo :
    Triple (exec host q) R (fun s => Settled host q s ∧ s.vars = d)
      (switchTo utils q config lastConfig) (Post (Settled host q) F) := by
  have hother : Triple (exec host q) R
      (fun s => Settled host q s ∧ s.vars.connections config.hopType = some config) (perform .other)
      (Post (fun s => Settled host q s ∧ s.vars.connections config.hopType = some config) F) :=
    .keep (.perform fun _ _ _ h => h) fun s _ => hfail s
  refine switchTo_rule (settled_switchServer henabled hkey hfail hsome halone hcovers) hother
    (.ite (fun _ => hother) fun _ => .skip)
    .skip fun s hs => ?_
  rw [connect_of_connected hs.2]
  exact hs.1

end Switch

end Enabled

/-- The rules of the connected peer are gone after it has been removed. -/
theorem held_removeConnection (hop : HopType) :
    Triple (exec host q) R (Held host q d up configs) (removeConnection utils hop)
      fun _ => Held host q d up (configs.filter fun c =>
        (d.connections hop).all (c.serverPublicKey ≠ ·.serverPublicKey)) := by
  refine .bind (M := fun v s => Held host q d up configs s ∧ v.connections = d.connections)
    (.read fun s h => ⟨h, h.connections⟩) fun v s b t hs hr => ?_
  obtain ⟨h, hv⟩ := hs
  rw [hv] at hr
  cases hhop : d.connections hop with
  | none =>
    rw [hhop] at hr
    obtain ⟨-, rfl⟩ := hr
    exact { h with rules := h.rules.perm (List.Perm.of_eq (filter_true configs).symm) }
  | some c =>
    rw [hhop] at hr
    exact (Triple.bind (Triple.each fun _ _ => held_other) fun _ => held_deletePeer) s b t h hr

/-- The rules of every live peer go with it. -/
theorem held_removeConnections (hlive : configs ⊆ d.live) :
    Triple (exec host q) R (Held host q d up configs) (each (removeConnection utils) hops)
      fun _ => Held host q d up [] := by
  have hloop := Triple.each_foldl (R := R) (J := Held host q d up) _
    (fun configs hop (_ : hop ∈ hops) => held_removeConnection hop) configs
  refine hloop.post fun _ t ht => ?_
  have hnil : ∀ c, c ∉ hops.foldl (fun configs hop => configs.filter fun c =>
      (d.connections hop).all (c.serverPublicKey ≠ ·.serverPublicKey)) configs := by
    intro c hc
    obtain ⟨hmem, hall⟩ := (mem_foldl_filter _).mp hc
    obtain ⟨hop, hhop, hsome⟩ := mem_filterMap.mp (hlive hmem)
    have hne := hall hop hhop
    rw [hsome] at hne
    exact of_decide_eq_true hne rfl
  rwa [eq_nil_iff_forall_not_mem.mpr hnil] at ht

/-- Nothing is left after a deactivation, whatever fails. -/
theorem settled_deactivate :
    Triple (exec host q) R (Settled host q) (deactivate utils)
      fun b s => b = true ∧ Settled host q s ∧ s.vars.connections = fun _ => none := by
  intro s b t h hr
  have hdelete : Triple (exec host q) R
      (fun s => (s.vars.connections = fun _ => none) ∧ RulesOf host q [] s.env.firewall)
      deleteInterface fun b s => b = true ∧ (s.vars.connections = fun _ => none) ∧
        RulesOf host q [] s.env.firewall := by
    refine .ignore_bind (M := fun s => (s.vars.connections = fun _ => none) ∧
      RulesOf host q [] s.env.firewall) (.perform fun _ _ _ h => ?_)
        (.perform fun _ _ _ h => ⟨rfl, h⟩)
    exact ⟨h.1, rulesOf_disableKillSwitch fun _ => h.2⟩
  have hrule : Triple (exec host q) R (· = s) (deactivate utils)
      fun b s => b = true ∧ Settled host q s ∧ s.vars.connections = fun _ => none := by
    refine deactivate_rule (Held host q { s.vars with deactivating := true } false s.vars.live)
      _ _ _ _ _ (fun _ ht => ht ▸ h.idle) (fun t ht => ?_) (runDown_rule fun _ => .skip) held_other
      (held_removeConnections (List.Subset.refl _))
      (fun _ => (Triple.each fun _ _ => held_other).pre fun _ h => h.1)
      (fun t ht => ⟨rfl, ht.rules⟩) hdelete fun b t ht => ?_
    · subst ht
      exact ⟨rfl, rfl, fun h => Bool.noConfusion h, h.rules⟩
    · obtain ⟨hb, hconn, hrules⟩ := ht
      exact ⟨hb, settled_of_live_eq_nil (State.live_eq_nil hconn) rfl hrules, hconn⟩
  exact hrule s b t rfl hr

/-- Whether anything else stays live when an activation fails. -/
def Alone (config : InterfaceConfig) (d : Daemon.State) : Prop :=
  match d.connections config.hopType with
  | none => d.live = []
  | some lastConfig => supportServerSwitching lastConfig config = false

/-- When an activation leaves the rules of the live peers. -/
structure Clean (host : WindowsHost) (q : Platform) (s : World)
    (config : InterfaceConfig) (rs : List WindowsReply) : Prop where
  /-- the kill switch is enabled, unless there are no rules to install -/
  enabled : config.killSwitchEnabled = false → ∀ f, ¬Installed host q config f
  /-- the key is not the one under which everything is blocked -/
  named : config.serverPublicKey ≠ "killswitch"
  /-- no other hop has the key -/
  apart : ∀ c ∈ s.vars.others config.hopType, c.serverPublicKey ≠ config.serverPublicKey
  /-- a switch that keeps the key keeps every rule -/
  covers : ∀ lastConfig, s.vars.connections config.hopType = some lastConfig →
    supportServerSwitching lastConfig config = true →
    lastConfig.serverPublicKey = config.serverPublicKey →
    ∀ f, Installed host q lastConfig f → Installed host q config f
  /-- the system answers every call with success, or nothing else stays live and the kill switch is
  not strict -/
  answered : (∀ r ∈ rs, r.ok = true) ∨ host.strict = false ∧ Alone config s.vars

/-- When a request leaves the rules of the live peers; a deactivation always does. -/
def KeepsRules (host : WindowsHost) (q : Platform) (s : World) (e : Event) : Prop :=
  match e.1 with
  | .activate config => Clean host q s config e.2
  | .deactivate => True

/-- A failed activation is harmless if nothing else stays live and the kill switch is not strict. -/
theorem settled_activate {rs : List WindowsReply} (h : Settled host q s)
    (hclean : Clean host q s config rs) :
    Triple (exec host q) R (· = s) (activate utils q config)
      (Post (Settled host q) fun t => host.strict = false → Alone config s.vars →
        Settled host q t) := by
  have hfailure : Triple (exec host q) R
      (fun t => Alone config s.vars → t.vars.live = [] ∧ t.vars.deactivating = false)
      utils.activationFailure
      fun _ t => (Alone config s.vars → t.vars.live = [] ∧ t.vars.deactivating = false) ∧
        (host.strict = false → RulesOf host q [] t.env.firewall) :=
    .perform fun _ _ _ ht => ⟨ht, fun hstrict => rulesOf_disableKillSwitch fun hstrict' =>
      Bool.noConfusion (hstrict.symm.trans hstrict')⟩
  refine (activate_rule ?_ (fun lastConfig hsupport => ?_) (fun lastConfig hsupport => ?_)
    hfailure).mono (fun _ h => h) fun t ht hstrict halone => ?_
  · intro t b t' ht
    obtain ⟨rfl, hnone⟩ := ht
    refine settled_bringUp hclean.enabled hclean.named hnone hclean.apart
      (fun u hconn hdeact halone => ?_) t b t' ⟨h, rfl⟩
    rw [Alone, hnone] at halone
    exact ⟨(congrArg hops.filterMap hconn).trans halone, hdeact.trans h.idle⟩
  · intro t b t' ht
    obtain ⟨rfl, hsome⟩ := ht
    refine (settled_switchTo hclean.enabled hclean.named (fun _ halone => ?_) hsome hclean.apart
      (hclean.covers lastConfig hsome hsupport)) t b t' ⟨h, rfl⟩
    rw [Alone, hsome] at halone
    cases halone.symm.trans hsupport
  · refine ((reactivate_rule (settled_deactivate.post fun b t ht => ?_) (fun t ht => by rw [ht.2])
      (settled_bringUp_of_none hclean.enabled hclean.named) hfailure).mono (fun _ h => h)
        fun _ h => h.1).pre fun t ht => ht.1 ▸ h
    obtain ⟨rfl, ht⟩ := ht
    exact ht
  · exact settled_of_live_eq_nil (ht.1 halone).1 (ht.1 halone).2 (ht.2 hstrict)

/-- The program succeeds if the system answers its calls with success. -/
def Succeeds (host : WindowsHost) (q : Platform) (P : World → Prop)
    (p : Prog WindowsCall Daemon.State Bool) : Prop :=
  Triple (exec host q) (·.ok = true) P p (Post (fun _ => True) fun _ => False)

theorem succeeds_other : Succeeds host q (fun _ => True) (perform .other) :=
  .perform fun s r hr _ => by
    rw [exec, hr]
    trivial

theorem succeeds_updatePeer : Succeeds host q (fun _ => True) (updatePeer config) :=
  .ite (fun _ => Triple.any.ignore_bind succeeds_other) fun _ => succeeds_other

theorem succeeds_bringUp : Succeeds host q (fun _ => True) (bringUp utils q config) := by
  have hadd : Succeeds host q (fun _ => True) (addInterface config) := by
    refine Triple.stage (M := fun _ => True) (.perform fun s r hr _ => ?_) (succeeds_other.stage
      (.ite (fun _ => Triple.any.ignore_bind (Triple.any.ignore_bind .skip)) fun _ => .skip))
    rw [exec, hr]
    trivial
  exact bringUp_rule .skip (ensureInterface_rule .any (fun _ _ => trivial) hadd)
    (configure_rule .skip .skip .any succeeds_updatePeer
      (.ite (fun _ => succeeds_other) fun _ => .skip) (.every fun _ _ => succeeds_other) .skip
      fun _ _ => trivial)

/-- Between two requests an activation whose calls succeed does so too. -/
theorem succeeds_activate : Succeeds host q (Settled host q) (activate utils q config) := by
  refine activate_rule (succeeds_bringUp.pre fun _ _ => trivial) (fun lastConfig _ => ?_)
    (fun lastConfig _ => ?_) fun _ _ _ h => h.elim
  · refine .pre (switchTo_rule (switchServer_rule .any succeeds_updatePeer .any .any .any
      (removeLast_rule (fun _ => Triple.any.ignore_bind .skip) fun _ _ _ => trivial)
      fun _ _ => trivial) succeeds_other (.ite (fun _ => succeeds_other) fun _ => .skip) .skip
      fun _ _ => trivial) fun _ _ => trivial
  · refine .pre (reactivate_rule (settled_deactivate.post fun b t ht => ?_) (fun t ht => ht)
      (succeeds_bringUp.pre fun _ _ => trivial) fun _ _ _ h => h.elim) fun t ht => ht.1
    obtain ⟨rfl, -, ht⟩ := ht
    exact congrFun ht _

/-- A request that suits keeps the rules of the live peers. -/
theorem settled_step (s : World) (e : Event)
    (hkeeps : KeepsRules host q s e) (h : Settled host q s) : Settled host q (step host q s e) := by
  obtain ⟨request, rs⟩ := e
  cases request with
  | activate config =>
    have hclean : Clean host q s config rs := hkeeps
    have hpost := (settled_activate h hclean).run_any rs rfl
    rcases hclean.answered with hanswered | ⟨hstrict, halone⟩
    · have hsucceeds : Succeeds host q (Settled host q) (activate utils q config) :=
        succeeds_activate
      have hok := triple_run hsucceeds rfl rs hanswered s h
      exact hpost.of_true (Bool.eq_true_of_not_eq_false fun hfalse => by rwa [hfalse] at hok)
    · exact hpost.elim (fun h => h) fun h => h hstrict halone
  | deactivate => exact (settled_deactivate.run_any rs h).2.1

theorem settled_start : Settled host q (start host) := by
  refine settled_of_live_eq_nil rfl rfl ?_
  have hcreate : RulesOf host q [] create := rulesOf_nil fun _ _ ⟨_, hentry, _⟩ =>
    nomatch hentry
  show RulesOf host q []
    (if host.strict then after (disableAllTraffic host always) create else create)
  split
  · obtain ⟨fw', heq, hsame⟩ := disableAllTraffic_always 1 create
    rw [WindowsFirewall.after, heq]
    exact hcreate.sameRules hsame
  · exact hcreate

/-- In a run whose requests are clean, after each of them the rules of the live peers are those of
their configurations and there are no others. -/
theorem peer_rules_match {es : List Event} (hclean : Trace.Meets (step host q) (KeepsRules host q)
    (start host) es) {reached : List Event} (hreached : reached <+: es) :
    Matches host q (Trace.run (step host q) (start host) reached) :=
  (hclean.invariant settled_step settled_start hreached).matches

/-- A host without the strict kill switch. -/
def openHost : WindowsHost := ⟨false, "", []⟩

/-- A server with this key and addresses that go around the tunnel. -/
def peerConfig (serverPublicKey : String) (excludedAddresses : List String) : InterfaceConfig :=
  { blankConfig with serverPublicKey, excludedAddresses, killSwitchEnabled := true }

/-- A server, and another one in its place. -/
theorem peer_rules_match_sample :
    Matches openHost .plain (Trace.run (step openHost .plain) (start openHost)
      [(.activate (peerConfig "a" ["1.2.3.4"]), []), (.activate (peerConfig "b" []), []),
        (.deactivate, [])]) :=
  have hfirst : Clean openHost .plain (start openHost) (peerConfig "a" ["1.2.3.4"]) [] :=
    ⟨fun h => Bool.noConfusion h, by decide, fun _ hc => (nomatch hc),
      fun _ h => (nomatch h), .inl fun _ h => nomatch h⟩
  have hsecond : Clean openHost .plain
      (step openHost .plain (start openHost) (.activate (peerConfig "a" ["1.2.3.4"]), []))
      (peerConfig "b" []) [] := by
    have hconnected : (step openHost .plain (start openHost)
        (.activate (peerConfig "a" ["1.2.3.4"]), [])).vars.connections .SingleHop
          = some (peerConfig "a" ["1.2.3.4"]) := by rfl
    refine ⟨fun h => Bool.noConfusion h, by decide, fun _ hc => (nomatch hc),
      fun last hlast _ hkey => ?_, .inl fun _ h => nomatch h⟩
    rw [← Option.some.inj (hconnected.symm.trans hlast)] at hkey
    exact absurd hkey (by decide)
  have hclean : Trace.Meets (step openHost .plain) (KeepsRules openHost .plain) (start openHost)
      [(.activate (peerConfig "a" ["1.2.3.4"]), []), (.activate (peerConfig "b" []), []),
        (.deactivate, [])] := ⟨hfirst, hsecond, trivial, trivial⟩
  peer_rules_match hclean (prefix_refl _)

/-- A switch that keeps the key and excludes an address no longer leaves the permit for it. -/
theorem peer_rules_stale :
    ¬Matches openHost .plain (Trace.run (step openHost .plain) (start openHost)
      [(.activate (peerConfig "a" ["1.2.3.4"]), []), (.activate (peerConfig "a" []), [])]) := by
  intro h
  have hlive := h.live (peerConfig "a" []) (mem_singleton.mpr rfl)
    ⟨.permit, highWeight, .connectV4, false, [.remoteRange (.v4 0x01020304#32) (.v4 0x01020304#32)]⟩
  revert hlive
  decide +kernel

end WindowsDaemon

end Dopamine.Windows
