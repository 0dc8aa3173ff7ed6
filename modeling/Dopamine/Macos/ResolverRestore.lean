import Dopamine.Macos.MacosDaemon

/-!
# The resolvers come back

Every service gets its own DNS dictionary back when the resolvers are restored after requests that
never override them twice in a row. A second override would save our own dictionary as the backup:
the daemon makes one when it activates a hop that is not connected while a backup is held, because
an activation failed after `updateResolvers`, or because another hop is connected.
-/

namespace Dopamine.Macos.MacosDaemon

open Prog Daemon DnsUtilsMacos

variable {q : Platform} {dns₀ : DnsState}

/-- Every service is backed up, and nothing else has changed. -/
structure Saved (dns₀ dns : DnsState) : Prop where
  services : dns.services = dns₀.services
  backup : ∀ u, u ∈ dns₀.services ∧ u ≠ "" →
    dns.prevServices u = some (DnsBackup.ofConfig (dns₀.store u))
  rest : ∀ u, ¬(u ∈ dns₀.services ∧ u ≠ "") →
    dns.prevServices u = none ∧ dns.store u = dns₀.store u

/-- The services have dictionaries that a backup can keep, and none is held. -/
structure Restorable (dns₀ : DnsState) : Prop where
  nodup : dns₀.services.Nodup
  unsaved : dns₀.prevServices = fun _ => none
  plain : ∀ u ∈ dns₀.services, ∀ dict, dns₀.store u = some dict → Plain dict

theorem saved_updateResolvers (h : Restorable dns₀) (resolvers : List HostAddress) :
    Saved dns₀ (updateResolvers q resolvers dns₀) where
  services := updateResolvers_services q resolvers
  backup u hu := (foldl_setService h.nodup u).2.trans (if_pos hu)
  rest u hu :=
    ⟨((foldl_setService h.nodup u).2.trans (if_neg hu)).trans (congrFun h.unsaved u),
      (foldl_setService h.nodup u).1.trans (if_neg hu)⟩

theorem restoreResolvers_original (h : Restorable dns₀) : restoreResolvers dns₀ = dns₀ := by
  obtain ⟨services, store, prev⟩ := dns₀
  obtain rfl : prev = fun _ => none := h.unsaved
  rfl

theorem restored_eq (h : Restorable dns₀) {u : String} (hu : u ∈ dns₀.services) :
    (DnsBackup.ofConfig (dns₀.store u)).restored = dns₀.store u := by
  cases hstore : dns₀.store u with
  | none => rfl
  | some dict => exact (restored_backup_iff dict).mpr (h.plain u hu dict hstore)

theorem restoreResolvers_saved (h : Restorable dns₀) {dns : DnsState} (hsaved : Saved dns₀ dns) :
    restoreResolvers dns = dns₀ := by
  have hstore : (restoreResolvers dns).store = dns₀.store := by
    funext u
    unfold restoreResolvers
    by_cases hu : u ∈ dns₀.services ∧ u ≠ ""
    · dsimp only
      rw [hsaved.backup u hu]
      exact restored_eq h hu.1
    · dsimp only
      rw [(hsaved.rest u hu).1]
      exact (hsaved.rest u hu).2
  obtain ⟨services, store, prev⟩ := dns₀
  obtain rfl : prev = fun _ => none := h.unsaved
  show DnsState.mk dns.services (restoreResolvers dns).store _ = _
  rw [hsaved.services, hstore]

/-! ## What the requests do to the resolvers -/

/-- The resolvers, and whether a deactivation is in progress. -/
def view (s : World) : Bool × DnsState := (s.vars.deactivating, s.env.dns)

/-- The resolvers are those of the host. -/
def Own (dns₀ : DnsState) (v : Bool × DnsState) : Prop := v.1 = false ∧ v.2 = dns₀

/-- The resolvers are those of the host, or ours with a backup of them. -/
def Held (dns₀ : DnsState) (v : Bool × DnsState) : Prop :=
  v.1 = false ∧ (v.2 = dns₀ ∨ Saved dns₀ v.2)

variable {v : Bool × DnsState}

theorem Own.held (h : Own dns₀ v) : Held dns₀ v := ⟨h.1, .inl h.2⟩

theorem restoreResolvers_held (h : Restorable dns₀) (hv : Held dns₀ v) :
    restoreResolvers v.2 = dns₀ := by
  rcases hv.2 with heq | hsaved
  · rw [heq, restoreResolvers_original h]
  · exact restoreResolvers_saved h hsaved

section Requests

variable {config lastConfig : InterfaceConfig} {c : Call}

/-- A program that leaves the resolvers alone. -/
abbrev Quiet {α : Type} (q : Platform) (p : Prog Call Daemon.State α) : Prop :=
  Keeps (exec q) (fun _ => True) view p

theorem keeps_perform (h : ∀ r s, (exec q c r s).2.dns = s.dns) : Quiet q (perform c) :=
  .perform fun s r => by
    unfold view
    rw [h]

theorem keeps_onMonitor {f : Reply → List IPAddress → Bool × List IPAddress}
    (h : ∀ r s, exec q c r s = onMonitor (f r) s) : Quiet q (perform c) :=
  keeps_perform fun r s => by rw [h]; rfl

theorem keeps_other : Quiet q (perform .other) := keeps_perform fun _ _ => rfl

theorem keeps_view_addExclusionRoute (ip : IPAddress) : Quiet q (addExclusionRoute utils ip) :=
  keeps_addExclusionRoute (fun _ _ => rfl) (keeps_onMonitor fun _ _ => rfl)

theorem keeps_view_delExclusionRoute (ip : IPAddress) : Quiet q (delExclusionRoute utils ip) :=
  keeps_delExclusionRoute (fun _ _ => rfl) (fun _ => keeps_perform fun _ _ => rfl)
    (keeps_onMonitor fun _ _ => rfl)

/-- Whatever fails, a backup of the resolvers is held if they are not those of the host. -/
abbrev EndsHeld (q : Platform) (dns₀ : DnsState) (P : World → Prop)
    (p : Prog Call Daemon.State Bool) : Prop :=
  Triple (exec q) (fun _ => True) P p
    (Post (fun s => Held dns₀ (view s)) fun s => Held dns₀ (view s))

theorem restoreResolvers_triple (h : Restorable dns₀) :
    Triple (exec q) (fun _ => True) (fun s => Held dns₀ (view s)) utils.restoreResolvers
      (Post (fun s => Own dns₀ (view s)) fun s => Held dns₀ (view s)) :=
  .perform fun _ _ _ hs => ⟨hs.1, restoreResolvers_held h hs⟩

/-- From resolvers of the host, an update keeps a backup of them. -/
theorem maybeUpdateResolvers_triple (h : Restorable dns₀) :
    EndsHeld q dns₀ (fun s => Own dns₀ (view s)) (maybeUpdateResolvers utils q config) := by
  refine .ite (fun _ => .perform fun s r _ hs => ?_) fun _ =>
    .return fun _ hs => hs.held
  obtain ⟨hidle, rfl⟩ := hs
  refine post_same (I := fun s => Held _ (view s)) ⟨hidle, ?_⟩
  obtain ⟨ok, -, -⟩ := r
  cases ok with
  | true => exact .inr (saved_updateResolvers h _)
  | false => exact .inl rfl

/-- An activation of a hop without resolvers of its own never overrides them. -/
theorem maybeUpdateResolvers_entry (hentry : config.hopType = .MultiHopEntry) :
    Quiet q (maybeUpdateResolvers utils q config) := by
  unfold maybeUpdateResolvers
  rw [if_neg (by rw [hentry]; rintro (h | h) <;> exact HopType.noConfusion h)]
  exact .return _

/-- Bringing up the interface of a hop keeps what its update of the resolvers keeps. -/
theorem bringUp_triple {I : Bool × DnsState → Prop} (hI : ∀ v, I v → Held dns₀ v)
    (hupdate : EndsHeld q dns₀ (fun s => I (view s)) (maybeUpdateResolvers utils q config)) :
    EndsHeld q dns₀ (fun s => I (view s)) (bringUp utils q config) := by
  have hfail : ∀ s : World, I (view s) → Held dns₀ (view s) :=
    fun s => hI (view s)
  have hinterface : Quiet q (ensureInterface utils config) :=
    keeps_ensureInterface (keeps_perform fun _ _ => rfl) (keeps_perform fun _ _ => rfl)
  have hexclude : Quiet q (excludeRoutes utils q config) :=
    keeps_excludeRoutes (fun _ _ => rfl) (fun _ => keeps_onMonitor fun _ _ => rfl)
      fun _ => keeps_other
  have hpeer : Quiet q (utils.updatePeer config) := keeps_perform fun _ _ => rfl
  have hroutes : Quiet q (every utils.updateRoutePrefix config.allowedIPAddressRanges) :=
    .every fun _ _ => keeps_other
  exact bringUp_rule .skip (hinterface.post hfail)
    (configure_rule (keeps_other.post hfail) (keeps_other.post hfail) (hexclude.triple I)
      (hpeer.post hfail) hupdate (hroutes.post fun _ h => h) .skip fun _ h => h)

/-- From resolvers of the host. -/
theorem bringUp_own (h : Restorable dns₀) :
    EndsHeld q dns₀ (fun s => Own dns₀ (view s)) (bringUp utils q config) :=
  bringUp_triple (fun _ h => h.held) (maybeUpdateResolvers_triple h)

theorem deactivate_triple (h : Restorable dns₀) :
    Triple (exec q) (fun _ => True) (fun s => Held dns₀ (view s)) (deactivate utils)
      (Post (fun s => Own dns₀ (view s) ∧ s.vars.connections = fun _ => none)
        fun s => Held dns₀ (view s)) := by
  have hdown : Quiet q (runDown utils) := keeps_runDown fun _ => .return true
  have hremove : Quiet q (each (removeConnection utils) hops) :=
    .each fun hop _ => keeps_removeConnection (fun _ => keeps_other)
      (fun _ => keeps_perform fun _ _ => rfl) hop
  have hroutes : ∀ l : List IPAddress, Quiet q (each utils.deleteExclusionRoute l) :=
    fun l => .each fun _ _ => keeps_onMonitor fun _ _ => rfl
  refine deactivate_rule (fun s => Held dns₀ (false, s.env.dns)) (fun s => s.env.dns = dns₀)
    (fun s => s.env.dns = dns₀) (fun s => s.env.dns = dns₀)
    (fun s => s.env.dns = dns₀ ∧ s.vars.connections = fun _ => none)
    (fun _ s => s.env.dns = dns₀ ∧ s.vars.connections = fun _ => none) (fun s hs => hs.1)
    (fun s hs => ⟨rfl, hs.2⟩) (hdown.triple fun v => Held dns₀ (false, v.2))
    (.perform fun s _ _ hs => restoreResolvers_held h hs)
    (hremove.triple fun v => v.2 = dns₀) (fun l => ?_) (fun s hs => ⟨hs, rfl⟩)
    (.perform fun s _ _ hs => hs) fun b s hs => ?_
  · exact ((hroutes l.dedup).triple fun v => v.2 = dns₀).pre fun _ hs => hs.1
  · cases b with
    | true => exact ⟨⟨rfl, hs.1⟩, hs.2⟩
    | false => exact ⟨rfl, .inl hs.1⟩

theorem switchTo_triple (h : Restorable dns₀) :
    EndsHeld q dns₀ (fun s => Held dns₀ (view s)) (switchTo utils q config lastConfig) := by
  have hadd : Quiet q (each (addExclusionRoute utils) (excluded q config)) :=
    .each fun ip _ => keeps_view_addExclusionRoute ip
  have hdel : Quiet q (each (delExclusionRoute utils) (excluded q lastConfig)) :=
    .each fun ip _ => keeps_view_delExclusionRoute ip
  have hpeer : ∀ c : Call, (∀ r s, (exec q c r s).2.dns = s.dns) → Quiet q (perform c) :=
    fun _ => keeps_perform
  have hroutes : ∀ l : List IPAddress, Quiet q (every utils.updateRoutePrefix l) :=
    fun l => .every fun _ _ => keeps_other
  have hold : ∀ l : List IPAddress, Quiet q (each utils.deleteRoutePrefix l) :=
    fun l => .each fun _ _ => keeps_other
  refine switchTo_rule (switchServer_rule (hadd.triple _)
    ((hpeer (.updatePeer config) fun _ _ => rfl).post fun _ h => h)
    ((hroutes _).triple _) (hdel.triple _) ((hold _).triple _)
    (removeLast_rule (fun _ => (hpeer (.deletePeer lastConfig) fun _ _ => rfl).post fun _ h => h)
      fun _ _ h => h) fun _ h => ?_) (restoreResolvers_triple h) (maybeUpdateResolvers_triple h)
    .skip fun _ h => h
  exact h

/-- A hop that is not connected is activated only when no backup is held. A connected one is
switched or deactivated first, and either restores the resolvers. -/
def Suits (s : World) (e : Event) : Prop :=
  match e.1 with
  | .activate config =>
      s.vars.connections config.hopType = none → config.hopType ≠ .MultiHopEntry →
        s.env.dns.prevServices = fun _ => none
  | .deactivate => True

/-- Resolvers of which no backup is held are those of the host. -/
theorem Held.own (h : Restorable dns₀) {v : Bool × DnsState} (hv : Held dns₀ v)
    (hprev : v.2.prevServices = fun _ => none) : Own dns₀ v := by
  refine ⟨hv.1, ?_⟩
  rcases hv.2 with heq | hsaved
  · exact heq
  -- with a backup of every service there is no service
  rw [← restoreResolvers_saved h hsaved]
  obtain ⟨deact, services, store, prev⟩ := v
  obtain rfl : prev = fun _ => none := hprev
  rfl

theorem activate_triple (h : Restorable dns₀) :
    EndsHeld q dns₀ (fun s => Held dns₀ (view s) ∧ ∀ rs, Suits s (.activate config, rs))
      (activate utils q config) := by
  refine activate_rule ?_ (fun lastConfig _ => ?_) (fun lastConfig _ => ?_)
    .skip
  · -- an entry hop never overrides the resolvers; another one finds no backup
    by_cases hentry : config.hopType = .MultiHopEntry
    · have hupdate := (maybeUpdateResolvers_entry (q := q) hentry).post
        (I := Held dns₀) (F := fun s => Held dns₀ (view s)) fun _ h => h
      exact (bringUp_triple (fun _ h => h) hupdate).pre fun _ hs => hs.1.1
    · exact (bringUp_own h).pre (fun s hs => hs.1.1.own h (hs.1.2 [] hs.2 hentry))
  · exact (switchTo_triple h).pre fun _ hs => hs.1.1
  · exact (reactivate_rule (deactivate_triple h) (fun s hs => by rw [hs.2])
      ((bringUp_own h).pre fun _ hs => hs.1)
      .skip).pre fun _ hs => hs.1.1

end Requests

/-- A request that suits keeps the resolvers in hand. -/
theorem held_step (h : Restorable dns₀) (s : World) (e : Event)
    (hsuits : Suits s e) (hs : Held dns₀ (view s)) : Held dns₀ (view (step q s e)) := by
  obtain ⟨request, rs⟩ := e
  cases request with
  | activate config =>
    have hpost := (activate_triple (q := q) h).run_any rs ⟨hs, fun _ => hsuits⟩
    exact hpost.same
  | deactivate =>
    have hpost := (deactivate_triple (q := q) h).run_any rs hs
    exact hpost.elim (fun h => h.1.held) fun h => h

/-- The resolvers are restored after any requests of which each one suits: every service has its own
DNS dictionary again, or none if it had none. -/
theorem resolvers_restored (h : Restorable dns₀) {es : List Event}
    (hsuits : Trace.Meets (step q) Suits (init dns₀) es) {reached : List Event}
    (hreached : reached <+: es) (u : String) :
    (restoreResolvers (Trace.run (step q) (init dns₀) reached).env.dns).store u = dns₀.store u := by
  have hheld := hsuits.invariant (held_step h) ⟨rfl, .inl rfl⟩ hreached
  exact congrArg (fun dns => dns.store u) (restoreResolvers_held h hheld)

/-- A host with one service, which has a domain of its own. -/
def sampleDns : DnsState where
  services := ["A"]
  store u := if u = "A" then
      some fun name => if name = domainName then some (.string "home") else none
    else none
  prevServices _ := none

/-- A tunnel for all traffic. -/
def sampleRequest : Request :=
  .activate { blankConfig with primaryDnsServer := "1.1.1.1", allowedIPAddressRanges := [.any4] }

theorem restorable_sampleDns : Restorable sampleDns where
  nodup := List.nodup_singleton _
  unsaved := rfl
  plain u hu dict hdict := by
    obtain rfl : u = "A" := List.mem_singleton.mp hu
    obtain rfl : (fun name => if name = domainName then some (.string "home") else none) = dict :=
      Option.some.inj hdict
    have hlist : ∀ name, name = searchDomains ∨ name = serverAddresses ∨ name = sortList →
        name ≠ domainName := by
      rintro name (rfl | rfl | rfl) <;> decide
    refine ⟨fun name hname => .inl ?_, ⟨domainName, by decide⟩, fun v hv => ?_,
      fun name hname v hv => ?_⟩
    · by_contra hne
      exact hname (if_neg hne)
    · exact ⟨"home", (Option.some.inj ((if_pos rfl).symm.trans hv)).symm, by decide, by decide⟩
    · rw [if_neg (hlist name hname)] at hv
      cases hv

/-- An activation and a deactivation. -/
theorem resolvers_restored_sample :
    (restoreResolvers (Trace.run (step .plain) (init sampleDns)
      [(sampleRequest, []), (.deactivate, [])]).env.dns).store "A" = sampleDns.store "A" :=
  have hsuits : Trace.Meets (step .plain) Suits (init sampleDns)
      [(sampleRequest, []), (.deactivate, [])] := ⟨fun _ _ => rfl, trivial, trivial⟩
  resolvers_restored restorable_sampleDns hsuits (List.prefix_refl _) "A"

/-- An activation whose last route fails, and another attempt: the second one backs up our own
resolvers, and they stay after the resolvers are restored. -/
theorem resolvers_lost :
    (restoreResolvers (Trace.run (step .plain) (init sampleDns)
      [(sampleRequest, List.replicate 7 default ++ [⟨false, true, true⟩]),
        (sampleRequest, [])]).env.dns).store "A" ≠ sampleDns.store "A" := by
  intro h
  have hservers := congrArg (fun config => config.bind fun dict : Dict => dict serverAddresses) h
  revert hservers
  decide +kernel

end Dopamine.Macos.MacosDaemon
