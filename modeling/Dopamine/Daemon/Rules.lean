import Dopamine.Daemon.Daemon

/-!
# Rules for the requests of the daemon

The control flow of `activate` and `deactivate`, once for every platform: a request satisfies a
postcondition when its calls carry the assertions from stage to stage. A stage that fails ends the
request, so each stage has an assertion of its own for success and all share one for failure.
-/

namespace Dopamine.Daemon

open Prog

variable {κ ρ σ τ : Type} {exec : κ → ρ → σ → Bool × σ} {R : ρ → Prop} {u : Utils κ} {q : Platform}
  {config lastConfig : InterfaceConfig}

section Stages

variable {P P₁ P₂ P₃ P₄ P₅ P₆ S F F' : Sys State σ → Prop}

/-- An address that counts already counts once more; another one needs its route first. -/
theorem addExclusionRoute_rule {ip : IPAddress} {M : Sys State σ → Prop}
    {Q : Bool → Sys State σ → Prop}
    (hcount : ∀ s, P s → ip ∈ s.vars.excludedAddrSet →
      Q true { s with vars.excludedAddrSet := ip :: s.vars.excludedAddrSet })
    (hadd : Triple exec R (fun s => P s ∧ ip ∉ s.vars.excludedAddrSet) (u.addExclusionRoute ip)
      (Post M (Q false)))
    (hroute : ∀ s, M s → Q true { s with vars.excludedAddrSet := ip :: s.vars.excludedAddrSet }) :
    Triple exec R P (addExclusionRoute u ip) Q := by
  refine .read_bind fun d => .ite (fun hmem => ?_) fun hmem => ?_
  · exact .modify_bind (fun s hs => hcount s hs.1 (hs.2 ▸ hmem)) .skip
  · refine Triple.guard (hadd.pre fun s hs => ⟨hs.1, ?_⟩) (fun _ h => h)
      (.modify_bind hroute .skip)
    exact hs.2 ▸ hmem

/-- One use of an address less; the route goes with the last use. -/
theorem delExclusionRoute_rule {ip : IPAddress} {Q : Bool → Sys State σ → Prop}
    (hassert : ∀ l, Triple exec R (fun s => P s ∧ s.vars.excludedAddrSet = l)
      (u.qAssert (decide (ip ∈ l))) fun _ s => P₁ s ∧ s.vars.excludedAddrSet = l)
    (hcount : ∀ s, P₁ s → 1 < s.vars.excludedAddrSet.count ip →
      Q true { s with vars.excludedAddrSet := s.vars.excludedAddrSet.erase ip })
    (hlast : ∀ s, P₁ s → s.vars.excludedAddrSet.count ip ≤ 1 →
      P₂ { s with vars.excludedAddrSet := s.vars.excludedAddrSet.erase ip })
    (hdel : Triple exec R P₂ (u.deleteExclusionRoute ip) Q) :
    Triple exec R P (delExclusionRoute u ip) Q := by
  refine .read_bind fun d => ?_
  refine .bind (M := fun _ s => P₁ s ∧ s.vars.excludedAddrSet = d.excludedAddrSet)
    (.ignore ((hassert d.excludedAddrSet).pre fun s hs => ⟨hs.1, by rw [hs.2]⟩)) fun _ => ?_
  -- whether it was the last use was read before the change
  by_cases hmany : 1 < d.excludedAddrSet.count ip
  · rw [if_pos hmany]
    exact .modify_bind (fun s hs => hcount s hs.1 (hs.2 ▸ hmany)) .skip
  · rw [if_neg hmany]
    exact .modify_bind (fun s hs => hlast s hs.1 (hs.2 ▸ not_lt.mp hmany)) hdel

theorem ensureInterface_rule {M : Bool → Sys State σ → Prop}
    (hexists : Triple exec R P u.interfaceExists M) (hthere : ∀ s, M true s → S s)
    (hadd : Triple exec R (M false) (u.addInterface config) (Post S F)) :
    Triple exec R P (ensureInterface u config) (Post S F) := by
  refine hexists.bind fun b => ?_
  cases b with
  | true => exact .return hthere
  | false => exact hadd

/-- The stages after the interface is there. -/
theorem configure_rule
    (hips : Triple exec R P₁ (u.addInterfaceIPs config) (Post P₁ F))
    (hmtu : Triple exec R P₁ (u.setMTUAndUp config) (Post P₁ F))
    (hexclude : Triple exec R P₁ (excludeRoutes u q config) fun _ => P₂)
    (hpeer : Triple exec R P₂ (u.updatePeer config) (Post P₃ F))
    (hresolvers : Triple exec R P₃ (maybeUpdateResolvers u q config) (Post P₄ F))
    (hroutes : Triple exec R P₄ (every u.updateRoutePrefix config.allowedIPAddressRanges)
      (Post P₅ F))
    (hrun : Triple exec R P₅ (u.run .Up config) (Post P₅ F))
    (hconnect : ∀ s, P₅ s → S { s with vars := connect config s.vars }) :
    Triple exec R P₁ (configure u q config) (Post S F) :=
  hips.stage (hmtu.stage (hexclude.bind fun _ =>
    hpeer.stage (hresolvers.stage (hroutes.stage (hrun.stage (.success hconnect))))))

theorem bringUp_rule (hprepare : Triple exec R P (u.prepareActivation config) fun _ => P)
    (hinterface : Triple exec R P (ensureInterface u config) (Post P₁ F))
    (hconfigure : Triple exec R P₁ (configure u q config) (Post S F)) :
    Triple exec R P (bringUp u q config) (Post S F) :=
  hprepare.ignore.bind fun _ => hinterface.stage hconfigure

/-- A peer with the key of the new one stays. -/
theorem removeLast_rule
    (hdelete : config.serverPublicKey ≠ lastConfig.serverPublicKey →
      Triple exec R P (u.deletePeer lastConfig) (Post S F))
    (hkeep : config.serverPublicKey = lastConfig.serverPublicKey → ∀ s, P s → S s) :
    Triple exec R P (removeLast u config lastConfig) (Post S F) :=
  .ite hdelete fun hkey => .return (hkeep (not_not.mp hkey))

/-- The new peer is there before the last one goes. -/
theorem switchServer_rule
    (hadd : Triple exec R P (each (addExclusionRoute u) (excluded q config)) fun _ => P₁)
    (hpeer : Triple exec R P₁ (u.updatePeer config) (Post P₂ F))
    (hroutes : Triple exec R P₂ (every u.updateRoutePrefix config.allowedIPAddressRanges)
      fun _ => P₃)
    (hdel : Triple exec R P₃ (each (delExclusionRoute u) (excluded q lastConfig)) fun _ => P₄)
    (hold : Triple exec R P₄ (each u.deleteRoutePrefix
      (lastConfig.allowedIPAddressRanges.filter (· ∉ config.allowedIPAddressRanges))) fun _ => P₅)
    (hremove : Triple exec R P₅ (removeLast u config lastConfig) (Post P₆ F))
    (hconnect : ∀ s, P₆ s → S { s with vars := connect config s.vars }) :
    Triple exec R P (switchServer u q config lastConfig) (Post S F) :=
  hadd.bind fun _ => hpeer.stage (hroutes.ignore.bind fun _ => hdel.bind fun _ =>
    hold.bind fun _ => hremove.stage (.success hconnect))

theorem switchTo_rule
    (hswitch : Triple exec R P (switchServer u q config lastConfig) (Post P₁ F))
    (hrestore : Triple exec R P₁ u.restoreResolvers (Post P₂ F))
    (hresolvers : Triple exec R P₂ (maybeUpdateResolvers u q config) (Post P₃ F))
    (hrun : Triple exec R P₃ (u.run .Switch config) (Post P₃ F))
    (hconnect : ∀ s, P₃ s → S { s with vars := connect config s.vars }) :
    Triple exec R P (switchTo u q config lastConfig) (Post S F) :=
  hswitch.stage (hrestore.stage (hresolvers.stage (hrun.stage (.success hconnect))))

/-- Any live connection can be the one that is read. -/
theorem runDown_rule (hrun : ∀ config, Triple exec R P (u.run .Down config) fun _ => P) :
    Triple exec R P (runDown u) fun _ => P := by
  refine .bind (M := fun _ => P) (.read fun _ h => h) fun d => ?_
  cases d.live with
  | nil => exact .skip
  | cons config _ => exact hrun config

theorem removeConnection_rule {hop : HopType}
    (hroute : ∀ ip, Triple exec R P (u.deleteRoutePrefix ip) fun _ => P)
    (hpeer : ∀ config, Triple exec R P (u.deletePeer config) fun _ => P) :
    Triple exec R P (removeConnection u hop) fun _ => P := by
  refine .bind (M := fun _ => P) (.read fun s hs => hs) fun d => ?_
  cases d.connections hop with
  | none => exact .skip
  | some config => exact (Triple.each fun ip _ => hroute ip).bind fun _ => hpeer config

/-- A deactivation that is not inside another one. -/
theorem deactivate_rule {Q : Bool → Sys State σ → Prop} (P₁ P₂ P₃ P₄ P₅ : Sys State σ → Prop)
    (M : Bool → Sys State σ → Prop) (hidle : ∀ s, P s → s.vars.deactivating = false)
    (henter : ∀ s, P s → P₁ { s with vars.deactivating := true })
    (hdown : Triple exec R P₁ (runDown u) fun _ => P₁)
    (hrestore : Triple exec R P₁ u.restoreResolvers fun _ => P₂)
    (hremove : Triple exec R P₂ (each (removeConnection u) hops) fun _ => P₃)
    (hroutes : ∀ l : List IPAddress,
      Triple exec R (fun s => P₃ s ∧ s.vars.excludedAddrSet = l)
        (each u.deleteExclusionRoute l.dedup) fun _ => P₄)
    (hclear : ∀ s, P₄ s →
      P₅ { s with vars := ⟨fun _ => none, [], s.vars.deactivating⟩ })
    (hdelete : Triple exec R P₅ u.deleteInterface M)
    (hleave : ∀ b s, M b s → Q b { s with vars.deactivating := false }) :
    Triple exec R P (deactivate u) Q := by
  refine .read_bind fun d => ?_
  refine .ite (fun hdeact s b t hs hr => ?_) fun _ => ?_
  · rw [hs.2, hidle s hs.1] at hdeact
    cases hdeact
  refine .modify_bind (fun s hs => henter s hs.1) ?_
  refine hdown.ignore.bind fun _ => hrestore.ignore.bind fun _ => hremove.bind fun _ => ?_
  refine .read_bind fun d => ?_
  refine .bind ((hroutes d.excludedAddrSet).pre fun s hs => ⟨hs.1, by rw [hs.2]⟩)
    fun _ => .modify_bind hclear ?_
  exact hdelete.bind fun b => .modify_bind (hleave b) .skip

/-- The guard adds what is connected to `activationFailure`. -/
theorem guarded_rule {p : Prog κ State Bool} (hp : Triple exec R P p (Post S F))
    (hfailure : Triple exec R F u.activationFailure fun _ => F') :
    Triple exec R P (guarded u p) (Post S F') := by
  refine hp.bind fun b => ?_
  cases b with
  | true => exact .skip
  | false => exact hfailure.ignore.bind fun _ => .skip

/-- Deactivate, then activate. -/
theorem reactivate_rule (hdeactivate : Triple exec R P (deactivate u) (Post P₁ F'))
    (hnone : ∀ s, P₁ s → s.vars.connections config.hopType = none)
    (hbringUp : Triple exec R P₁ (bringUp u q config) (Post S F))
    (hfailure : Triple exec R F u.activationFailure fun _ => F') :
    Triple exec R P (reactivate u q config) (Post S F') := by
  refine hdeactivate.stage ?_
  refine .read_bind fun d => ?_
  refine .ite (fun hsome s b t hs hr => ?_) fun _ => ?_
  · rw [hs.2, hnone s hs.1] at hsome
    cases hsome
  · exact (guarded_rule hbringUp hfailure).pre fun _ h => h.1

/-- The three ways to activate. -/
theorem activate_rule
    (hbringUp : Triple exec R
      (fun s => P s ∧ s.vars.connections config.hopType = none) (bringUp u q config) (Post S F))
    (hswitch : ∀ lastConfig, supportServerSwitching lastConfig config = true →
      Triple exec R (fun s => P s ∧ s.vars.connections config.hopType = some lastConfig)
        (switchTo u q config lastConfig) (Post S F))
    (hreactivate : ∀ lastConfig, supportServerSwitching lastConfig config = false →
      Triple exec R (fun s => P s ∧ s.vars.connections config.hopType = some lastConfig)
        (reactivate u q config) (Post S F))
    (hfailure : Triple exec R F u.activationFailure fun _ => F') :
    Triple exec R P (activate u q config) (Post S F') := by
  refine .read_bind fun d => ?_
  refine guarded_rule ?_ hfailure
  cases hd : d.connections config.hopType with
  | none => exact hbringUp.pre fun s hs => ⟨hs.1, by rw [← hs.2, hd]⟩
  | some lastConfig =>
    refine .ite (fun hsupport => ?_) fun hsupport => ?_
    · exact (hswitch lastConfig hsupport).pre fun s hs => ⟨hs.1, by rw [← hs.2, hd]⟩
    · exact (hreactivate lastConfig (Bool.eq_false_iff.mpr hsupport)).pre fun s hs => ⟨hs.1, by rw [← hs.2, hd]⟩

end Stages

/-! ## What keeps a view that ignores the counts of excluded addresses -/

section Frames

variable {view : Sys State σ → τ} {ip : IPAddress}

section

variable (hset : ∀ (s : Sys State σ) l, view { s with vars.excludedAddrSet := l } = view s)
include hset

theorem keeps_addExclusionRoute
    (hadd : Keeps exec R view (u.addExclusionRoute ip)) :
    Keeps exec R view (addExclusionRoute u ip) :=
  Keeps.read.bind fun _ =>
    Keeps.ite ((Keeps.modify fun _ => hset ..).bind fun _ => Keeps.return _)
      (hadd.bind fun _ => .ite (.return _)
        ((Keeps.modify fun _ => hset ..).bind fun _ => Keeps.return _))

theorem keeps_delExclusionRoute
    (hassert : ∀ b, Keeps exec R view (u.qAssert b))
    (hdel : Keeps exec R view (u.deleteExclusionRoute ip)) :
    Keeps exec R view (delExclusionRoute u ip) :=
  Keeps.read.bind fun _ => (hassert _).ignore.bind fun _ =>
    (Keeps.modify fun _ => hset ..).bind fun _ => Keeps.ite (Keeps.return _) hdel

theorem keeps_excludeRoutes
    (hadd : ∀ ip, Keeps exec R view (u.addExclusionRoute ip))
    (hlan : ∀ l, Keeps exec R view (u.excludeLocalNetworks l)) :
    Keeps exec R view (excludeRoutes u q config) :=
  (Keeps.each fun ip _ => keeps_addExclusionRoute hset (hadd ip)).bind fun _ =>
    (Keeps.ite (Keeps.return _) (hlan _)).ignore

end

theorem keeps_ensureInterface (hexists : Keeps exec R view u.interfaceExists)
    (hadd : Keeps exec R view (u.addInterface config)) :
    Keeps exec R view (ensureInterface u config) :=
  hexists.bind fun _ => .ite (.return _) hadd

theorem keeps_runDown (hrun : ∀ config, Keeps exec R view (u.run .Down config)) :
    Keeps exec R view (runDown u) :=
  keeps_of_triple fun v => runDown_rule fun config => (hrun config).triple (· = v)

theorem keeps_removeConnection (hroute : ∀ ip, Keeps exec R view (u.deleteRoutePrefix ip))
    (hpeer : ∀ config, Keeps exec R view (u.deletePeer config)) (hop : HopType) :
    Keeps exec R view (removeConnection u hop) :=
  keeps_of_triple fun v => removeConnection_rule (fun ip => (hroute ip).triple (· = v))
    fun config => (hpeer config).triple (· = v)

end Frames

end Dopamine.Daemon
