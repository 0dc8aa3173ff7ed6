import Dopamine.Linux.LinuxDaemon
import Dopamine.Linux.TunnelFilter
import Dopamine.Macos.KillSwitch

/-!
# Toggling strict mode while a tunnel is up

The client delivers each change of the strict kill switch to `KillSwitch::refresh`, whether or not a
tunnel is up. Switched on, strict mode adds to the block of the tunnel. Switched off, it takes the
rules of the tunnel down with its own. So the block survives exactly the toggles that switch strict
mode on (`toggles_keep_block_iff`), on Linux and on macOS alike.
-/

namespace Dopamine

/-- What was blocked before the toggles is blocked after each of them. -/
def StillBlocked {σ π : Type} (refresh : σ → Bool → σ) (blocked : σ → π → Prop) (s : σ)
    (toggles : List Bool) : Prop :=
  ∀ reached, reached <+: toggles → ∀ p, blocked s p → blocked (Trace.run refresh s reached) p

section Toggles

variable {σ π : Type} {refresh : σ → Bool → σ} {blocked : σ → π → Prop} {Inv : σ → Prop} {s : σ}

/-- What is blocked all along was never switched off. -/
theorem forall_true_of_blocked (hon : ∀ s, Inv s → Inv (refresh s true))
    (hoff : ∀ s, Inv s → ∀ p, ¬blocked (refresh s false) p) {p : π} {toggles : List Bool}
    (hs : Inv s) (h : ∀ reached, reached <+: toggles → blocked (Trace.run refresh s reached) p) :
    ∀ t ∈ toggles, t = true := by
  induction toggles generalizing s with
  | nil => exact fun t ht => nomatch ht
  | cons t toggles ih =>
    have hfirst : blocked (refresh s t) p := h [t] ⟨toggles, rfl⟩
    cases t with
    | false => exact absurd hfirst (hoff s hs p)
    | true =>
      have hrest : ∀ t ∈ toggles, t = true := ih (hon s hs) fun reached hreached =>
        h (true :: reached) (List.cons_prefix_cons.mpr ⟨rfl, hreached⟩)
      intro t ht
      rcases List.mem_cons.mp ht with rfl | ht
      · rfl
      · exact hrest t ht

/-- When switching on keeps what is blocked and switching off lifts it, a block survives exactly the
toggles that switch on. -/
theorem stillBlocked_iff
    (hon : ∀ s, Inv s → Inv (refresh s true) ∧ ∀ p, blocked s p → blocked (refresh s true) p)
    (hoff : ∀ s, Inv s → ∀ p, ¬blocked (refresh s false) p) (hs : Inv s) (toggles : List Bool) :
    StillBlocked refresh blocked s toggles ↔
      (∀ t ∈ toggles, t = true) ∨ ∀ p, ¬blocked s p := by
  constructor
  · intro h
    by_cases hnone : ∀ p, ¬blocked s p
    · exact .inr hnone
    · obtain ⟨p, hp⟩ := not_forall_not.mp hnone
      exact .inl (forall_true_of_blocked (fun s hs => (hon s hs).1) hoff hs fun reached hreached =>
        h reached hreached p hp)
  · rintro (htrue | hnone) reached hreached p hp
    · have hstep : ∀ s' t, t = true → (Inv s' ∧ blocked s' p) →
          Inv (refresh s' t) ∧ blocked (refresh s' t) p := by
        rintro s' t rfl ⟨hinv, hb⟩
        exact ⟨(hon s' hinv).1, (hon s' hinv).2 p hb⟩
      have hkept : (fun s' => Inv s' ∧ blocked s' p) (Trace.run refresh s reached) :=
        Trace.run_invariant_of_mem hstep ⟨hs, hp⟩ fun t ht => htrue t (hreached.subset ht)
      exact hkept.2
    · exact absurd hp (hnone p)

end Toggles

namespace Linux

open LinuxFirewall KillSwitch WireguardUtilsLinux LinuxDaemon

/-- How the rules of a tunnel are put in place. -/
inductive BringUp where
  /-- `addInterface`, with the kill switch on -/
  | addInterface (config : InterfaceConfig)
  | enableKillSwitch (configStr : JsonObject)

def BringUp.run (q : Platform) (s : Service) : BringUp → Service
  | .addInterface config => applyConfig q config s
  | .enableKillSwitch configStr => KillSwitch.enableKillSwitch q configStr s

/-- The anchors refuse a packet that leaves on no tunnel. -/
def Service.Blocked (s : Service) (p : Packet) : Prop :=
  p.isTunnel = false ∧ s.fw.anchorVerdict p = some .reject

/-- The firewall is installed and loopback traffic passes. -/
def InPlace (q : Platform) (s : Service) : Prop :=
  ∃ x, Holds q s.fw (some x) ∧ ∀ f, x.enabled f .allowLoopback = true

variable {q : Platform} {s : Service} {x : Settings} {o : Option Settings}

theorem inPlace_bringUp (ho : Holds q s.fw o) (b : BringUp) : InPlace q (b.run q s) := by
  cases b with
  | addInterface config =>
    exact ⟨_, holds_applyFirewallRules ho _, fun f => by cases f <;> rfl⟩
  | enableKillSwitch configStr =>
    exact ⟨_, holds_enableKillSwitch ho configStr, fun f => by cases f <;> rfl⟩

theorem inPlace_addAllowedRanges (h : InPlace q s) (lists : List (List String)) :
    InPlace q (addAllowedRanges q lists s) := by
  obtain ⟨x, hx, hlo⟩ := h
  refine holds_addAllowedRanges (P := fun x => ∀ f, x.enabled f .allowLoopback = true) ?_ lists hx
    hlo
  exact fun ranges y hy f => by cases f <;> exact hy _

/-- An anchor decides as before, or now refuses. -/
theorem decides_blockSettings (hlo : ∀ f, x.enabled f .allowLoopback = true) (p : Packet)
    (a : Anchor) :
    (blockSettings x).decides q p a = x.decides q p a ∨
      (blockSettings x).decides q p a = some .reject := by
  have hsame : (blockSettings x).enabled p.dst.family a = x.enabled p.dst.family a →
      (blockSettings x).decides q p a = x.decides q p a := by
    intro h
    have hhits : (blockSettings x).hits q p a = x.hits q p a := by cases a <;> rfl
    rw [Settings.decides, Settings.decides, h, hhits]
  cases a with
  | allowLoopback => exact .inl (hsame (by rw [hlo]; cases p.dst.family <;> rfl))
  | blockAll =>
    refine .inr (Settings.decides_eq_some p ?_ rfl)
    cases p.dst.family <;> rfl
  | blockIPv6 =>
    cases hf : p.dst.family with
    | IPv4 => exact .inl (hsame (by rw [hf]; rfl))
    | IPv6 =>
      cases hhit : x.hits q p .blockIPv6 with
      | false =>
        left
        rw [Settings.decides_eq_none p hhit]
        exact Settings.decides_eq_none p hhit
      | true => exact .inr (Settings.decides_eq_some p (by rw [hf]; rfl) hhit)
  | _ => exact .inl (hsame (by cases p.dst.family <;> rfl))

/-- The first verdict stays `v` when decisions only turn to `v`. -/
theorem findSome?_of_turns {α β : Type*} {g g' : α → Option β} {v : β} {l : List α}
    (h : ∀ a, g' a = g a ∨ g' a = some v) (hg : l.findSome? g = some v) :
    l.findSome? g' = some v := by
  induction l with
  | nil => cases hg
  | cons a l ih =>
    rw [List.findSome?_cons] at hg ⊢
    rcases h a with ha | ha <;> rw [ha]
    cases hga : g a with
    | none =>
      rw [hga] at hg
      exact ih hg
    | some w =>
      rw [hga] at hg
      exact hg

/-- Strict mode switched on keeps the filter in place, and what it refuses. -/
theorem inPlace_refresh_true (h : InPlace q s) :
    InPlace q (refresh q true s) ∧ ∀ p, s.Blocked p → (refresh q true s).Blocked p := by
  obtain ⟨x, hx, hlo⟩ := h
  have hx' := holds_disableAllTraffic (s := { s with strict := true }) hx
  refine ⟨⟨_, hx', fun f => by cases f <;> rfl⟩, fun p hp => ⟨hp.1, ?_⟩⟩
  have hv := hp.2
  rw [hx.anchorVerdict] at hv
  refine (hx'.anchorVerdict p).trans ?_
  exact findSome?_of_turns (decides_blockSettings hlo p) hv

/-- Strict mode switched off uninstalls the firewall. -/
theorem not_blocked_refresh_false (ho : Holds q s.fw o) (p : Packet) :
    ¬(refresh q false s).Blocked p := by
  rintro ⟨-, hv⟩
  have hnone : Holds q (refresh q false s).fw none :=
    holds_disableKillSwitch (s := { s with strict := false }) ho
  rw [FwState.anchorVerdict, Netfilter.Ruleset.verdict, Netfilter.evalChain,
    hnone.rules_eq_nil _ rfl, Netfilter.evalRules_nil] at hv
  cases hv

/-- Toggles on Linux. -/
theorem stillBlocked_linux_iff (h : InPlace q s) (toggles : List Bool) :
    StillBlocked (fun s t => refresh q t s) Service.Blocked s toggles ↔
      (∀ t ∈ toggles, t = true) ∨ ∀ p, ¬s.Blocked p := by
  refine stillBlocked_iff (fun s (hs : InPlace q s) => inPlace_refresh_true hs) ?_ h toggles
  rintro s ⟨x, hx, -⟩ p
  exact not_blocked_refresh_false hx p

end Linux

namespace Macos

/-- The anchors block a packet that leaves on no tunnel. -/
def Service.Blocked (s : Service) (p : Packet) : Prop :=
  p.isTunnel = false ∧ s.fw.anchorVerdict p = some .block

/-- Calls of `addAllowedRange` one after the other. -/
def addAllowedRanges (readTable : List String → Option (List Net)) (lists : List (List String))
    (s : Service) : Service :=
  lists.foldl (fun s ranges => KillSwitch.addAllowedRange readTable ranges s) s

variable {s : Service}

theorem inPlace_addAllowedRanges (readTable : List String → Option (List Net))
    (lists : List (List String)) (h : InPlace s.fw) :
    InPlace (addAllowedRanges readTable lists s).fw := by
  induction lists generalizing s with
  | nil => exact h
  | cons ranges lists ih =>
    refine ih (s := KillSwitch.addAllowedRange readTable ranges s) ?_
    exact h.setAnchorWithTable readTable (by decide) true _

/-- Toggles on macOS. -/
theorem stillBlocked_macos_iff (h : InPlace s.fw) (toggles : List Bool) :
    StillBlocked (fun s t => KillSwitch.refresh t s) Service.Blocked s toggles ↔
      (∀ t ∈ toggles, t = true) ∨ ∀ p, ¬s.Blocked p := by
  refine stillBlocked_iff (fun (s : Service) (hs : InPlace s.fw) => ?_) ?_ h toggles
  · obtain ⟨hplace, hkeep⟩ := inPlace_refresh_true hs
    exact ⟨hplace, fun p hp => ⟨hp.1, hkeep p hp.2⟩⟩
  · rintro s - p ⟨-, hv⟩
    rw [anchorVerdict_refresh_false] at hv
    cases hv

end Macos

/-- A tunnel comes up with its kill switch on, in any state of the daemon or of the packet filter,
and the client may allow ranges after that. What is blocked outside the tunnel stays blocked along
all toggles of strict mode exactly when none of them switches it off, or nothing was blocked. -/
theorem toggles_keep_block_iff {q : Platform} (host : Family → (t : Linux.Table) → Linux.Host t)
    {start : Linux.FwState} (hstart : ∀ f, start.kernel f .filter = (host f .filter).rs)
    (strict : Bool) (es : List Linux.Event) (b : Linux.BringUp) (lists : List (List String))
    (readTable : List String → Option (List Net)) (m : Macos.Service) (b' : Macos.BringUp)
    (lists' : List (List String)) (toggles : List Bool) :
    (StillBlocked (fun s t => Linux.KillSwitch.refresh q t s) Linux.Service.Blocked
        (Linux.KillSwitch.addAllowedRanges q lists
          (b.run q (Linux.LinuxDaemon.runEvents q start strict es).wg.service)) toggles ↔
      (∀ t ∈ toggles, t = true) ∨
        ∀ p, ¬(Linux.KillSwitch.addAllowedRanges q lists
          (b.run q (Linux.LinuxDaemon.runEvents q start strict es).wg.service)).Blocked p) ∧
    (StillBlocked (fun s t => Macos.KillSwitch.refresh t s) Macos.Service.Blocked
        (Macos.addAllowedRanges readTable lists' (b'.run q readTable m)) toggles ↔
      (∀ t ∈ toggles, t = true) ∨
        ∀ p, ¬(Macos.addAllowedRanges readTable lists' (b'.run q readTable m)).Blocked p) := by
  obtain ⟨o, ho⟩ := Linux.LinuxDaemon.inOrder_runEvents (q := q) host hstart strict es
  have hlinux := Linux.inPlace_addAllowedRanges (Linux.inPlace_bringUp ho b) lists
  have hmacos := Macos.inPlace_addAllowedRanges readTable lists'
    (Macos.inPlace_bringUp q readTable m b')
  exact ⟨Linux.stillBlocked_linux_iff hlinux toggles, Macos.stillBlocked_macos_iff hmacos toggles⟩

/-- A macOS machine without rules. -/
def Macos.sampleService : Macos.Service :=
  ⟨⟨[], [], false, fun _ => false, fun _ => [], false, true⟩, false, []⟩

/-- A web request from the physical interface of a macOS machine. -/
def Macos.samplePacket : Macos.Packet := ⟨"en0", .v4 0x08080808#32, .tcp, 40000, 443, ""⟩

/-- The service of a daemon that has started. -/
def Linux.sampleStarted : Linux.Service :=
  (Linux.LinuxDaemon.runEvents .plain Linux.sampleTables false []).wg.service

/-- A tunnel for all traffic comes up. -/
def Linux.sampleFull (s : Linux.Service) : Linux.Service :=
  (Linux.BringUp.addInterface (Linux.sampleConfig [.any4] [])).run .plain s

/-- A tunnel for all traffic comes up on the machine without rules. -/
def Macos.sampleFull : Macos.Service :=
  (Macos.BringUp.addInterface (Linux.sampleConfig [.any4] [])).run .plain (fun _ => none)
    Macos.sampleService

/-- Strict mode switched on twice keeps the block of a full tunnel. -/
theorem toggles_keep_block_sample :
    (Linux.sampleFull Linux.sampleStarted).Blocked (Linux.samplePacket (.v4 0x08080808#32)) ∧
      (Linux.KillSwitch.refresh .plain true (Linux.KillSwitch.refresh .plain true
        (Linux.sampleFull Linux.sampleStarted))).Blocked
          (Linux.samplePacket (.v4 0x08080808#32)) := by
  have hblocked : (Linux.sampleFull Linux.sampleStarted).Blocked
      (Linux.samplePacket (.v4 0x08080808#32)) := ⟨Linux.sample_isTunnel _, by decide +kernel⟩
  have h := (toggles_keep_block_iff (q := .plain)
    (fun f t => (Linux.sampleTables_pristine f t).host)
    (show ∀ f, Linux.sampleTables.kernel f .filter = _ from fun _ => rfl) false []
    (.addInterface (Linux.sampleConfig [.any4] [])) [] (fun _ => none)
    Macos.sampleService (.addInterface (Linux.sampleConfig [.any4] [])) [] [true, true]).1.mpr
      (.inl (by decide))
  exact ⟨hblocked, h [true, true] (List.prefix_refl _) _ hblocked⟩

/-- One toggle off lifts the block of a tunnel that is still up, on both systems. -/
theorem toggle_off_lifts_block :
    ((Linux.sampleFull ⟨Linux.sampleTables, true, []⟩).fw.anchorVerdict
        (Linux.samplePacket (.v4 0x08080808#32)) = some .reject ∧
      (Linux.KillSwitch.refresh .plain false
        (Linux.sampleFull ⟨Linux.sampleTables, true, []⟩)).fw.verdict
          (Linux.samplePacket (.v4 0x08080808#32)) = some .accept) ∧
    Macos.sampleFull.fw.anchorVerdict Macos.samplePacket = some .block ∧
      (Macos.KillSwitch.refresh false Macos.sampleFull).fw.anchorVerdict Macos.samplePacket =
        none := by
  refine ⟨⟨?_, ?_⟩, ?_, ?_⟩ <;> decide +kernel

end Dopamine
