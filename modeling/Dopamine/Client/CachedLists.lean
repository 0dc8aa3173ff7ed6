import Dopamine.Net.Address
import Dopamine.Trace.Runs
import Mathlib.Data.List.Nodup

/-!
# Lists that models keep beside the settings

`LocalSubnetExclusionsModel` and `SplitPresetsModel` read their lists from the settings once, when
they are made, and write all of them back at every edit. Restoring a backup and resetting the
settings (`SettingsController`) change the settings, and do not tell the two models. The model of
subnets tells texts apart that differ in case only, as those of IPv6 addresses with a scope id can,
and the settings do not. `lists_agree_iff` says for which runs they agree with the settings.
-/

namespace Dopamine.Client

open List Trace

/-- How a subnet is written: `address.toString() + '/' + QString::number(prefix)`. -/
def subnetText (q : Platform) (address : HostAddress) (length : ℤ) : String :=
  address.toString q ++ "/" ++ String.ofList (intChars length)

/-- An entry as `normalizeSubnetExclusions` writes it, if it is a subnet and not all addresses. -/
def canonicalSubnet (q : Platform) (rawEntry : String) : Option String :=
  let entry := String.ofList (trimmed rawEntry.toList)
  if entry = "" then none
  else
    let parsed := q.parseSubnet entry
    let maxPrefix : ℤ := if parsed.1.isIPv6 then 128 else 32
    if parsed.1 = .null ∨ parsed.2 < 1 ∨ maxPrefix < parsed.2 then none
    else some (subnetText q parsed.1 parsed.2)

/-- What Qt does with the texts of subnets. It reads what it wrote as it was. -/
structure SubnetTexts where
  platform : Platform
  toLower : String → String
  canonical_canonical : ∀ {entry text}, canonicalSubnet platform entry = some text →
    canonicalSubnet platform text = some text

namespace SubnetTexts

variable (q : SubnetTexts)

/-- An entry on the platform. -/
def canonical (entry : String) : Option String := canonicalSubnet q.platform entry

/-- The loop of `normalizeSubnetExclusions`, with what is there so far. -/
def addNormalized (normalized : List String) (entry : String) : List String :=
  match q.canonical entry with
  | none => normalized
  | some text =>
      if q.toLower text ∈ normalized.map q.toLower then normalized else normalized ++ [text]

def normalizeSubnetExclusions (raw : List String) : List String := raw.foldl q.addNormalized []

/-- A list that is normalized. -/
structure Normal (l : List String) : Prop where
  canonical : ∀ text ∈ l, q.canonical text = some text
  nodup : (l.map q.toLower).Nodup

variable {q} {l l' : List String}

theorem Normal.sublist (h : q.Normal l) (hsub : l' <+ l) : q.Normal l' :=
  ⟨fun text htext => h.1 text (hsub.subset htext), h.2.sublist (hsub.map _)⟩

theorem normal_append (h : q.Normal l) (h' : q.Normal l') :
    q.Normal (l ++ l') ↔ ∀ text ∈ l', q.toLower text ∉ l.map q.toLower := by
  constructor
  · intro hnormal text htext hmem
    have hnodup := hnormal.nodup
    rw [map_append] at hnodup
    exact disjoint_of_nodup_append hnodup hmem (mem_map_of_mem htext)
  · intro hnew
    refine ⟨fun text htext => (mem_append.mp htext).elim (h.1 text) (h'.1 text), ?_⟩
    rw [map_append]
    refine h.nodup.append h'.nodup fun lower hl hl' => ?_
    obtain ⟨text, htext, rfl⟩ := mem_map.mp hl'
    exact hnew text htext hl

theorem normal_singleton {text : String} (h : q.canonical text = some text) : q.Normal [text] :=
  ⟨fun _ ht => mem_singleton.mp ht ▸ h, nodup_singleton _⟩

theorem Normal.addNormalized (h : q.Normal l) (entry : String) :
    q.Normal (q.addNormalized l entry) := by
  cases htext : q.canonical entry with
  | none => rwa [SubnetTexts.addNormalized, htext]
  | some text =>
    simp only [SubnetTexts.addNormalized, htext]
    split_ifs with hmem
    · exact h
    · exact (normal_append h (normal_singleton (q.canonical_canonical htext))).mpr fun _ ht =>
        mem_singleton.mp ht ▸ hmem

theorem normal_normalizeSubnetExclusions (raw : List String) :
    q.Normal (q.normalizeSubnetExclusions raw) :=
  foldlRecOn raw _ ⟨fun _ h => absurd h not_mem_nil, nodup_nil⟩ fun _ h entry _ =>
    h.addNormalized entry

/-- What is normalized stays as it is. -/
theorem Normal.normalizeSubnetExclusions_eq (h : q.Normal l) :
    q.normalizeSubnetExclusions l = l := by
  have hfold : ∀ done rest, q.Normal (done ++ rest) →
      rest.foldl q.addNormalized done = done ++ rest := by
    intro done rest hnormal
    induction rest generalizing done with
    | nil => exact (append_nil _).symm
    | cons text rest ih =>
      have htext : q.canonical text = some text := hnormal.1 text (by simp)
      have hnew : q.toLower text ∉ done.map q.toLower := fun hmem => by
        have hnodup := hnormal.nodup
        rw [map_append] at hnodup
        exact disjoint_of_nodup_append hnodup hmem mem_cons_self
      have hadd : q.addNormalized done text = done ++ [text] := by
        simp only [SubnetTexts.addNormalized, htext, if_neg hnew]
      rw [foldl_cons, hadd, ih (done ++ [text]), append_assoc]
      · rfl
      · rwa [append_assoc]
  exact hfold [] l h

end SubnetTexts

/-- The two lists of the settings, and those of the models. `enabledPresets` is a `QSet`. -/
structure CachedLists where
  localSubnetExclusions : List String
  splitPresetsEnabled : List String
  subnets : List String
  enabledPresets : List String

namespace CachedLists

variable (q : SubnetTexts)

/-- The models are made. -/
def initial (localSubnetExclusions splitPresetsEnabled : List String) : CachedLists where
  localSubnetExclusions := localSubnetExclusions
  splitPresetsEnabled := splitPresetsEnabled
  subnets := q.normalizeSubnetExclusions localSubnetExclusions
  enabledPresets := splitPresetsEnabled

/-- What the user does. A preset is given by the id in its row, if there is such a row, and a backup
by the two lists in it, if it has them. A backup that is corrupted has none. -/
inductive Op where
  | addSubnet (subnet : String)
  | addSubnets (subnets : List String) (replaceExisting : Bool)
  | removeSubnet (row : ℕ)
  | removeSubnets
  | setPresetEnabled (id : Option String) (enabled : Bool)
  | restoreAppConfig (localSubnetExclusions splitPresetsEnabled : Option (List String))
  | clearSettings

variable (s : CachedLists)

/-- `persist`, with new subnets. -/
def persist (subnets : List String) : CachedLists :=
  { s with
    subnets
    localSubnetExclusions := q.normalizeSubnetExclusions subnets }

def addMissing (l : List String) (subnet : String) : List String :=
  if subnet ∈ l then l else l ++ [subnet]

def addSubnet (subnet : String) : CachedLists :=
  match q.normalizeSubnetExclusions [subnet] with
  | [] => s
  | value :: _ => if value ∈ s.subnets then s else s.persist q (s.subnets ++ [value])

def setPresetEnabled (id : String) (enabled : Bool) : CachedLists :=
  if decide (id ∈ s.enabledPresets) = enabled then s
  else
    let enabledPresets :=
      if enabled then id :: s.enabledPresets else s.enabledPresets.filter (· ≠ id)
    { s with enabledPresets, splitPresetsEnabled := enabledPresets }

def step : Op → CachedLists
  | .addSubnet subnet => s.addSubnet q subnet
  | .addSubnets subnets replaceExisting => s.persist q
      ((q.normalizeSubnetExclusions subnets).foldl addMissing
        (if replaceExisting then [] else s.subnets))
  | .removeSubnet row => if row < s.subnets.length then s.persist q (s.subnets.eraseIdx row) else s
  | .removeSubnets => if s.subnets = [] then s else s.persist q []
  | .setPresetEnabled id enabled => id.elim s (s.setPresetEnabled · enabled)
  | .restoreAppConfig subnets presets =>
      { s with
        localSubnetExclusions := subnets.getD s.localSubnetExclusions
        splitPresetsEnabled := presets.getD s.splitPresetsEnabled }
  | .clearSettings => { s with localSubnetExclusions := [], splitPresetsEnabled := [] }

/-- The lists of the models are those of the settings. -/
structure Agrees : Prop where
  subnets : s.subnets = q.normalizeSubnetExclusions s.localSubnetExclusions
  presets : ∀ id, id ∈ s.enabledPresets ↔ id ∈ s.splitPresetsEnabled

/-- Other lists of the settings would be read in the same way. -/
def Stays (subnets presets : List String) : Prop :=
  q.normalizeSubnetExclusions subnets = q.normalizeSubnetExclusions s.localSubnetExclusions ∧
    ∀ id, id ∈ presets ↔ id ∈ s.splitPresetsEnabled

/-- A text that is in a list in another case is in it. -/
def NoVariant (l texts : List String) : Prop :=
  ∀ text ∈ texts, q.toLower text ∈ l.map q.toLower → text ∈ l

/-- No subnet is added that is there in another case. A backup has the lists of the settings, and
settings are reset if they have no lists. -/
def Keeps : Op → Prop
  | .addSubnet subnet => NoVariant q s.subnets (q.normalizeSubnetExclusions [subnet])
  | .addSubnets subnets replaceExisting =>
      NoVariant q (if replaceExisting then [] else s.subnets) (q.normalizeSubnetExclusions subnets)
  | .restoreAppConfig subnets presets => s.Stays q (subnets.getD s.localSubnetExclusions)
      (presets.getD s.splitPresetsEnabled)
  | .clearSettings => s.Stays q [] []
  | _ => True

variable {q} {s : CachedLists}

theorem Agrees.normal (h : s.Agrees q) : q.Normal s.subnets :=
  h.subnets ▸ SubnetTexts.normal_normalizeSubnetExclusions _

/-- What is written is read back exactly if it is normal. -/
theorem agrees_persist_iff (h : s.Agrees q) {subnets : List String} :
    (s.persist q subnets).Agrees q ↔ q.Normal subnets := by
  have hread := (SubnetTexts.normal_normalizeSubnetExclusions (q := q)
    (q.normalizeSubnetExclusions subnets))
  refine ⟨fun hagrees => ?_, fun hnormal => ⟨?_, h.presets⟩⟩
  · have hsubnets : subnets = _ := hagrees.subnets
    rw [hsubnets]
    exact hread
  · rw [persist, hnormal.normalizeSubnetExclusions_eq, hnormal.normalizeSubnetExclusions_eq]

/-- Different texts are added behind the others. -/
theorem foldl_addMissing {texts : List String} (h : texts.Nodup) (l : List String) :
    texts.foldl addMissing l = l ++ texts.filter (· ∉ l) := by
  induction texts generalizing l with
  | nil => exact (append_nil _).symm
  | cons text texts ih =>
    obtain ⟨hnot, hnodup⟩ := nodup_cons.mp h
    rw [foldl_cons, ih hnodup, addMissing, filter_cons]
    by_cases hmem : text ∈ l
    · simp [hmem]
    · have hsame : texts.filter (· ∉ l ++ [text]) = texts.filter (· ∉ l) :=
        filter_congr fun t ht => by
          have hne : t ≠ text := fun heq => hnot (heq ▸ ht)
          simp [hne]
      rw [if_neg hmem, hsame, append_assoc]
      simp [hmem]

/-- New texts can be added if they are not there in another case. -/
theorem normal_append_filter_iff {l texts : List String} (h : q.Normal l)
    (htexts : q.Normal texts) :
    q.Normal (l ++ texts.filter (· ∉ l)) ↔ NoVariant q l texts := by
  rw [SubnetTexts.normal_append h (htexts.sublist filter_sublist)]
  refine ⟨fun hnew text htext hlower => ?_, fun hvariant text htext hlower => ?_⟩
  · by_contra hmem
    exact hnew text (mem_filter.mpr ⟨htext, decide_eq_true hmem⟩) hlower
  · obtain ⟨htext, hmem⟩ := mem_filter.mp htext
    exact of_decide_eq_true hmem (hvariant text htext hlower)

theorem agrees_stored_iff (h : s.Agrees q) (subnets presets : List String) :
    Agrees q { s with localSubnetExclusions := subnets, splitPresetsEnabled := presets } ↔
      s.Stays q subnets presets := by
  constructor
  · intro h'
    exact ⟨h'.subnets.symm.trans h.subnets, fun id => (h'.presets id).symm.trans (h.presets id)⟩
  · intro h'
    exact ⟨h.subnets.trans h'.1.symm, fun id => (h.presets id).trans (h'.2 id).symm⟩

theorem agrees_addSubnet_iff (h : s.Agrees q) (subnet : String) :
    (s.addSubnet q subnet).Agrees q ↔
      NoVariant q s.subnets (q.normalizeSubnetExclusions [subnet]) := by
  have hone := SubnetTexts.normal_normalizeSubnetExclusions (q := q) [subnet]
  have hiff := normal_append_filter_iff h.normal hone
  rw [addSubnet]
  cases hvalues : q.normalizeSubnetExclusions [subnet] with
  | nil => exact iff_of_true h fun _ ht => nomatch ht
  | cons value rest =>
    have hrest : rest = [] := by
      unfold SubnetTexts.normalizeSubnetExclusions SubnetTexts.addNormalized at hvalues
      rw [foldl_cons, foldl_nil] at hvalues
      split at hvalues
      · cases hvalues
      · exact (cons.inj hvalues).2.symm
    rw [hvalues, hrest] at hiff
    rw [hrest]
    by_cases hmem : value ∈ s.subnets
    · simp only [if_pos hmem]
      exact iff_of_true h fun text ht _ => mem_singleton.mp ht ▸ hmem
    · rw [← hiff]
      simp only [if_neg hmem, agrees_persist_iff h]
      simp [hmem]

theorem step_agrees_iff (h : s.Agrees q) (op : Op) : (s.step q op).Agrees q ↔ s.Keeps q op := by
  have hnormal := h.normal
  have hnil : q.Normal [] := hnormal.sublist (nil_sublist _)
  cases op with
  | addSubnet subnet => exact agrees_addSubnet_iff h subnet
  | addSubnets subnets replaceExisting =>
    have hbase : q.Normal (if replaceExisting then [] else s.subnets) := by
      split_ifs <;> assumption
    have htexts := SubnetTexts.normal_normalizeSubnetExclusions (q := q) subnets
    rw [step, agrees_persist_iff h, foldl_addMissing (List.Nodup.of_map _ htexts.nodup)]
    exact normal_append_filter_iff hbase htexts
  | removeSubnet row =>
    refine iff_of_true ?_ trivial
    rw [step]
    split_ifs
    · exact (agrees_persist_iff h).mpr (hnormal.sublist (eraseIdx_sublist ..))
    · exact h
  | removeSubnets =>
    refine iff_of_true ?_ trivial
    rw [step]
    split_ifs
    · exact h
    · exact (agrees_persist_iff h).mpr hnil
  | setPresetEnabled id enabled =>
    refine iff_of_true ?_ trivial
    cases id with
    | none => exact h
    | some id =>
      change (s.setPresetEnabled id enabled).Agrees q
      rw [setPresetEnabled]
      by_cases hwas : decide (id ∈ s.enabledPresets) = enabled
      · rwa [if_pos hwas]
      · rw [if_neg hwas]
        exact ⟨h.subnets, fun _ => Iff.rfl⟩
  | restoreAppConfig subnets presets => exact agrees_stored_iff h _ _
  | clearSettings => exact agrees_stored_iff h _ _

/-- **The models agree with the settings in all states of a run exactly if no subnet is added that is
there in another case, and no backup and no reset changes the two lists.** -/
theorem lists_agree_iff (subnets presets : List String) (ops : List Op) :
    (∀ reached, reached <+: ops →
      (run (step q) (initial q subnets presets) reached).Agrees q) ↔
      Meets (step q) (Keeps q) (initial q subnets presets) ops := by
  have hgood := @forall_good_iff_meets _ _ (step q) (Keeps q) (Agrees q)
    (initial q subnets presets) ops (fun _ _ => True) (fun _ op _ h => step_agrees_iff h op)
    (meets_of_forall (fun _ _ => trivial) _ _)
  exact hgood.trans (and_iff_right ⟨rfl, fun _ => Iff.rfl⟩)

/-- A platform that knows two subnets. -/
def privateSubnets : SubnetTexts where
  platform :=
    { Platform.plain with
      parseSubnet entry :=
        if entry = "10.0.0.0/8" then (.ipv4 0x0a000000#32, 8) else (.ipv4 0xc0a80000#32, 16) }
  toLower text := text
  canonical_canonical {entry text} h := by
    unfold canonicalSubnet at h
    dsimp only at h
    split_ifs at h
    all_goals
      obtain rfl := Option.some.inj h
      decide +kernel

/-- After a reset, an edit brings the subnets back that were there before it. -/
theorem addSubnet_after_reset :
    (run (step privateSubnets) (initial privateSubnets [] []) [.addSubnet "10.0.0.0/8",
      .clearSettings, .addSubnet "192.168.0.0/16"]).localSubnetExclusions =
      ["10.0.0.0/8", "192.168.0.0/16"] ∧
    ¬(run (step privateSubnets) (initial privateSubnets [] [])
      [.addSubnet "10.0.0.0/8", .clearSettings]).Agrees privateSubnets := by
  refine ⟨by decide +kernel, fun h => absurd h.subnets (by decide +kernel)⟩

end CachedLists

end Dopamine.Client
