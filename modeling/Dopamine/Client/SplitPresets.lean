import Dopamine.Client.SplitMode

/-!
# Presets and the list of the user

With all sites but those of the user in the tunnel, enabled presets should only add to the sites
that stay outside. They do, but as soon as one preset is enabled the addresses of shared content
networks are taken out of the whole list, with those that the user entered (`presets_add_iff`).

Lists are compared by the addresses they stand for: an address that was looked up for one selection
is left out for a larger one if a subnet of the latter has it.
-/

namespace Dopamine.Client

open QJsonObject LocalSocketController List Option

/-- The sites to exclude of a config that was written. -/
def excludeTexts (config : QJsonObject) : List String :=
  (config.arrayAt "splitTunnelExcludeSites").map fun v => Json.text (some v)

/-- The sites to include of a config that was written. -/
def includeTexts (config : QJsonObject) : List String :=
  (config.arrayAt "splitTunnelIncludeSites").map fun v => Json.text (some v)

/-- The settings with a selection of presets. -/
def TunnelSettings.select (s : TunnelSettings) (enabled : List String) : TunnelSettings :=
  { s with splitPresetsEnabled := enabled }

section Emitted

variable {q : Platform} {resolve : String → List Address} {s : TunnelSettings}
  {config config' : QJsonObject}

theorem texts_stringArray (l : List String) :
    (Json.arrayValue (stringArray l)).map (fun v => Json.text (some v)) = l := by
  show (l.map Json.string).map _ = l
  rw [List.map_map]
  exact map_id' l

theorem excludeTexts_writeSplitTunneling :
    excludeTexts (writeSplitTunneling q resolve s config) = (splitSites q resolve s config).2 := by
  simp [excludeTexts, arrayAt, writeSplitTunneling, value_insert, texts_stringArray]

theorem includeTexts_writeSplitTunneling :
    includeTexts (writeSplitTunneling q resolve s config) = (splitSites q resolve s config).1 := by
  simp [includeTexts, arrayAt, writeSplitTunneling, value_insert, texts_stringArray]

theorem allowsSites_writeSplitTunneling :
    allowsSites (writeSplitTunneling q resolve s config) = allowsSites config := by
  cases hwg : isWireGuardProtocol (config.textAt "protocol") with
  | true => exact (emitted_writeSplitTunneling hwg).allows
  | false =>
    unfold allowsSites
    dsimp only
    rw [protocol_writeSplitTunneling, hwg]
    rfl

/-- The sites of a written config are those for the config before. -/
theorem splitSites_of_append (h : appendSplitTunnelingConfig q resolve s config = some config') :
    ∃ native, withNativeConfig config = some native ∧
      allowsSites config' = allowsSites native ∧
      includeTexts config' = (splitSites q resolve s native).1 ∧
      excludeTexts config' = (splitSites q resolve s native).2 := by
  obtain ⟨native, hnative, rfl⟩ := map_eq_some_iff.mp h
  exact ⟨native, hnative, allowsSites_writeSplitTunneling, includeTexts_writeSplitTunneling,
    excludeTexts_writeSplitTunneling⟩

end Emitted

/-! ## Larger selections -/

section Selections

variable {q : Platform} {resolve : String → List Address} {presets : List Json} {P Q : List String}
  {kind : PresetKind} {entry cidr : String} {a : BitVec 32} {d : Address}

theorem mem_presetEntries :
    entry ∈ presetEntries presets P kind ↔ ∃ value ∈ presets,
      (Json.toObject (some value)).textAt "id" ∈ P ∧
      PresetKind.ofId ((Json.toObject (some value)).textAt "id") = kind ∧
      ∃ domain ∈ (Json.toObject (some value)).arrayAt "domains", Json.text (some domain) = entry := by
  unfold presetEntries
  rw [mem_flatMap]
  refine exists_congr fun value => and_congr_right fun _ => ?_
  dsimp only
  split_ifs with h
  · rw [List.mem_map, and_iff_right h.1, and_iff_right h.2]
  · exact iff_of_false not_mem_nil fun ⟨hid, hkind, _⟩ => h ⟨hid, hkind⟩

theorem presetEntries_mono (hsub : ∀ id ∈ P, id ∈ Q) (h : entry ∈ presetEntries presets P kind) :
    entry ∈ presetEntries presets Q kind := by
  obtain ⟨value, hvalue, hid, hrest⟩ := mem_presetEntries.mp h
  exact mem_presetEntries.mpr ⟨value, hvalue, hsub _ hid, hrest⟩

theorem mem_cidrs : entry ∈ (presetBucket q presets P kind).cidrs ↔
    entry ∈ presetEntries presets P kind ∧ NetworkUtilities.checkIpSubnetFormat q entry = true :=
  mem_filter

theorem mem_hosts : entry ∈ (presetBucket q presets P kind).hosts ↔
    entry ∈ presetEntries presets P kind ∧
      (!NetworkUtilities.checkIpSubnetFormat q entry && entry ≠ "") = true :=
  mem_filter

def bucketNets (q : Platform) (bucket : PresetBucket) : List IPAddress :=
  (bucket.cidrs.map (parseSubnet q)).filter fun net => 0 ≤ net.prefixLength

theorem mem_presetSites : entry ∈ presetSites q resolve presets P kind ↔
    entry ∈ (presetBucket q presets P kind).cidrs ∨
      ∃ host ∈ (presetBucket q presets P kind).hosts,
        resolvedHost (bucketNets q (presetBucket q presets P kind)) (resolve host) = some entry := by
  unfold presetSites flattenBucket
  rw [mem_append, mem_filterMap]
  rfl

/-- An address that was found and that no subnet has. -/
theorem resolvedHost_eq_some {nets : List IPAddress} {addresses : List Address} :
    resolvedHost nets addresses = some entry ↔ ∃ a, firstAddress addresses = some a ∧
      nets.any (isInSubnet a) = false ∧ entry = String.ofList (ipv4Chars a) := by
  unfold resolvedHost
  cases firstAddress addresses with
  | none => simp
  | some a =>
    dsimp only
    split_ifs with h
    · refine iff_of_false not_false ?_
      rintro ⟨b, hb, hany, -⟩
      rw [← some.inj hb, h] at hany
      cases hany
    · rw [some.injEq]
      constructor
      · rintro rfl
        exact ⟨a, rfl, Bool.eq_false_iff.mpr h, rfl⟩
      · rintro ⟨b, hb, -, rfl⟩
        rw [some.inj hb]

theorem slash_not_mem_ipv4Chars (a : BitVec 32) : '/' ∉ ipv4Chars a := by
  intro h
  rcases mem_ipv4Chars h with h | h <;> revert h <;> decide

theorem ofString_ipv4Chars (a : BitVec 32) :
    HostAddress.ofString q (String.ofList (ipv4Chars a)) = .ipv4 a := by
  unfold HostAddress.ofString
  rw [String.toList_ofList, readIPv4_ipv4Chars]

/-- The text of an address stands for it. -/
theorem parseSubnet_ipv4Chars (a : BitVec 32) :
    parseSubnet q (String.ofList (ipv4Chars a)) = ⟨.ipv4 a, 32⟩ :=
  parseSubnet_host (by rw [String.toList_ofList]; exact slash_not_mem_ipv4Chars a)
    (ofString_ipv4Chars a)

theorem covers_host : IPAddress.covers ⟨.ipv4 a, 32⟩ d = true ↔ d = .v4 a := by
  cases d with
  | v4 b =>
    show (a >>> 0 == b >>> 0) = true ↔ _
    rw [beq_iff_eq, BitVec.ushiftRight_zero, BitVec.ushiftRight_zero, Address.v4.injEq, eq_comm]
  | v6 b => exact iff_of_false Bool.noConfusion Address.noConfusion

/-- A subnet of a bucket has the address. -/
theorem covers_of_isInSubnet (hcheck : NetworkUtilities.checkIpSubnetFormat q cidr = true)
    (h : isInSubnet a (parseSubnet q cidr) = true) :
    (parseSubnet q cidr).covers (.v4 a) = true := by
  obtain ⟨x, n, hsubnet, -, hle⟩ := parseSubnet_of_check hcheck
  rw [hsubnet] at h ⊢
  rwa [isInSubnet, min_eq_left hle] at h

/-- Whether an address is one of a shared network depends on the address. -/
theorem isSharedCdnHost_of_host (hslash : '/' ∉ entry.toList)
    (haddress : HostAddress.ofString q entry = .ipv4 a) :
    isSharedCdnHost q entry =
      sharedCdn.any fun net => isInSubnet a ⟨HostAddress.ofString q net.1, net.2⟩ := by
  unfold isSharedCdnHost
  rw [decide_eq_true hslash, haddress, Bool.true_and]

/-- A subnet that has an address outside of the shared networks is not taken out. -/
theorem isSharedCdnHost_of_covers (hcheck : NetworkUtilities.checkIpSubnetFormat q cidr = true)
    (hcovers : (parseSubnet q cidr).covers (.v4 a) = true)
    (ha : isSharedCdnHost q (String.ofList (ipv4Chars a)) = false) :
    isSharedCdnHost q cidr = false := by
  by_cases hslash : '/' ∈ cidr.toList
  · unfold isSharedCdnHost
    rw [decide_eq_false (not_not.mpr hslash), Bool.false_and]
  · have hhost := hcheck
    unfold NetworkUtilities.checkIpSubnetFormat at hhost
    rw [if_pos hslash] at hhost
    obtain ⟨x, hx⟩ := exists_ipv4_of_check hhost
    rw [parseSubnet_host hslash hx, covers_host, Address.v4.injEq] at hcovers
    have htext : '/' ∉ (String.ofList (ipv4Chars a)).toList := by
      rw [String.toList_ofList]
      exact slash_not_mem_ipv4Chars a
    rw [isSharedCdnHost_of_host htext (ofString_ipv4Chars a)] at ha
    rw [isSharedCdnHost_of_host hslash hx, ← hcovers]
    exact ha

/-- What stays outside of the tunnel for some presets stays outside for more of them. -/
theorem presetSites_mono (hsub : ∀ id ∈ P, id ∈ Q)
    (hentry : entry ∈ presetSites q resolve presets P kind)
    (hshared : isSharedCdnHost q entry = false) (hcovers : (parseSubnet q entry).covers d = true) :
    ∃ entry' ∈ presetSites q resolve presets Q kind, isSharedCdnHost q entry' = false ∧
      (parseSubnet q entry').covers d = true := by
  rcases mem_presetSites.mp hentry with hcidr | ⟨host, hhost, hresolved⟩
  · obtain ⟨hmem, hcheck⟩ := mem_cidrs.mp hcidr
    exact ⟨entry, mem_presetSites.mpr (.inl (mem_cidrs.mpr ⟨presetEntries_mono hsub hmem, hcheck⟩)),
      hshared, hcovers⟩
  · obtain ⟨a, ha, -, rfl⟩ := resolvedHost_eq_some.mp hresolved
    obtain ⟨hmem, hname⟩ := mem_hosts.mp hhost
    have hhost' : host ∈ (presetBucket q presets Q kind).hosts :=
      mem_hosts.mpr ⟨presetEntries_mono hsub hmem, hname⟩
    cases hany : (bucketNets q (presetBucket q presets Q kind)).any (isInSubnet a) with
    | false =>
      exact ⟨_, mem_presetSites.mpr (.inr ⟨host, hhost', resolvedHost_eq_some.mpr
        ⟨a, ha, hany, rfl⟩⟩), hshared, hcovers⟩
    | true =>
      -- the address is left out for a subnet that has it
      obtain ⟨net, hnet, hin⟩ := any_eq_true.mp hany
      obtain ⟨cidr, hcidr, rfl⟩ := mem_map.mp (mem_filter.mp hnet).1
      have hcheck := (mem_cidrs.mp hcidr).2
      have hin' := covers_of_isInSubnet hcheck hin
      rw [parseSubnet_ipv4Chars, covers_host] at hcovers
      exact ⟨cidr, mem_presetSites.mpr (.inl hcidr),
        isSharedCdnHost_of_covers hcheck hin' hshared, hcovers ▸ hin'⟩

end Selections

/-! ## The sites to exclude -/

section Exclude

variable {q : Platform} {resolve : String → List Address} {s : TunnelSettings}
  {config : QJsonObject}

/-- The sites of the user, and those of the presets that stay outside of the tunnel with them. -/
def excludable (q : Platform) (resolve : String → List Address)
    (s : TunnelSettings) : List String :=
  s.getVpnIps q .vpnAllExceptSites ++
    (presetSites q resolve s.presets s.splitPresetsEnabled .followMode ++
      presetSites q resolve s.presets s.splitPresetsEnabled .alwaysDirect)

/-- Addresses of shared networks that the user entered are also in a subnet, or given in another
way, that is not taken out. -/
def KeepsShared (q : Platform) (resolve : String → List Address) (s : TunnelSettings) : Prop :=
  ∀ site ∈ s.getVpnIps q .vpnAllExceptSites, isSharedCdnHost q site = true →
    ∀ d, (parseSubnet q site).covers d = true → ∃ entry ∈ excludable q resolve s,
      isSharedCdnHost q entry = false ∧ (parseSubnet q entry).covers d = true

section

variable (henabled : s.isSitesSplitTunnelingEnabled = true)
  (hmode : s.routeMode = .vpnAllExceptSites) (hallows : allowsSites config = true)
include henabled hmode hallows

theorem manualSites_except : manualSites q s config =
      if s.getVpnIps q .vpnAllExceptSites = [] then (.vpnAllSites, [])
      else (.vpnAllExceptSites, s.getVpnIps q .vpnAllExceptSites) := by
  unfold manualSites
  dsimp only
  rw [henabled, hallows, if_neg Bool.noConfusion, if_neg Bool.noConfusion, hmode,
    if_neg (by decide : ¬RouteMode.vpnAllExceptSites = .vpnOnlyForwardSites)]

theorem splitSites_except : (splitSites q resolve s config).2 =
      if s.splitPresetsEnabled = [] then s.getVpnIps q .vpnAllExceptSites
      else (excludable q resolve s).filter fun entry => !isSharedCdnHost q entry := by
  unfold splitSites
  rw [henabled, hallows, Bool.true_and, if_pos rfl, manualSites_except henabled hmode hallows,
    excludable]
  by_cases hsites : s.getVpnIps q .vpnAllExceptSites = []
  · rw [if_pos hsites, hsites]
    rfl
  · rw [if_neg hsites]
    rfl

/-- Without a selection the list of the user is excluded, and with one the list that is filtered. -/
theorem listed_exclude_iff {d : Address} :
    Listed q (splitSites q resolve s config).2 d ↔
      if s.splitPresetsEnabled = [] then Listed q (s.getVpnIps q .vpnAllExceptSites) d
      else ∃ entry ∈ excludable q resolve s, isSharedCdnHost q entry = false ∧
        (parseSubnet q entry).covers d = true := by
  rw [splitSites_except henabled hmode hallows, Listed]
  split_ifs
  · rfl
  · refine exists_congr fun entry => ?_
    rw [mem_filter, Bool.not_eq_true', and_assoc]

/-- The list of the user is excluded exactly if the addresses of shared networks are kept. -/
theorem listed_manual_iff :
    (∀ d, Listed q (s.getVpnIps q .vpnAllExceptSites) d →
        Listed q (splitSites q resolve s config).2 d) ↔
      (s.splitPresetsEnabled ≠ [] → KeepsShared q resolve s) := by
  simp only [listed_exclude_iff henabled hmode hallows]
  by_cases hnone : s.splitPresetsEnabled = []
  · simp only [if_pos hnone]
    exact iff_of_true (fun _ h => h) fun h => absurd hnone h
  · simp only [if_neg hnone]
    rw [forall_prop_of_true hnone]
    constructor
    · exact fun h site hsite _ d hcovers => h d ⟨site, hsite, hcovers⟩
    · rintro h d ⟨site, hsite, hcovers⟩
      cases hshared : isSharedCdnHost q site with
      | true => exact h site hsite hshared d hcovers
      | false => exact ⟨site, mem_append_left _ hsite, hshared, hcovers⟩

end

/-- A larger selection excludes more of what is not taken out. -/
theorem excludable_mono {P Q : List String} (hsub : ∀ id ∈ P, id ∈ Q) {entry : String} {d : Address}
    (hentry : entry ∈ excludable q resolve (s.select P))
    (hshared : isSharedCdnHost q entry = false) (hcovers : (parseSubnet q entry).covers d = true) :
    ∃ entry' ∈ excludable q resolve (s.select Q), isSharedCdnHost q entry' = false ∧
      (parseSubnet q entry').covers d = true := by
  have hpreset : ∀ kind, entry ∈ presetSites q resolve s.presets P kind →
      (∀ entry' ∈ presetSites q resolve s.presets Q kind,
        entry' ∈ excludable q resolve (s.select Q)) →
      ∃ entry' ∈ excludable q resolve (s.select Q), isSharedCdnHost q entry' = false ∧
        (parseSubnet q entry').covers d = true := by
    intro kind hentry hall
    obtain ⟨entry', hentry', hrest⟩ := presetSites_mono hsub hentry hshared hcovers
    exact ⟨entry', hall entry' hentry', hrest⟩
  rcases mem_append.mp hentry with hmanual | hentry
  · exact ⟨entry, mem_append_left _ hmanual, hshared, hcovers⟩
  rcases mem_append.mp hentry with hfollow | hdirect
  · exact hpreset .followMode hfollow fun entry' h =>
      mem_append_right _ (mem_append_left _ h)
  · exact hpreset .alwaysDirect hdirect fun entry' h =>
      mem_append_right _ (mem_append_right _ h)

/-- For every list of the user whose sites stay outside of the tunnel, and all selections of presets
of which the second has all of the first: the list is excluded with both, and what is excluded with
the first is excluded with the second, exactly if with a selection that is not empty the addresses
of shared networks in the list are kept. -/
theorem presets_add_iff (henabled : s.isSitesSplitTunnelingEnabled = true)
    (hmode : s.routeMode = .vpnAllExceptSites) {P Q : List String} (hsub : ∀ id ∈ P, id ∈ Q)
    {configP configQ : QJsonObject}
    (hP : appendSplitTunnelingConfig q resolve (s.select P) config = some configP)
    (hQ : appendSplitTunnelingConfig q resolve (s.select Q) config = some configQ)
    (hallows : allowsSites configP = true) :
    ((∀ d, Listed q (s.getVpnIps q .vpnAllExceptSites) d →
        Listed q (excludeTexts configP) d ∧ Listed q (excludeTexts configQ) d) ∧
      ∀ d, Listed q (excludeTexts configP) d → Listed q (excludeTexts configQ) d) ↔
      (P ≠ [] → KeepsShared q resolve (s.select P)) ∧
        (Q ≠ [] → KeepsShared q resolve (s.select Q)) := by
  obtain ⟨native, hnative, hallowsP, -, hexcludeP⟩ := splitSites_of_append hP
  obtain ⟨native', hnative', -, -, hexcludeQ⟩ := splitSites_of_append hQ
  obtain rfl : native = native' := some.inj (hnative.symm.trans hnative')
  rw [hallows] at hallowsP
  have hmanual : ∀ X, (∀ d, Listed q (s.getVpnIps q .vpnAllExceptSites) d →
      Listed q (splitSites q resolve (s.select X) native).2 d) ↔
      (X ≠ [] → KeepsShared q resolve (s.select X)) := fun X =>
    @listed_manual_iff q resolve (s.select X) native henabled hmode hallowsP.symm
  have hexclude : ∀ X d, Listed q (splitSites q resolve (s.select X) native).2 d ↔
      if X = [] then Listed q (s.getVpnIps q .vpnAllExceptSites) d
      else ∃ entry ∈ excludable q resolve (s.select X), isSharedCdnHost q entry = false ∧
        (parseSubnet q entry).covers d = true := fun X d =>
    @listed_exclude_iff q resolve (s.select X) native henabled hmode hallowsP.symm d
  rw [hexcludeP, hexcludeQ, ← hmanual P, ← hmanual Q]
  constructor
  · rintro ⟨hlist, -⟩
    exact ⟨fun d hd => (hlist d hd).1, fun d hd => (hlist d hd).2⟩
  · rintro ⟨hlistP, hlistQ⟩
    refine ⟨fun d hd => ⟨hlistP d hd, hlistQ d hd⟩, fun d hd => ?_⟩
    rw [hexclude] at hd
    by_cases hPnil : P = []
    · rw [if_pos hPnil] at hd
      exact hlistQ d hd
    · rw [if_neg hPnil] at hd
      obtain ⟨id, hid⟩ := exists_mem_of_ne_nil P hPnil
      rw [hexclude, if_neg (ne_nil_of_mem (hsub id hid))]
      obtain ⟨entry, hentry, hshared, hcovers⟩ := hd
      exact excludable_mono hsub hentry hshared hcovers

end Exclude

/-- All sites but one go into the tunnel. -/
def exceptSettings (site : String) : TunnelSettings :=
  { forwardSettings with
    routeMode := .vpnAllExceptSites
    vpnSites := fun _ => Maps.SortedMap.empty.set site (some "") }

/-- A WireGuard config for all IPv4 addresses. -/
def fullTunnel : QJsonObject :=
  .ofMembers [("protocol", .string "wireguard"),
    ("wireguard_config_data", .object [("allowed_ips", .array [.string "0.0.0.0/0"])])]

/-- The config with a selection of presets, of which no name is found. -/
def selected (site : String) (enabled : List String) : Option QJsonObject :=
  appendSplitTunnelingConfig .plain (fun _ => []) ((exceptSettings site).select enabled) fullTunnel

/-- A subnet of the user stays outside of the tunnel with a preset. -/
theorem presets_add_subnet :
    ∃ configP configQ, selected "198.51.100.0/24" [] = some configP ∧
      selected "198.51.100.0/24" ["youtube"] = some configQ ∧
      (∀ d, Listed .plain ["198.51.100.0/24"] d →
        Listed .plain (excludeTexts configP) d ∧ Listed .plain (excludeTexts configQ) d) ∧
      ∀ d, Listed .plain (excludeTexts configP) d → Listed .plain (excludeTexts configQ) d := by
  have hselected : ∀ enabled, ∃ config, selected "198.51.100.0/24" enabled = some config ∧
      allowsSites config = true := by
    intro enabled
    have hnative : withNativeConfig fullTunnel = some fullTunnel := by decide +kernel
    refine ⟨writeSplitTunneling .plain (fun _ => [])
      ((exceptSettings "198.51.100.0/24").select enabled) fullTunnel, ?_, ?_⟩
    · rw [selected, appendSplitTunnelingConfig, hnative]
      rfl
    · rw [allowsSites_writeSplitTunneling]
      decide +kernel
  have hsites : ((exceptSettings "198.51.100.0/24").getVpnIps .plain .vpnAllExceptSites) =
      ["198.51.100.0/24"] := by decide +kernel
  have hkeeps : ∀ enabled, KeepsShared .plain (fun _ => [])
      ((exceptSettings "198.51.100.0/24").select enabled) := by
    intro enabled site hsite hshared
    obtain rfl : site = "198.51.100.0/24" := mem_singleton.mp (hsites ▸ hsite)
    exact absurd hshared (by decide +kernel)
  obtain ⟨configP, hP, hallows⟩ := hselected []
  obtain ⟨configQ, hQ, -⟩ := hselected ["youtube"]
  refine ⟨configP, configQ, hP, hQ, ?_⟩
  rw [← hsites]
  exact (presets_add_iff rfl rfl (fun _ h => absurd h not_mem_nil) hP hQ hallows).mpr
    ⟨fun _ => hkeeps _, fun _ => hkeeps _⟩

/-- An address of the user in a shared network goes into the tunnel as soon as a preset is enabled.
-/
theorem shared_site_dropped :
    ∃ configP configQ, selected "104.16.0.1" [] = some configP ∧
      selected "104.16.0.1" ["youtube"] = some configQ ∧
      excludeTexts configP = ["104.16.0.1"] ∧ excludeTexts configQ = [] := by
  have hP : (selected "104.16.0.1" []).map excludeTexts = some ["104.16.0.1"] := by decide +kernel
  have hQ : (selected "104.16.0.1" ["youtube"]).map excludeTexts = some [] := by decide +kernel
  obtain ⟨configP, hconfigP, hexcludeP⟩ := map_eq_some_iff.mp hP
  obtain ⟨configQ, hconfigQ, hexcludeQ⟩ := map_eq_some_iff.mp hQ
  exact ⟨configP, configQ, hconfigP, hconfigQ, hexcludeP, hexcludeQ⟩

end Dopamine.Client
