import Dopamine.Android.FullTunnel
import Dopamine.Client.SplitPresets

/-!
# The direction of a preset

A preset that follows the route mode should be the exception to it: with only the sites of the user
in the tunnel its addresses go into the tunnel as well, and otherwise they stay outside.

The client decides with the mode that is in effect, which is that for all traffic if the list of the
user is empty, and Android ignores all sites in this mode. So the direction is wrong for an empty
list, and presets do nothing on Android without a list of sites that stay outside
(`preset_exception_iff`).
-/

namespace Dopamine.Client

open QJsonObject List Option

section Direction

variable (q : Platform) (resolve : String → List Address) (s : TunnelSettings)

/-- The addresses and subnets of the enabled presets that follow the route mode. -/
def presetCidrs : List String := (presetBucket q s.presets s.splitPresetsEnabled .followMode).cidrs

/-- The presets are listed as the exception to the route mode. -/
def ListedAsException (config' : QJsonObject) : Prop :=
  ∀ cidr ∈ presetCidrs q s,
    if s.routeMode = .vpnOnlyForwardSites then
      cidr ∈ includeTexts config' ∧ cidr ∉ excludeTexts config'
    else cidr ∈ excludeTexts config' ∧ cidr ∉ includeTexts config'

/-- The addresses of the presets go into the tunnel exactly if only the sites of the user do. -/
def RoutedAsException (android : Android.Device) (table : Android.VpnTable) : Prop :=
  ∀ cidr ∈ presetCidrs q s, ∀ n, android.parse cidr = .ok n →
    ∀ d, d.size = 4 → n.covers d = true →
      (Android.Tunneled table d ↔ s.routeMode = .vpnOnlyForwardSites)

/-- The user has sites for the tunnel, or none of the addresses is in a shared network. -/
def ListsException : Prop :=
  ∀ cidr ∈ presetCidrs q s,
    if s.routeMode = .vpnOnlyForwardSites then s.getVpnIps q .vpnOnlyForwardSites ≠ []
    else isSharedCdnHost q cidr = false

/-- The sites of the user, the name servers and the presets that go into the tunnel with them. -/
def includable (config : QJsonObject) : List String :=
  s.getVpnIps q .vpnOnlyForwardSites ++ [config.textAt "dns1", config.textAt "dns2"] ++
    presetSites q resolve s.presets s.splitPresetsEnabled .followMode ++
    presetSites q resolve s.presets s.splitPresetsEnabled .alwaysVpn

/-- The sites that stay outside of the tunnel, without the addresses of shared networks. -/
def unshared : List String := (excludable q resolve s).filter fun entry => !isSharedCdnHost q entry

/-- Loopback networks are also in other ones that go into the tunnel; or the user has sites that
stay outside, and addresses of shared networks are also in other ones that do. -/
def RoutesException (android : Android.Device) (sdk : ℕ) (config : QJsonObject) : Prop :=
  ∀ cidr ∈ presetCidrs q s, ∀ n, android.parse cidr = .ok n →
    ∀ d, d.size = 4 → n.covers d = true →
      if s.routeMode = .vpnOnlyForwardSites then
        s.getVpnIps q .vpnOnlyForwardSites ≠ [] → Android.isLoopback n = true →
          ∃ site ∈ includable q resolve s config, ∃ m, android.parse site = .ok m ∧
            ¬Android.isLoopback m = true ∧ m.covers d = true
      else
        (s.routeMode = .vpnAllExceptSites ∧ s.getVpnIps q .vpnAllExceptSites ≠ []) ∧
          (isSharedCdnHost q cidr = true →
            (∃ site ∈ unshared q resolve s, ∃ m, android.parse site = .ok m ∧ m.covers d = true) ∨
              unshared q resolve s ≠ [] ∧ sdk < Android.tiramisu ∧
                Android.InetNetwork.loopback4.covers d = true)

end Direction

/-- The config as Android reads it. What no route depends on is given by its outcome. -/
def androidConfig (config : QJsonObject) (other : Except Android.Failure Unit) : Android.Config :=
  let data := config.objectAt (config.textAt "protocol" ++ "_config_data")
  let texts (array : List Json) := array.map fun v => Json.text (some v)
  { clientIp := data.textAt "client_ip"
    allowedIps := texts (data.arrayAt "allowed_ips")
    mtu := if data.textAt "mtu" = "" then none else some (data.textAt "mtu")
    splitTunnelType := Json.intValue (config.value "splitTunnelType")
    splitTunnelIncludeSites := some (includeTexts config)
    splitTunnelExcludeSites := some (excludeTexts config)
    splitTunnelSites := some (texts (config.arrayAt "splitTunnelSites"))
    localSubnetExclusions := some (texts (config.arrayAt "localSubnetExclusions"))
    other := other }

section Proofs

variable {q : Platform} {resolve : String → List Address} {s : TunnelSettings}
  {config config' : QJsonObject} {cidr : String}

/-- The mode that is in effect. -/
theorem manualSites_mode (henabled : s.isSitesSplitTunnelingEnabled = true)
    (hallows : allowsSites config = true) : (manualSites q s config).1 =
      if s.getVpnIps q s.routeMode = [] then .vpnAllSites else s.routeMode := by
  unfold manualSites
  dsimp only
  rw [henabled, hallows, if_neg Bool.noConfusion, if_neg Bool.noConfusion]
  split_ifs <;> rfl

theorem enabled_ne_nil_of_mem (h : cidr ∈ presetCidrs q s) : s.splitPresetsEnabled ≠ [] := by
  obtain ⟨_, -, hid, -⟩ := mem_presetEntries.mp (mem_cidrs.mp h).1
  exact ne_nil_of_mem hid

theorem mem_follow_of_mem (h : cidr ∈ presetCidrs q s) :
    cidr ∈ presetSites q resolve s.presets s.splitPresetsEnabled .followMode :=
  mem_presetSites.mpr (.inl h)

theorem mem_includable (h : cidr ∈ presetCidrs q s) : cidr ∈ includable q resolve s config :=
  mem_append_left _ (mem_append_right _ (mem_follow_of_mem h))

section

variable (henabled : s.isSitesSplitTunnelingEnabled = true)
include henabled

/-- With only sites in the tunnel the presets are included. -/
theorem splitSites_of_only (hallows : allowsSites config = true)
    (hmode : s.routeMode = .vpnOnlyForwardSites) (hsites : s.getVpnIps q .vpnOnlyForwardSites ≠ [])
    (h : cidr ∈ presetCidrs q s) :
    splitSites q resolve s config = (includable q resolve s config, []) := by
  have hne := enabled_ne_nil_of_mem h
  unfold splitSites manualSites
  dsimp only
  rw [henabled, hallows, Bool.true_and, if_pos rfl, if_neg Bool.noConfusion,
    if_neg Bool.noConfusion, hmode, if_neg hsites, if_pos rfl, includeSites, if_pos rfl,
    if_neg hne, excludeSites, if_neg hne]
  rfl

/-- Otherwise they are excluded, but for addresses of shared networks. -/
theorem splitSites_of_ne_only (hallows : allowsSites config = true)
    (hmode : (manualSites q s config).1 ≠ .vpnOnlyForwardSites) (h : cidr ∈ presetCidrs q s) :
    (splitSites q resolve s config).1 = [] ∧
      (cidr ∈ (splitSites q resolve s config).2 ↔ isSharedCdnHost q cidr = false) := by
  have hne := enabled_ne_nil_of_mem h
  unfold splitSites
  rw [henabled, hallows, Bool.true_and, if_pos rfl]
  dsimp only
  rw [includeSites, if_neg hmode, excludeSites, if_neg hne, if_neg hmode, mem_filter,
    Bool.not_eq_true']
  refine ⟨rfl, and_iff_right ?_⟩
  exact mem_append_right _ (mem_append_left _ (mem_follow_of_mem h))

/-- The presets are listed as the exception. -/
theorem listed_as_exception_iff (hallows : allowsSites config = true)
    (hinclude : includeTexts config' = (splitSites q resolve s config).1)
    (hexclude : excludeTexts config' = (splitSites q resolve s config).2) :
    ListedAsException q s config' ↔ ListsException q s := by
  unfold ListedAsException ListsException
  rw [hinclude, hexclude]
  refine forall₂_congr fun cidr hcidr => ?_
  have heffective := manualSites_mode (q := q) henabled hallows
  split_ifs with hmode
  · rw [hmode] at heffective
    by_cases hsites : s.getVpnIps q .vpnOnlyForwardSites = []
    · rw [if_pos hsites] at heffective
      obtain ⟨hnone, -⟩ := @splitSites_of_ne_only q resolve s config cidr henabled hallows
        (heffective ▸ RouteMode.noConfusion) hcidr
      refine iff_of_false (fun h => ?_) fun h => h hsites
      rw [hnone] at h
      cases h.1
    · rw [splitSites_of_only henabled hallows hmode hsites hcidr]
      exact iff_of_true ⟨mem_includable hcidr, not_mem_nil⟩ hsites
  · have hne : (manualSites q s config).1 ≠ .vpnOnlyForwardSites := by
      rw [heffective]
      split_ifs
      · exact RouteMode.noConfusion
      · exact hmode
    obtain ⟨hnone, hmem⟩ := @splitSites_of_ne_only q resolve s config cidr henabled hallows hne
      hcidr
    rw [hmem, hnone]
    exact and_iff_left not_mem_nil

/-- The addresses of the presets are routed as the exception. -/
theorem routed_as_exception_iff {android : Android.Device} {sdk : ℕ}
    {other : Except Android.Failure Unit} {table : Android.VpnTable}
    (hallows : allowsSites config = true)
    (hinclude : includeTexts config' = (splitSites q resolve s config).1)
    (hexclude : excludeTexts config' = (splitSites q resolve s config).2)
    (htype : (androidConfig config' other).splitTunnelType = (manualSites q s config).1.toInt)
    (hfull : Android.FullTunnel android (androidConfig config' other))
    (hnone : android.exclusions (androidConfig config' other) = [])
    (h : android.startVpn sdk (androidConfig config' other) = .ok table) :
    RoutedAsException q s android table ↔ RoutesException q resolve s android sdk config := by
  refine forall₄_congr fun cidr hcidr n hn => forall₃_congr fun d hd hcovers => ?_
  have heffective := manualSites_mode (q := q) henabled hallows
  split_ifs with hmode
  · rw [iff_true_right hmode]
    rw [hmode] at heffective
    by_cases hsites : s.getVpnIps q .vpnOnlyForwardSites = []
    · rw [if_pos hsites] at heffective
      exact iff_of_true (Android.tunneled_all hfull hnone h hd (by rw [htype, heffective]; rfl))
        fun hne => absurd hsites hne
    · rw [if_neg hsites] at heffective
      rw [splitSites_of_only henabled hallows hmode hsites hcidr] at hinclude
      have hmem : cidr ∈ includable q resolve s config := mem_includable hcidr
      rw [(Android.tunneled_only hfull hnone h hd (by rw [htype, heffective]; rfl)
        (congrArg some hinclude) (ne_nil_of_mem hmem)).2, forall_prop_of_true hsites]
      by_cases hloopback : Android.isLoopback n = true
      · rw [forall_prop_of_true hloopback]
      · exact iff_of_true ⟨cidr, hmem, n, hn, hloopback, hcovers⟩ fun hl => absurd hl hloopback
  · rw [iff_false_right hmode]
    by_cases hexcept : s.routeMode = .vpnAllExceptSites ∧ s.getVpnIps q .vpnAllExceptSites ≠ []
    · rw [and_iff_right hexcept]
      rw [hexcept.1, if_neg hexcept.2] at heffective
      obtain ⟨-, hmem⟩ := @splitSites_of_ne_only q resolve s config cidr henabled hallows
        (heffective ▸ RouteMode.noConfusion) hcidr
      rw [splitSites_except henabled hexcept.1 hallows, if_neg (enabled_ne_nil_of_mem hcidr)]
        at hexclude hmem
      rw [(Android.tunneled_except hfull hnone h hd (by rw [htype, heffective]; rfl)
        (congrArg some hexclude)).2]
      cases hshared : isSharedCdnHost q cidr with
      | false =>
        refine iff_of_true (fun hnot => ?_) fun htrue => absurd htrue Bool.false_ne_true
        exact hnot.1 cidr (hmem.mpr hshared) n hn hcovers
      | true =>
        rw [forall_prop_of_true rfl, not_and_or]
        simp only [not_forall, not_not, exists_prop, unshared]
    · refine iff_of_false (fun hnot => hnot ?_) fun hrest => hexcept hrest.1
      refine Android.tunneled_all hfull hnone h hd ?_
      rw [htype, heffective]
      split_ifs with hsites
      · rfl
      · cases hstored : s.routeMode with
        | vpnAllSites => rfl
        | vpnOnlyForwardSites => exact absurd hstored hmode
        | vpnAllExceptSites => exact absurd ⟨hstored, hstored ▸ hsites⟩ hexcept

/-- For all settings with split tunneling by sites, every list of the user, all presets and every
config with which sites count: the enabled presets that follow the route mode are listed as the
exception to it exactly if `ListsException` holds. If the config is one for all IPv4 addresses on
Android and starts there, their addresses are routed as the exception exactly if `RoutesException`
holds. -/
theorem preset_exception_iff {android : Android.Device} {sdk : ℕ}
    {other : Except Android.Failure Unit} (hlocal : s.localSubnetExclusions = [])
    (happend : appendSplitTunnelingConfig q resolve s config = some config')
    (hallows : allowsSites config' = true)
    (hfull : Android.FullTunnel android (androidConfig config' other)) :
    (ListedAsException q s config' ↔ ListsException q s) ∧
      ∀ table, android.startVpn sdk (androidConfig config' other) = .ok table →
        (RoutedAsException q s android table ↔ RoutesException q resolve s android sdk config') := by
  obtain ⟨native, hnative, hsame, hinclude, hexclude⟩ := splitSites_of_append happend
  obtain ⟨native', hnative', hwrite⟩ := map_eq_some_iff.mp happend
  obtain rfl : native = native' := some.inj (hnative.symm.trans hnative')
  rw [hallows] at hsame
  have htype : (androidConfig config' other).splitTunnelType =
      (manualSites q s native).1.toInt := by
    show Json.intValue (config'.value "splitTunnelType") = _
    rw [← hwrite, value_splitTunnelType, toInt_intValue]
  have hnone : android.exclusions (androidConfig config' other) = [] := by
    have hvalue : config'.value "localSubnetExclusions" = stringArray s.localSubnetExclusions := by
      simp [← hwrite, writeSplitTunneling, value_insert]
    have harray : config'.arrayAt "localSubnetExclusions" = [] := by
      rw [arrayAt, hvalue, hlocal]
      rfl
    unfold Android.Device.exclusions androidConfig
    rw [harray]
    rfl
  have hincludable : includable q resolve s config' = includable q resolve s native := by
    simp [← hwrite, includable, textAt, writeSplitTunneling, value_insert]
  refine ⟨listed_as_exception_iff henabled hsame.symm hinclude hexclude, fun table h => ?_⟩
  rw [RoutesException, hincludable]
  exact routed_as_exception_iff henabled hsame.symm hinclude hexclude htype hfull hnone h

end

end Proofs

/-! ## A preset of the API -/

/-- A preset for a local network, with a list of the user. -/
def officeSettings (mode : RouteMode) (sites : SiteMap) : TunnelSettings :=
  { forwardSettings with
    routeMode := mode
    vpnSites := fun _ => sites
    splitPresetsEnabled := ["office"]
    splitPresetsCache :=
      [.object [("domains", .array [.string "192.168.1.0/24"]), ("id", .string "office")]] }

/-- What is written for a config of a full tunnel. -/
def officeEmitted (mode : RouteMode) (sites : SiteMap) : Option QJsonObject :=
  appendSplitTunnelingConfig .plain (fun _ => []) (officeSettings mode sites)
    (.ofMembers [("protocol", .string "wireguard"),
      ("wireguard_config_data", .object
        [("allowed_ips", .array [.string "0.0.0.0/0"]), ("client_ip", .string "10.8.0.2")])])

/-- What the routes on Android depend on. -/
structure RouteView where
  allows : Bool
  splitTunnelType : ℤ
  allowedIps : List String
  includeSites : List String
  excludeSites : List String
  localSubnetExclusions : Option (List String)
  starts : Bool
deriving DecidableEq

def routeView (config : QJsonObject) : RouteView :=
  let config' := androidConfig config (.ok ())
  ⟨allowsSites config, config'.splitTunnelType, config'.allowedIps, includeTexts config,
    excludeTexts config, config'.localSubnetExclusions,
    (Android.plainAndroid.startVpn 33 config').isOk⟩

theorem fullTunnel_office {config : Android.Config} (h : config.allowedIps = ["0.0.0.0/0"]) :
    Android.FullTunnel Android.plainAndroid config where
  isDefault ip hip := by
    rw [h, mem_singleton] at hip
    subst hip
    exact .inl rfl
  ipv4 := ⟨"0.0.0.0/0", by rw [h]; exact mem_singleton_self _, rfl⟩

theorem exists_of_isOk {α : Type} {x : Except Android.Failure α} (h : x.isOk = true) :
    ∃ a, x = .ok a := by
  cases x with
  | error e => cases h
  | ok a => exact ⟨a, rfl⟩

/-- With a site of the user outside of the tunnel, the preset stays outside too. -/
theorem preset_exception_office :
    ∃ config' table, officeEmitted .vpnAllExceptSites
        (Maps.SortedMap.empty.set "192.168.0.0/16" (some "")) = some config' ∧
      Android.plainAndroid.startVpn 33 (androidConfig config' (.ok ())) = .ok table ∧
      ListedAsException .plain (officeSettings .vpnAllExceptSites
        (Maps.SortedMap.empty.set "192.168.0.0/16" (some ""))) config' ∧
      RoutedAsException .plain (officeSettings .vpnAllExceptSites
        (Maps.SortedMap.empty.set "192.168.0.0/16" (some ""))) Android.plainAndroid table := by
  set sites : SiteMap := Maps.SortedMap.empty.set "192.168.0.0/16" (some "") with hsites
  have hview : (officeEmitted .vpnAllExceptSites sites).map routeView = some ⟨true, 2,
      ["0.0.0.0/0"], [], ["192.168.0.0/16", "192.168.1.0/24"], some [], true⟩ := by
    rw [hsites]
    decide +kernel
  have hcidrs : presetCidrs .plain (officeSettings .vpnAllExceptSites sites) =
      ["192.168.1.0/24"] := by
    rw [hsites]
    decide +kernel
  have hmanual : (officeSettings .vpnAllExceptSites sites).getVpnIps .plain .vpnAllExceptSites ≠
      [] := by
    rw [hsites]
    decide +kernel
  obtain ⟨config', happend, hconfig⟩ := map_eq_some_iff.mp hview
  simp only [routeView, RouteView.mk.injEq] at hconfig
  obtain ⟨hallows, -, hips, -, -, -, hok⟩ := hconfig
  obtain ⟨table, htable⟩ := exists_of_isOk hok
  obtain ⟨hlisted, hrouted⟩ := preset_exception_iff rfl rfl happend hallows (fullTunnel_office hips)
  have hshared : ∀ cidr ∈ presetCidrs .plain (officeSettings .vpnAllExceptSites sites),
      isSharedCdnHost .plain cidr = false := by
    rw [hcidrs]
    decide +kernel
  refine ⟨config', table, happend, htable, hlisted.mpr ?_, (hrouted table htable).mpr ?_⟩
  · intro cidr hcidr
    rw [if_neg RouteMode.noConfusion]
    exact hshared cidr hcidr
  · intro cidr hcidr _ _ _ _ _
    rw [if_neg RouteMode.noConfusion]
    refine ⟨⟨rfl, hmanual⟩, fun h => ?_⟩
    rw [hshared cidr hcidr] at h
    cases h

/-- With an empty list of the user: if only its sites should go into the tunnel, the preset is
listed as one to exclude; and if they should stay outside, the addresses of the preset go into the
tunnel on Android. -/
theorem preset_direction_wrong :
    (∃ config', officeEmitted .vpnOnlyForwardSites .empty = some config' ∧
      presetCidrs .plain (officeSettings .vpnOnlyForwardSites .empty) = ["192.168.1.0/24"] ∧
      includeTexts config' = [] ∧ excludeTexts config' = ["192.168.1.0/24"]) ∧
    ∃ config' table, officeEmitted .vpnAllExceptSites .empty = some config' ∧
      presetCidrs .plain (officeSettings .vpnAllExceptSites .empty) = ["192.168.1.0/24"] ∧
      excludeTexts config' = ["192.168.1.0/24"] ∧
      Android.plainAndroid.startVpn 33 (androidConfig config' (.ok ())) = .ok table ∧
      Android.Tunneled table (Android.ipv4 192 168 1 5).ip := by
  have hcidrs : ∀ mode, presetCidrs .plain (officeSettings mode .empty) = ["192.168.1.0/24"] := by
    intro mode
    show presetCidrs .plain (officeSettings .vpnAllSites .empty) = ["192.168.1.0/24"]
    decide +kernel
  have hview : ∀ mode ∈ [RouteMode.vpnOnlyForwardSites, .vpnAllExceptSites],
      (officeEmitted mode .empty).map routeView =
        some ⟨true, 0, ["0.0.0.0/0"], [], ["192.168.1.0/24"], some [], true⟩ := by
    decide +kernel
  obtain ⟨config₁, h₁, hview₁⟩ := map_eq_some_iff.mp (hview _ (.head _))
  obtain ⟨config₂, h₂, hview₂⟩ := map_eq_some_iff.mp (hview _ (.tail _ (.head _)))
  simp only [routeView, RouteView.mk.injEq] at hview₁ hview₂
  obtain ⟨-, -, -, hinclude, hexclude, -⟩ := hview₁
  obtain ⟨-, htype, hips, -, hexclude', hlocal, hok⟩ := hview₂
  obtain ⟨table, htable⟩ := exists_of_isOk hok
  refine ⟨⟨config₁, h₁, hcidrs _, hinclude, hexclude⟩, config₂, table, h₂, hcidrs _, hexclude',
    htable, Android.tunneled_all (fullTunnel_office hips) ?_ htable rfl htype⟩
  unfold Android.Device.exclusions
  rw [hlocal]
  rfl

end Dopamine.Client
