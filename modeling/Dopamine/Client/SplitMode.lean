import Dopamine.Client.LocalSocketController
import Dopamine.Client.SplitTunneling
import Mathlib.Data.List.TakeWhile

/-!
# The split mode that the daemon gets

`appendSplitTunnelingConfig` announces a mode and a list of sites, and
`LocalSocketController::activate` makes the allowed ranges and the excluded addresses of the request
from the same config. Both look at the allowed addresses of the config: the first one asks for
`0.0.0.0/0` among them, the second one replaces them only if they are `0.0.0.0/0` and `::/0`, in
this order.

`VpnConfigurationsController::createVpnConfiguration` drops the IPv6 addresses of a config for an
IPv4 tunnel, so that the mode with only the sites in the tunnel is announced, and all traffic goes
into it (`realizes_type_iff`, `announced_sites_ignored`).
-/

namespace Dopamine.Client

open QJsonObject LocalSocketController Option List

/-! ## The config of a connection -/

/-- A member that is not there or empty is taken from the line that starts with a name. -/
def recoverText (ini key name : String) (data : QJsonObject) : QJsonObject :=
  if data.textAt key ≠ "" then data
  else
    match (nativeValue ini fun line => name.toList.isPrefixOf line.toList).join with
    | none => data
    | some value =>
        let text := String.ofList (trimmed value.toList)
        if text = "" then data else data.insertText key text

/-- The allowed addresses that are recovered from a native config. Those of IPv6 are dropped if the
tunnel has no IPv6 address. -/
def recoveredIps (ini clientIp : String) : List String :=
  let value := (nativeValue ini (containsText "AllowedIPs")).join
  let allowedIps := (value.map (textSplit ", ")).getD []
  let allowedIps :=
    if ':' ∈ clientIp.toList then allowedIps else allowedIps.filter fun ip => ':' ∉ ip.toList
  if allowedIps = [] then ["0.0.0.0/0"] else allowedIps

/-- Allowed addresses that are no array are recovered. -/
def recoverAllowedIps (ini : String) (data : QJsonObject) : QJsonObject :=
  match data.value "allowed_ips" with
  | some (.array _) => data
  | _ => data.insert "allowed_ips" (stringArray (recoveredIps ini (data.textAt "client_ip")))

/-- The data of a WireGuard config in `createVpnConfiguration`, from the native config. The default
MTU is that of the desktop. -/
def wireguardData (ini : String) (data : QJsonObject) : QJsonObject :=
  let data := if data.textAt "mtu" = "" then data.insertText "mtu" "1376" else data
  let data := recoverText ini "client_ip" "Address" data
  let data := recoverAllowedIps ini data
  let data :=
    if data.value "persistent_keep_alive" = none ∧ data.contains "persistent_keepalive" then
      data.insert "persistent_keep_alive" (data.value "persistent_keepalive")
    else data
  -- the parameters of AmneziaWG
  (awgKeys.drop 11).foldl (fun data key => recoverText ini key key data) data

/-- What `createVpnConfiguration` returns for a container of WireGuard. -/
def createVpnConfiguration (dns : String × String) (serverConfig : QJsonObject)
    (container : DockerContainer) (ini : String) (data : QJsonObject) : QJsonObject :=
  let protocolName := container.defaultProtocol.protoToString
  let config := QJsonObject.empty.insertObject (protocolName ++ "_config_data")
    (wireguardData ini data)
  let config := config.insertText "protocol" protocolName
  let config := (config.insertText "dns1" dns.1).insertText "dns2" dns.2
  let config := config.insertText "hostName" (serverConfig.textAt "hostName")
  let config := config.insertText "description" (serverConfig.textAt "description")
  config.insert "config_version" (some (.double (Json.intValue (serverConfig.value "config_version"))))

/-! ## What a request realizes -/

section Realizes

variable (q : Platform)

variable (raw : JsonObject)

/-- The address goes into the tunnel: an allowed range has it, and no site that is excluded. The
server and the local subnet exclusions stay outside in every mode. -/
def Tunneled (d : Address) : Prop :=
  (∃ r ∈ allowedIPAddresses raw, (r.toIPAddress q).covers d = true) ∧
    ¬∃ site ∈ excludedSites raw, (IPAddress.ofString q site).covers d = true

/-- The config allows the address. -/
def Allowed (ips : List Json) (d : Address) : Prop :=
  ∃ v ∈ ips, ((rangeOf v).toIPAddress q).covers d = true

/-- A listed site has the address. -/
def Listed (sites : List String) (d : Address) : Prop :=
  ∃ site ∈ sites, (parseSubnet q site).covers d = true

/-- The allowed addresses of the config. -/
def allowedIps : List Json := Json.arrayValue ((wgConfig raw).lookup "allowed_ips")

def announcedSites : List String :=
  (splitTunnelSites raw).map fun v => Json.text (some v)

/-- The request realizes the announced mode.

The name servers are among the sites if only the sites go into the tunnel. -/
structure RealizesType : Prop where
  all : splitTunnelType raw = 0 → ∀ d, Tunneled q raw d ↔ Allowed q (allowedIps raw) d
  only : splitTunnelType raw = 1 → ∀ d, Tunneled q raw d ↔ Listed q (announcedSites raw) d
  except : splitTunnelType raw = 2 →
    ∀ d, Tunneled q raw (.v4 d) ↔ ¬Listed q (announcedSites raw) (.v4 d)

/-- The prefix the daemon has for a text. -/
def parsed (text : String) : IPAddress := (rangeOf (.string text)).toIPAddress q

/-- A dotted quad alone, or one with a length of at most 32. -/
def plainSite (text : String) : Option (BitVec 32 × ℕ) :=
  match text.toList.splitOn '/' with
  | [address] => (readIPv4 address).map (·, 32)
  | [address, bits] =>
      match readIPv4 address, readNat bits with
      | some x, some n => if n ≤ 32 then some (x, n) else none
      | _, _ => none
  | _ => none

/-- Qt's `QHostAddress::parseSubnet` reads a dotted quad with a length as that network. It clears
the bits of the host. -/
def ReadsSubnets : Prop :=
  ∀ text x n, '/' ∈ text.toList → plainSite text = some (x, n) →
    ∃ y, q.parseSubnet text = (.ipv4 y, (n : ℤ)) ∧ y >>> (32 - n) = x >>> (32 - n)

/-- Two readings of a text agree: it is a plain one, or if one of them has the address, the other
one has it from some text. -/
def ReadsAlike (read read' : String → IPAddress) (texts : List String) (d : Address)
    (text : String) : Prop :=
  plainSite text = none →
    ((read text).covers d = true → ∃ t ∈ texts, (read' t).covers d = true) ∧
    ((read' text).covers d = true → ∃ t ∈ texts, (read t).covers d = true)

end Realizes

/-! ## The members of the config -/

section Members

variable {q : Platform} {resolve : String → List Address} {s : TunnelSettings}
  {config config' : QJsonObject}

theorem lookup_members (o : QJsonObject) (key : String) : o.members.lookup key = o.value key := by
  have hlist : ∀ l : List (String × Json), l.lookup key = Maps.valueIn key l := by
    intro l
    induction l with
    | nil => rfl
    | cons e l ih =>
      rw [lookup_cons, Maps.valueIn]
      by_cases h : key = e.1
      · rw [if_pos h, beq_iff_eq.mpr h]
      · rw [if_neg h, Bool.eq_false_iff.mpr fun heq => h (beq_iff_eq.mp heq)]
        exact ih
  exact hlist o.members

/-- The keys that are written. -/
def splitKeys : List String :=
  ["splitTunnelType", "splitTunnelSites", "splitTunnelIncludeSites", "splitTunnelExcludeSites",
    "localSubnetExclusions", "appSplitTunnelType", "splitTunnelApps"]

theorem value_writeSplitTunneling {key : String} (h : key ∉ splitKeys) :
    (writeSplitTunneling q resolve s config).value key = config.value key := by
  simp only [splitKeys, mem_cons, not_mem_nil, or_false, not_or] at h
  obtain ⟨h₁, h₂, h₃, h₄, h₅, h₆, h₇⟩ := h
  simp only [writeSplitTunneling, value_insert, if_neg h₁, if_neg h₂, if_neg h₃, if_neg h₄,
    if_neg h₅, if_neg h₆, if_neg h₇]

theorem value_splitTunnelType : (writeSplitTunneling q resolve s config).value "splitTunnelType" =
    some (.double (manualSites q s config).1.toInt) := by
  simp [writeSplitTunneling, value_insert]

theorem value_splitTunnelSites : (writeSplitTunneling q resolve s config).value "splitTunnelSites" =
    stringArray (manualSites q s config).2 := by
  simp [writeSplitTunneling, value_insert]

/-- The key of the data of a WireGuard protocol is none of the others. -/
theorem dataKey_not_mem {protocolName : String} (h : isWireGuardProtocol protocolName = true) :
    protocolName ++ "_config_data" ∉ "protocol" :: "dns1" :: "dns2" :: splitKeys := by
  simp only [isWireGuardProtocol, Bool.or_eq_true, decide_eq_true_eq] at h
  rcases h with rfl | rfl <;> decide

/-- Old data stays an object, and nothing else changes. -/
theorem withNativeConfig_spec (h : isWireGuardProtocol (config.textAt "protocol") = true)
    {data : QJsonObject}
    (hdata : config.value (config.textAt "protocol" ++ "_config_data") = some data.toValue)
    (hnative : withNativeConfig config = some config') :
    (∃ data' : QJsonObject,
      config'.value (config.textAt "protocol" ++ "_config_data") = some data'.toValue) ∧
      ∀ key, key ≠ config.textAt "protocol" ++ "_config_data" →
        config'.value key = config.value key := by
  unfold withNativeConfig at hnative
  rw [if_pos h] at hnative
  obtain ⟨data', -, rfl⟩ := map_eq_some_iff.mp hnative
  split_ifs
  · exact ⟨⟨data, hdata⟩, fun _ _ => rfl⟩
  · refine ⟨⟨data', ?_⟩, fun key hkey => ?_⟩
    · rw [insertObject, value_insert, if_pos rfl]
    · rw [insertObject, value_insert, if_neg hkey]

end Members

/-! ## The texts of sites -/

section Texts

variable {q : Platform} {text : String} {bits : List Char} {x : BitVec 32} {n : ℕ}

/-- `atoi` and `QString::toInt` read a length. -/
theorem read_length : ∀ n ≤ 32, atoi (Nat.toDigits 10 n) = n ∧
    stringToInt (.ofList (Nat.toDigits 10 n)) = n := by
  decide +kernel

theorem plainSite_eq_some (h : plainSite text = some (x, n)) :
    ∃ address, HostAddress.ofString q (.ofList address) = .ipv4 x ∧ n ≤ 32 ∧
      (text.toList.splitOn '/' = [address] ∧ n = 32 ∨
        text.toList.splitOn '/' = [address, Nat.toDigits 10 n]) := by
  have haddress : ∀ {address}, readIPv4 address = some x →
      HostAddress.ofString q (.ofList address) = .ipv4 x := fun h => by
    rw [HostAddress.ofString, String.toList_ofList, h]
  unfold plainSite at h
  split at h
  · rename_i address hparts
    obtain ⟨y, hy, heq⟩ := map_eq_some_iff.mp h
    obtain ⟨rfl, rfl⟩ := Prod.mk.inj heq
    exact ⟨address, haddress hy, le_rfl, .inl ⟨hparts, rfl⟩⟩
  · rename_i address bits hparts
    split at h
    · rename_i y k hy hk
      split_ifs at h with hle
      obtain ⟨rfl, rfl⟩ := Prod.mk.inj (some.inj h)
      rw [readNat] at hk
      split_ifs at hk with hdigits
      rw [← some.inj hk, hdigits]
      exact ⟨address, haddress hy, some.inj hk ▸ hle, .inr hparts⟩
    · cases h
  · cases h

/-- A plain text is read as it is, by the client and in the request. -/
theorem read_of_plain (h : plainSite text = some (x, n)) :
    parsed q text = ⟨.ipv4 x, n⟩ ∧ parseSubnet q text = ⟨.ipv4 x, n⟩ := by
  obtain ⟨address, haddress, hle, ⟨hparts, rfl⟩ | hparts⟩ := plainSite_eq_some (q := q) h
  · have htext : text.toList = address := by
      have hjoin : ['/'].intercalate (text.toList.splitOn '/') = text.toList :=
        intercalate_splitOn '/'
      rw [← hjoin, hparts]
      exact append_nil _
    subst htext
    rw [String.ofList_toList] at haddress
    constructor
    · simp only [parsed, rangeOf, Json.text, Json.str?, getD_some, hparts, Range.toIPAddress,
        haddress]
      rfl
    · simp only [parseSubnet, hparts, map_cons, map_nil, String.ofList_toList, headD_cons,
        haddress]
      rfl
  · obtain ⟨hatoi, hint⟩ := read_length n hle
    constructor
    · simp only [parsed, rangeOf, Json.text, Json.str?, getD_some, hparts, Range.toIPAddress,
        haddress, hatoi]
    · simp only [parseSubnet, hparts, map_cons, map_nil, headD_cons, haddress, hint]

/-- The daemon reads it with Qt as it is, as to the addresses. -/
theorem covers_ofString_of_plain (hq : ReadsSubnets q) (h : plainSite text = some (x, n))
    (d : Address) :
    (IPAddress.ofString q text).covers d = IPAddress.covers ⟨.ipv4 x, n⟩ d := by
  obtain ⟨address, haddress, hle, hparts⟩ := plainSite_eq_some (q := q) h
  by_cases hslash : '/' ∈ text.toList
  · obtain ⟨y, hparse, hy⟩ := hq text x n hslash h
    have hread : IPAddress.ofString q text = ⟨.ipv4 y, n⟩ := by
      rw [IPAddress.ofString, if_pos hslash, hparse]
      show (⟨.ipv4 y, if (n : ℤ) ≥ 32 then 32 else (n : ℤ)⟩ : IPAddress) = _
      rw [show (if (n : ℤ) ≥ 32 then 32 else (n : ℤ)) = n by split_ifs <;> omega]
    have hnet : 0 ≤ (n : ℤ) ∧ (n : ℤ) ≤ 32 := by omega
    simp only [hread, IPAddress.covers, IPAddress.net, dif_pos hnet]
    cases d with
    | v4 d => simp only [any_some, Net.contains, Int.toNat_natCast, hy]
    | v6 d => rfl
  · rw [splitOn_eq_singleton hslash] at hparts
    obtain ⟨hsame, rfl⟩ : [text.toList] = [address] ∧ n = 32 := hparts.resolve_right (by simp)
    rw [← (cons.inj hsame).1, String.ofList_toList] at haddress
    rw [IPAddress.ofString, if_neg hslash, haddress]
    rfl

/-- Where plain texts are read alike, the others decide. -/
theorem readsAlike_iff {read read' : String → IPAddress} {texts : List String} {d : Address}
    (hplain : ∀ text x n, plainSite text = some (x, n) →
      (read text).covers d = (read' text).covers d) :
    ((∃ t ∈ texts, (read t).covers d = true) ↔ ∃ t ∈ texts, (read' t).covers d = true) ↔
      ∀ text ∈ texts, ReadsAlike read read' texts d text := by
  refine ⟨fun h text ht _ => ⟨fun hd => h.mp ⟨text, ht, hd⟩, fun hd => h.mpr ⟨text, ht, hd⟩⟩,
    fun h => ⟨?_, ?_⟩⟩
  all_goals
    rintro ⟨text, ht, hd⟩
    cases hp : plainSite text with
    | none => first | exact (h text ht hp).1 hd | exact (h text ht hp).2 hd
    | some p =>
      have hsame := hplain text p.1 p.2 hp
      first | exact ⟨text, ht, hsame.symm.trans hd⟩ | exact ⟨text, ht, hsame.trans hd⟩

end Texts

/-! ## The ranges of the request -/

section Ranges

variable {q : Platform} {raw : JsonObject} {d : Address}

theorem covers_any4 (d : BitVec 32) :
    ((rangeOf (.string "0.0.0.0/0")).toIPAddress q).covers (.v4 d) = true := by
  have hrange : (rangeOf (.string "0.0.0.0/0")).toIPAddress q = IPAddress.any4 := rfl
  have hzero : d >>> 32 = 0#32 := BitVec.ushiftRight_eq_zero (Nat.le_refl 32)
  rw [hrange]
  show (0#32 >>> 32 == d >>> 32) = true
  rw [hzero]
  rfl

variable {ips : List Json} {sites : List String}

/-- With `0.0.0.0/0` among the allowed addresses all IPv4 addresses are allowed. -/
theorem allowed_v4 (h : Json.string "0.0.0.0/0" ∈ ips) (d : BitVec 32) : Allowed q ips (.v4 d) :=
  ⟨_, h, covers_any4 d⟩

/-- The client reads IPv4 subnets only. -/
theorem Listed.eq_v4 (h : Listed q sites d) : ∃ a, d = .v4 a := by
  obtain ⟨site, -, h⟩ := h
  cases d with
  | v4 a => exact ⟨a, rfl⟩
  | v6 a =>
    exfalso
    unfold parseSubnet at h
    dsimp only at h
    split at h <;> rename_i haddr _
    · simp only [IPAddress.covers, IPAddress.net, haddr] at h
      split at h <;> cases h
    · simp only [IPAddress.covers, IPAddress.net, haddr] at h
      cases h
    · unfold IPAddress.covers IPAddress.net at h
      split at h
      · cases h
      · cases h
      · cases h

theorem eq_of_isDefaultAllowedIP (h : isDefaultAllowedIP ips = true) :
    ips = [.string "0.0.0.0/0", .string "::/0"] := by
  unfold isDefaultAllowedIP at h
  split at h
  · rw [Bool.and_eq_true, beq_iff_eq, beq_iff_eq] at h
    rw [h.1, h.2]
  · cases h

theorem exists_mem_map_rangeOf :
    (∃ r ∈ ips.map rangeOf, (r.toIPAddress q).covers d = true) ↔ Allowed q ips d := by
  simp only [List.mem_map, exists_exists_and_eq_and, Allowed]

/-- What the ranges of texts allow. -/
theorem allowed_map_string :
    Allowed q (sites.map .string) d ↔ ∃ text ∈ sites, (parsed q text).covers d = true := by
  simp only [Allowed, List.mem_map, exists_exists_and_eq_and]
  rfl

/-- The ranges of a config are not replaced. -/
theorem exists_range_of_plain (h : isDefaultAllowedIP (allowedIps raw) = false)
    (hne : allowedIps raw ≠ []) :
    (∃ r ∈ allowedIPAddresses raw, (r.toIPAddress q).covers d = true) ↔
      Allowed q (allowedIps raw) d := by
  have hcond : (!isDefaultAllowedIP (allowedIps raw) && !(allowedIps raw).isEmpty) = true := by
    rw [h, isEmpty_eq_false_iff.mpr hne]
    rfl
  have hranges : allowedIPAddresses raw = (allowedIps raw).map rangeOf := if_pos hcond
  rw [hranges, exists_mem_map_rangeOf]

theorem allowedIPAddresses_of_default (h : isDefaultAllowedIP (allowedIps raw) = true) :
    allowedIPAddresses raw = (if splitTunnelType raw = 0 ∨ splitTunnelType raw = 2 then
      [⟨"0.0.0.0", 0, false⟩, ⟨"::", 0, true⟩] else []) ++
      if splitTunnelType raw = 1 then (splitTunnelSites raw).map rangeOf else [] := by
  refine if_neg fun hcond => ?_
  rw [show Json.arrayValue ((wgConfig raw).lookup "allowed_ips") = allowedIps raw from rfl,
    h] at hcond
  cases hcond

/-- They are replaced by those of the sites. -/
theorem exists_range_of_sites (h : isDefaultAllowedIP (allowedIps raw) = true)
    (htype : splitTunnelType raw = 1) :
    (∃ r ∈ allowedIPAddresses raw, (r.toIPAddress q).covers d = true) ↔
      Allowed q (splitTunnelSites raw) d := by
  have hother : ¬(splitTunnelType raw = 0 ∨ splitTunnelType raw = 2) := by omega
  rw [allowedIPAddresses_of_default h, if_neg hother, if_pos htype, nil_append,
    exists_mem_map_rangeOf]

/-- Without excluded sites the ranges decide. -/
theorem tunneled_of_ne_two (htype : splitTunnelType raw ≠ 2) :
    Tunneled q raw d ↔ ∃ r ∈ allowedIPAddresses raw, (r.toIPAddress q).covers d = true := by
  rw [Tunneled, excludedSites, if_neg htype]
  exact and_iff_left fun ⟨_, h, _⟩ => not_mem_nil h

/-- In the modes with all traffic in the tunnel the ranges are those of the config. -/
theorem exists_range_iff_allowed (hall : Json.string "0.0.0.0/0" ∈ allowedIps raw)
    (htype : splitTunnelType raw = 0 ∨ splitTunnelType raw = 2) :
    (∃ r ∈ allowedIPAddresses raw, (r.toIPAddress q).covers d = true) ↔
      Allowed q (allowedIps raw) d := by
  cases hdefault : isDefaultAllowedIP (allowedIps raw) with
  | true =>
    -- they are replaced by those of a full tunnel
    have hone : ¬splitTunnelType raw = 1 := by omega
    rw [allowedIPAddresses_of_default hdefault, if_pos htype, if_neg hone, append_nil,
      eq_of_isDefaultAllowedIP hdefault, Allowed]
    simp only [mem_cons, not_mem_nil, or_false, exists_eq_or_imp, exists_eq_left]
    exact Iff.rfl
  | false => exact exists_range_of_plain hdefault (ne_nil_of_mem hall)

/-- Which addresses go into the tunnel if only the sites should. -/
theorem tunneled_only_iff (hall : Json.string "0.0.0.0/0" ∈ allowedIps raw)
    (htype : splitTunnelType raw = 1) (hsites : splitTunnelSites raw = sites.map .string) :
    (∀ d, Tunneled q raw d ↔ Listed q sites d) ↔
      if isDefaultAllowedIP (allowedIps raw) then
        ∀ d, ∀ text ∈ sites, ReadsAlike (parsed q) (parseSubnet q) sites d text
      else ∀ d, Allowed q (allowedIps raw) d → Listed q sites d := by
  simp only [tunneled_of_ne_two (show splitTunnelType raw ≠ 2 by omega)]
  cases hdefault : isDefaultAllowedIP (allowedIps raw) with
  | true =>
    simp only [exists_range_of_sites hdefault htype, hsites, allowed_map_string]
    exact forall_congr' fun d => readsAlike_iff fun text x n h => by
      rw [(read_of_plain h).1, (read_of_plain h).2]
  | false =>
    simp only [exists_range_of_plain hdefault (ne_nil_of_mem hall)]
    refine forall_congr' fun d => ⟨Iff.mp, fun h => ⟨h, fun hlisted => ?_⟩⟩
    obtain ⟨a, rfl⟩ := hlisted.eq_v4
    exact allowed_v4 hall a

end Ranges

/-! ## The announced mode -/

section Announced

variable {q : Platform} {resolve : String → List Address} {s : TunnelSettings}
  {config config' : QJsonObject}

/-- The settings split by sites in a mode, and there are some. -/
structure SplitsBy (q : Platform) (s : TunnelSettings) (mode : RouteMode) : Prop where
  enabled : s.isSitesSplitTunnelingEnabled = true
  routeMode : s.routeMode = mode
  sites : s.getVpnIps q mode ≠ []

/-- The sites that go into the tunnel, and the name servers. -/
def forwardedSites (q : Platform) (s : TunnelSettings) (config : QJsonObject) : List String :=
  s.getVpnIps q .vpnOnlyForwardSites ++ [config.textAt "dns1", config.textAt "dns2"]

theorem manualSites_mode_iff {mode : RouteMode} (h : allowsSites config = true)
    (hmode : mode ≠ .vpnAllSites) :
    (manualSites q s config).1 = mode ↔ SplitsBy q s mode := by
  unfold manualSites
  rw [if_neg (Bool.eq_false_iff.not.mpr (not_not.mpr h))]
  dsimp only
  constructor
  · intro heq
    split_ifs at heq with henabled hsites honly
    · exact absurd heq.symm hmode
    · exact absurd heq.symm hmode
    all_goals exact ⟨Bool.eq_true_of_not_eq_false henabled, heq, heq ▸ hsites⟩
  · rintro ⟨henabled, rfl, hsites⟩
    rw [henabled, if_neg Bool.noConfusion, if_neg hsites]
    split_ifs <;> rfl

theorem manualSites_sites {mode : RouteMode} (h : allowsSites config = true)
    (hmode : SplitsBy q s mode) :
    (manualSites q s config).2 = if mode = .vpnOnlyForwardSites then forwardedSites q s config
      else s.getVpnIps q mode := by
  obtain ⟨henabled, rfl, hsites⟩ := hmode
  unfold manualSites
  rw [if_neg (Bool.eq_false_iff.not.mpr (not_not.mpr h)), henabled, if_neg Bool.noConfusion]
  dsimp only
  rw [if_neg hsites]
  split_ifs with honly
  · rw [honly, forwardedSites]
  · rfl

/-- What the daemon gets of a config that is written. -/
structure Emitted (q : Platform) (s : TunnelSettings) (config config' : QJsonObject) : Prop where
  splitTunnelType : splitTunnelType config'.members = (manualSites q s config).1.toInt
  splitTunnelSites : splitTunnelSites config'.members = (manualSites q s config).2.map .string
  allows : allowsSites config' = allowsSites config

theorem RouteMode.toInt_injective : Function.Injective RouteMode.toInt := by
  intro a b h
  cases a <;> cases b <;> first | rfl | cases h

theorem toInt_intValue (mode : RouteMode) :
    Json.intValue (some (.double (mode.toInt : ℚ))) = mode.toInt := by
  cases mode <;> rfl

theorem protocol_writeSplitTunneling :
    (writeSplitTunneling q resolve s config).textAt "protocol" = config.textAt "protocol" := by
  rw [textAt, value_writeSplitTunneling (by decide), textAt]

theorem emitted_writeSplitTunneling
    (h : isWireGuardProtocol (config.textAt "protocol") = true) :
    Emitted q s config (writeSplitTunneling q resolve s config) := by
  have hkey := dataKey_not_mem h
  simp only [mem_cons, not_or] at hkey
  refine ⟨?_, ?_, ?_⟩
  · rw [LocalSocketController.splitTunnelType, lookup_members, value_splitTunnelType,
      toInt_intValue]
  · rw [LocalSocketController.splitTunnelSites, lookup_members, value_splitTunnelSites]
    rfl
  · unfold allowsSites
    dsimp only
    rw [protocol_writeSplitTunneling, objectAt, value_writeSplitTunneling hkey.2.2.2, objectAt]

/-- The daemon reads the allowed addresses of the data. -/
theorem allowedIps_members {data : QJsonObject}
    (h : config.value (config.textAt "protocol" ++ "_config_data") = some data.toValue) :
    allowedIps config.members =
      (config.objectAt (config.textAt "protocol" ++ "_config_data")).arrayAt "allowed_ips" := by
  have hdata : wgConfig config.members = data.members := by
    rw [wgConfig, lookup_members, lookup_members]
    show Json.objectValue (config.value (config.textAt "protocol" ++ "_config_data")) = _
    rw [h]
    rfl
  rw [allowedIps, hdata, lookup_members, objectAt, h, toObject_toValue, arrayAt]

/-- For every WireGuard config and all settings with which sites count: the request to the daemon
realizes the announced mode if all sites and name servers are plain texts and, with only the sites
in the tunnel, the allowed addresses of the config are the default ones or all listed. A text that
is not plain has to be read by the daemon as by the client, as far as no other text has the
address. -/
theorem realizes_type_iff (hq : ReadsSubnets q)
    (hwg : isWireGuardProtocol (config.textAt "protocol") = true) {data : QJsonObject}
    (hdata : config.value (config.textAt "protocol" ++ "_config_data") = some data.toValue)
    (happend : appendSplitTunnelingConfig q resolve s config = some config')
    (hallows : allowsSites config' = true) :
    RealizesType q config'.members ↔
      (SplitsBy q s .vpnOnlyForwardSites →
        if isDefaultAllowedIP (allowedIps config'.members) then
          ∀ d, ∀ text ∈ forwardedSites q s config,
            ReadsAlike (parsed q) (parseSubnet q) (forwardedSites q s config) d text
        else ∀ d, Allowed q (allowedIps config'.members) d →
          Listed q (forwardedSites q s config) d) ∧
      (SplitsBy q s .vpnAllExceptSites → ∀ d, ∀ site ∈ s.getVpnIps q .vpnAllExceptSites,
        ReadsAlike (IPAddress.ofString q) (parseSubnet q) (s.getVpnIps q .vpnAllExceptSites)
          (.v4 d) site) := by
  obtain ⟨native, hnative, rfl⟩ := map_eq_some_iff.mp happend
  obtain ⟨⟨data', hdata'⟩, hsame⟩ := withNativeConfig_spec hwg hdata hnative
  have hkey := dataKey_not_mem hwg
  simp only [mem_cons, not_or] at hkey
  have hprotocol : native.textAt "protocol" = config.textAt "protocol" := by
    rw [textAt, hsame _ (Ne.symm hkey.1), textAt]
  have hforwarded : forwardedSites q s config = forwardedSites q s native := by
    rw [forwardedSites, textAt, textAt, ← hsame _ (Ne.symm hkey.2.1),
      ← hsame _ (Ne.symm hkey.2.2.1)]
    rfl
  rw [← hprotocol] at hwg hdata' hkey
  obtain ⟨htype, hsites, hallows'⟩ := @emitted_writeSplitTunneling q resolve s native hwg
  set out := writeSplitTunneling q resolve s native with hout
  have hprotocol' : out.textAt "protocol" = native.textAt "protocol" := by
    rw [hout, textAt, value_writeSplitTunneling (by decide), textAt]
  have hall : Json.string "0.0.0.0/0" ∈ allowedIps out.members := by
    have hvalue : out.value (out.textAt "protocol" ++ "_config_data") = some data'.toValue := by
      rw [hprotocol', hout, value_writeSplitTunneling hkey.2.2.2, hdata']
    rw [allowedIps_members hvalue]
    unfold allowsSites at hallows
    dsimp only at hallows
    rw [hprotocol', hwg] at hallows
    rw [hprotocol']
    exact of_decide_eq_true hallows
  rw [hallows] at hallows'
  have hannounced : announcedSites out.members = (manualSites q s native).2 := by
    rw [announcedSites, hsites, List.map_map]
    exact map_id' _
  rw [hforwarded]
  have hmode : ∀ mode ≠ .vpnAllSites,
      (splitTunnelType out.members = mode.toInt ↔ SplitsBy q s mode) := fun mode hne => by
    rw [← manualSites_mode_iff hallows'.symm hne, htype, RouteMode.toInt_injective.eq_iff]
  have honly : splitTunnelType out.members = 1 ↔ _ := hmode .vpnOnlyForwardSites (by decide)
  have hexcept : splitTunnelType out.members = 2 ↔ _ := hmode .vpnAllExceptSites (by decide)
  -- with the sites outside, the texts decide
  have houtside : SplitsBy q s .vpnAllExceptSites →
      ((∀ d, Tunneled q out.members (.v4 d) ↔ ¬Listed q (announcedSites out.members) (.v4 d)) ↔
        ∀ d, ∀ site ∈ s.getVpnIps q .vpnAllExceptSites, ReadsAlike (IPAddress.ofString q)
          (parseSubnet q) (s.getVpnIps q .vpnAllExceptSites) (.v4 d) site) := by
    intro h
    have htwo := hexcept.mpr h
    have hexcluded : excludedSites out.members = announcedSites out.members := if_pos htwo
    refine forall_congr' fun d => ?_
    rw [Tunneled, exists_range_iff_allowed hall (.inr htwo), and_iff_right (allowed_v4 hall d),
      hexcluded, hannounced, manualSites_sites hallows'.symm h, if_neg RouteMode.noConfusion,
      Listed, not_iff_not]
    exact readsAlike_iff fun text x n hplain => by
      rw [covers_ofString_of_plain hq hplain, (read_of_plain hplain).2]
  constructor
  · intro h
    refine ⟨fun hmode => ?_, fun hmode => (houtside hmode).mp (h.except (hexcept.mpr hmode))⟩
    rw [← (manualSites_sites hallows'.symm hmode).trans (if_pos rfl)]
    refine (tunneled_only_iff hall (honly.mpr hmode) hsites).mp ?_
    rw [← hannounced]
    exact h.only (honly.mpr hmode)
  · rintro ⟨hinside, hexcluded⟩
    refine ⟨fun hzero d => ?_, fun hone => ?_, fun htwo => ?_⟩
    · rw [tunneled_of_ne_two (by omega)]
      exact exists_range_iff_allowed hall (.inl hzero)
    · rw [hannounced]
      refine (tunneled_only_iff hall hone hsites).mpr ?_
      rw [(manualSites_sites hallows'.symm (honly.mp hone)).trans (if_pos rfl)]
      exact hinside (honly.mp hone)
    · exact (houtside (hexcept.mp htwo)).mpr (hexcluded (hexcept.mp htwo))

end Announced

/-! ## Two configs -/

/-- A platform that reads plain subnets as Qt does. -/
def sitePlatform : Platform :=
  { Platform.plain with
    parseSubnet := fun text =>
      match plainSite text with
      | some (x, n) => (.ipv4 x, n)
      | none => (.null, -1) }

theorem readsSubnets_sitePlatform : ReadsSubnets sitePlatform := by
  intro text x n _ h
  refine ⟨x, ?_, rfl⟩
  show (match plainSite text with | some (x, n) => _ | none => _) = _
  rw [h]

/-- Only `198.51.100.0/24` should go into the tunnel. -/
def forwardSettings : TunnelSettings where
  isSitesSplitTunnelingEnabled := true
  routeMode := .vpnOnlyForwardSites
  vpnSites _ := Maps.SortedMap.empty.set "198.51.100.0/24" (some "")
  splitPresetsEnabled := []
  splitPresetsCache := []
  localSubnetExclusions := []
  isAppsSplitTunnelingEnabled := false
  appsRouteMode := .vpnAllApps
  vpnApps _ := []

/-- The part of a native config with the allowed addresses. -/
def serverIni : String := "[Peer]\nAllowedIPs = 0.0.0.0/0, ::/0"

/-- The config of a server whose data has the members. -/
def serverConfiguration (data : List (String × Json)) : QJsonObject :=
  createVpnConfiguration ("1.1.1.1", "1.0.0.1") (.ofMembers [("hostName", .string "203.0.113.7")]) .awg
    serverIni (.ofMembers data)

/-- What is written for such a server. -/
def serverEmitted (data : List (String × Json)) : Option QJsonObject :=
  appendSplitTunnelingConfig sitePlatform (fun _ => []) forwardSettings (serverConfiguration data)

/-- With the default addresses in the config, only the site and the name servers go into the tunnel.
-/
theorem realizes_type_default :
    ∃ config', serverEmitted [("allowed_ips", .array [.string "0.0.0.0/0", .string "::/0"])] =
        some config' ∧
      allowsSites config' = true ∧ splitTunnelType config'.members = 1 ∧
      RealizesType sitePlatform config'.members := by
  set data : List (String × Json) :=
    [("allowed_ips", .array [.string "0.0.0.0/0", .string "::/0"])] with hdata
  have hemitted : (serverEmitted data).map (fun config => (allowsSites config,
      splitTunnelType config.members, isDefaultAllowedIP (allowedIps config.members))) =
      some (true, 1, true) := by
    rw [hdata]
    decide +kernel
  obtain ⟨config', happend, hconfig⟩ := map_eq_some_iff.mp hemitted
  simp only [Prod.mk.injEq] at hconfig
  obtain ⟨hallows, htype, hdefault⟩ := hconfig
  have hwg : isWireGuardProtocol ((serverConfiguration data).textAt "protocol") = true := by
    rw [hdata]
    decide +kernel
  have hvalue : (serverConfiguration data).value ((serverConfiguration data).textAt "protocol" ++
      "_config_data") = some (wireguardData serverIni (.ofMembers data)).toValue := by
    rw [hdata]
    decide +kernel
  refine ⟨config', happend, hallows, htype,
    (realizes_type_iff readsSubnets_sitePlatform hwg hvalue happend hallows).mpr
      ⟨fun _ => ?_, fun h => nomatch h.routeMode⟩⟩
  rw [if_pos hdefault]
  have hplain : ∀ text ∈ forwardedSites sitePlatform forwardSettings (serverConfiguration data),
      plainSite text ≠ none := by
    rw [hdata]
    decide +kernel
  exact fun _ text htext hnone => absurd hnone (hplain text htext)

/-- Without allowed addresses in the data those of the native config are taken, of which only
`0.0.0.0/0` is left. The site is announced, and all addresses go into the tunnel. -/
theorem announced_sites_ignored :
    ∃ config', serverEmitted [] = some config' ∧ allowsSites config' = true ∧
      splitTunnelType config'.members = 1 ∧
      announcedSites config'.members = ["198.51.100.0/24", "1.1.1.1", "1.0.0.1"] ∧
      Tunneled sitePlatform config'.members (.v4 0x08080808#32) ∧
      ¬Listed sitePlatform (announcedSites config'.members) (.v4 0x08080808#32) := by
  have hemitted : (serverEmitted []).map (fun config => (allowsSites config,
      splitTunnelType config.members, announcedSites config.members,
      allowedIPAddresses config.members, excludedSites config.members)) =
      some (true, 1, ["198.51.100.0/24", "1.1.1.1", "1.0.0.1"], [⟨"0.0.0.0", 0, false⟩], []) := by
    decide +kernel
  obtain ⟨config', happend, hconfig⟩ := map_eq_some_iff.mp hemitted
  simp only [Prod.mk.injEq] at hconfig
  obtain ⟨hallows, htype, hsites, hranges, hexcluded⟩ := hconfig
  refine ⟨config', happend, hallows, htype, hsites, ⟨?_, ?_⟩, ?_⟩
  · rw [hranges]
    exact ⟨_, mem_singleton_self _, covers_any4 _⟩
  · rw [hexcluded]
    exact fun ⟨_, h, _⟩ => not_mem_nil h
  · rw [hsites]
    unfold Listed
    decide +kernel

end Dopamine.Client
