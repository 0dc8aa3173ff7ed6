import Dopamine.Daemon.InterfaceConfig
import Mathlib.Algebra.Order.Group.Unbundled.Int
import Mathlib.Data.List.Infix

/-!
# The request of the client

`LocalSocketController::activate` of `client/mozilla/localsocketcontroller.cpp` makes the `activate`
request for the daemon from the config of the client: the allowed ranges come from the config of the
tunnel or from split tunneling, the excluded addresses are the server, the sites and the local
subnet exclusions. The daemon reads it with `Daemon::parseConfig` (`parseConfig_activate`).

The JSON text between the two is read as it was written.
-/

namespace Dopamine

open List

namespace LocalSocketController

/-- `isspace` of C. -/
def isSpaceC (c : Char) : Bool := c = ' ' || (9 ≤ c.toNat && c.toNat ≤ 13)

/-- `atoi`: the number of `strtol`, cut to an `int`. -/
def atoi (s : List Char) : ℤ :=
  let number (l : List Char) : ℤ := (Nat.ofDigitChars 10 (l.takeWhile Char.isDigit) 0 : ℤ)
  let n :=
    match s.dropWhile isSpaceC with
    | '-' :: l => -number l
    | '+' :: l => number l
    | l => number l
  (max (-9223372036854775808) (min 9223372036854775807 n)).bmod 4294967296

/-- An entry of `allowedIPAddressRanges`. -/
structure Range where
  address : String
  range : ℤ
  isIpv6 : Bool
deriving DecidableEq

def Range.toJson (r : Range) : Json :=
  .object [("address", .string r.address), ("range", .double r.range), ("isIpv6", .bool r.isIpv6)]

/-- A network of the config as a range: the text up to the first slash, and the number up to the
second one. -/
def rangeOf (v : Json) : Range :=
  let ipRange := Json.text (some v)
  match ipRange.toList.splitOn '/' with
  | address :: range :: _ => ⟨String.ofList address, atoi range, false⟩
  | _ => ⟨ipRange, 32, false⟩

/-- `plainAllowedIP == defaultAllowedIP`. -/
def isDefaultAllowedIP : List Json → Bool
  | [.string a, .string b] => a == "0.0.0.0/0" && b == "::/0"
  | _ => false

section Raw

variable (raw : JsonObject)

/-- The config of the tunnel. -/
def wgConfig : JsonObject :=
  Json.objectValue (raw.lookup (Json.text (raw.lookup "protocol") ++ "_config_data"))

def splitTunnelType : ℤ := Json.intValue (raw.lookup "splitTunnelType")

def splitTunnelSites : List Json := Json.arrayValue (raw.lookup "splitTunnelSites")

/-- `jsAllowedIPAddesses`. -/
def allowedIPAddresses : List Range :=
  let plainAllowedIP := Json.arrayValue ((wgConfig raw).lookup "allowed_ips")
  if !isDefaultAllowedIP plainAllowedIP && !plainAllowedIP.isEmpty then plainAllowedIP.map rangeOf
  else
    (if splitTunnelType raw = 0 ∨ splitTunnelType raw = 2 then
      [⟨"0.0.0.0", 0, false⟩, ⟨"::", 0, true⟩] else []) ++
    if splitTunnelType raw = 1 then (splitTunnelSites raw).map rangeOf else []

def localSubnetExclusions : List String :=
  ((Json.arrayValue (raw.lookup "localSubnetExclusions")).map fun v => Json.text (some v)).filter
    (· ≠ "")

def excludedSites : List String :=
  if splitTunnelType raw = 2 then (splitTunnelSites raw).map fun v => Json.text (some v) else []

/-- `jsExcludedAddresses`. An undefined value in an array is null. -/
def excludedAddresses : List Json :=
  ((wgConfig raw).lookup "hostName").getD .null ::
    (excludedSites raw ++ localSubnetExclusions raw).map Json.string

/-- The members that are there on AmneziaWG, and otherwise if the first eleven of them are. -/
def awgKeys : List String :=
  ["Jc", "Jmin", "Jmax", "S1", "S2", "S3", "S4", "H1", "H2", "H3", "H4", "I1", "I2", "I3", "I4",
    "I5", "RandomTrailers", "DisableCookies", "HeaderProtectionKey", "ContentPaddingAddition",
    "RekeyAfterTime", "RekeyTimeout", "RejectAfterTime", "KeepaliveTimeout", "MaxHandshakeAttempts"]

def awgMembers : List (String × Option Json) :=
  if Json.text (raw.lookup "protocol") = "awg" ∨
      (awgKeys.take 11).all (fun name => ((wgConfig raw).lookup name).isSome) = true then
    awgKeys.map fun name => (name, (wgConfig raw).lookup name)
  else []

def members : List (String × Option Json) :=
  [("type", some (.string "activate")),
    ("privateKey", (wgConfig raw).lookup "client_priv_key"),
    ("deviceIpv4Address", (wgConfig raw).lookup "client_ip"),
    ("deviceIpv6Address", some (.string "fd58:baa6:dead::1")),
    ("serverPublicKey", (wgConfig raw).lookup "server_pub_key"),
    ("serverPskKey", (wgConfig raw).lookup "psk_key"),
    ("serverIpv4AddrIn", (wgConfig raw).lookup "hostName"),
    ("deviceMTU", (wgConfig raw).lookup "mtu"),
    ("serverPort", some (.double (Json.intValue ((wgConfig raw).lookup "port")))),
    ("serverIpv4Gateway", (wgConfig raw).lookup "hostName"),
    ("primaryDnsServer", raw.lookup "dns1"),
    -- the secondary server is not used beside AmneziaDNS
    ("secondaryDnsServer",
      if "172.29.172.254".toList <:+: (Json.text (raw.lookup "dns1")).toList then none
      else raw.lookup "dns2"),
    ("allowedIPAddressRanges", some (.array ((allowedIPAddresses raw).map Range.toJson))),
    ("excludedAddresses", some (.array (excludedAddresses raw))),
    -- `Settings::VpnAllExceptApps`
    ("vpnDisabledApps",
      if Json.intValue (raw.lookup "appSplitTunnelType") = 2 then
        some (.array (Json.arrayValue (raw.lookup "splitTunnelApps")))
      else none),
    ("allowedDnsServers", some (.array (Json.arrayValue (raw.lookup "allowedDnsServers")))),
    ("killSwitchOption", raw.lookup "killSwitchOption"),
    ("routeLanThroughVpn", raw.lookup "routeLanThroughVpn")] ++ awgMembers raw

/-- `activate`: the request. A member with an undefined value is not inserted. -/
def activate : JsonObject := (members raw).filterMap fun m => m.2.map fun v => (m.1, v)

end Raw

/-! ## What the daemon reads -/

section Members

variable {l : List (String × Option Json)} {name : String}

theorem lookup_filterMap_eq_none (h : name ∉ l.map Prod.fst) :
    (l.filterMap fun m => m.2.map fun v => (m.1, v)).lookup name = none := by
  refine lookup_eq_none_iff.mpr fun p hp => ?_
  obtain ⟨m, hm, hp⟩ := mem_filterMap.mp hp
  obtain ⟨v, -, rfl⟩ := Option.map_eq_some_iff.mp hp
  exact bne_iff_ne.mpr fun heq => h (mem_map.mpr ⟨m, hm, heq.symm⟩)

/-- The value of a member whose name stands once in the list. -/
theorem lookup_filterMap_eq (hl : (l.map Prod.fst).Nodup) {v : Option Json} (h : (name, v) ∈ l) :
    (l.filterMap fun m => m.2.map fun v => (m.1, v)).lookup name = v := by
  induction l with
  | nil => cases h
  | cons m l ih =>
    obtain ⟨hm, hl⟩ := nodup_cons.mp hl
    rcases mem_cons.mp h with rfl | h
    · cases v with
      | none =>
        rw [filterMap_cons_none rfl]
        exact lookup_filterMap_eq_none hm
      | some v => exact lookup_cons_self
    · have hne : ¬(name == m.1) = true := fun heq => hm
        (mem_map.mpr ⟨_, h, beq_iff_eq.mp heq⟩)
      cases hv : m.2 with
      | none =>
        rw [filterMap_cons, hv]
        exact ih hl h
      | some w =>
        rw [filterMap_cons, hv]
        show lookup name ((m.1, w) :: _) = v
        rw [lookup_cons, Bool.eq_false_iff.mpr hne]
        exact ih hl h

end Members

/-- The names of the members that every protocol has. -/
def plainKeys : List String :=
  ["type", "privateKey", "deviceIpv4Address", "deviceIpv6Address", "serverPublicKey", "serverPskKey",
    "serverIpv4AddrIn", "deviceMTU", "serverPort", "serverIpv4Gateway", "primaryDnsServer",
    "secondaryDnsServer", "allowedIPAddressRanges", "excludedAddresses", "vpnDisabledApps",
    "allowedDnsServers", "killSwitchOption", "routeLanThroughVpn"]

theorem names_members (raw : JsonObject) :
    (members raw).map Prod.fst = plainKeys ++ awgKeys ∨
      (members raw).map Prod.fst = plainKeys := by
  have hplain : (members raw).map Prod.fst = plainKeys ++ (awgMembers raw).map Prod.fst := rfl
  rw [hplain]
  unfold awgMembers
  split
  · left
    rw [map_map]
    rfl
  · right
    rfl

theorem nodup_members (raw : JsonObject) : ((members raw).map Prod.fst).Nodup := by
  rcases names_members raw with h | h <;> rw [h] <;> decide

variable {name : String} {raw : JsonObject} {r : Range}

theorem lookup_activate (raw : JsonObject) {v : Option Json} (h : (name, v) ∈ members raw) :
    (activate raw).lookup name = v :=
  lookup_filterMap_eq (nodup_members raw) h

theorem lookup_activate_eq_none (raw : JsonObject) (h : name ∉ (members raw).map Prod.fst) :
    (activate raw).lookup name = none :=
  lookup_filterMap_eq_none h

/-- `atoi` returns an `int`. -/
theorem atoi_bounds (s : List Char) : -2147483648 ≤ atoi s ∧ atoi s ≤ 2147483647 := by
  have hbmod : ∀ n : ℤ, -2147483648 ≤ n.bmod 4294967296 ∧ n.bmod 4294967296 ≤ 2147483647 := by
    intro n
    have hlt := Int.bmod_lt (x := n) (m := 4294967296) (by decide)
    have hle := Int.le_bmod (x := n) (m := 4294967296) (by decide)
    omega
  exact hbmod _

theorem rangeOf_bounds (v : Json) :
    -2147483648 ≤ (rangeOf v).range ∧ (rangeOf v).range ≤ 2147483647 := by
  unfold rangeOf
  dsimp only
  split
  · exact atoi_bounds _
  · show -2147483648 ≤ (32 : ℤ) ∧ (32 : ℤ) ≤ 2147483647
    decide

theorem allowedIPAddresses_bounds (h : r ∈ allowedIPAddresses raw) :
    -2147483648 ≤ r.range ∧ r.range ≤ 2147483647 := by
  have hmap : ∀ {l : List Json}, r ∈ l.map rangeOf →
      -2147483648 ≤ r.range ∧ r.range ≤ 2147483647 := by
    intro l h
    obtain ⟨v, -, rfl⟩ := mem_map.mp h
    exact rangeOf_bounds v
  unfold allowedIPAddresses at h
  dsimp only at h
  split at h
  · exact hmap h
  rcases mem_append.mp h with h | h <;> split at h
  · rcases mem_pair.mp h with rfl | rfl <;> exact ⟨by decide, by decide⟩
  · cases h
  · exact hmap h
  · cases h

/-- The range as the daemon has it. -/
def Range.toIPAddress (q : Platform) (r : Range) : IPAddress :=
  ⟨HostAddress.ofString q r.address, r.range⟩

theorem parseRange_toJson (q : Platform) (h : -2147483648 ≤ r.range ∧ r.range ≤ 2147483647) :
    Daemon.parseRange q r.toJson = .ok (r.toIPAddress q) := by
  have hint : Json.toInt (r.range : ℚ) = r.range := by
    rw [Json.toInt, if_pos ⟨Rat.den_intCast _, Rat.num_intCast _ ▸ h⟩, Rat.num_intCast]
  have hrange : Daemon.parseRange q r.toJson =
      .ok ⟨HostAddress.ofString q r.address, Json.toInt (r.range : ℚ)⟩ := rfl
  rw [hrange, hint]
  rfl

def hostName (raw : JsonObject) : String := Json.text ((wgConfig raw).lookup "hostName")

def excludedTexts (raw : JsonObject) : List String :=
  hostName raw :: (excludedSites raw ++ localSubnetExclusions raw)

/-- If all excluded addresses are read, they are texts. -/
theorem texts_of_mapM {f : Json → Except LogLine String} {l : List String}
    (hf : ∀ v s, f v = .ok s ↔ v = .string s) (h : (excludedAddresses raw).mapM f = .ok l) :
    l = excludedTexts raw := by
  have hstrings : ∀ texts : List String, (texts.map Json.string).mapM f = .ok texts := by
    intro texts
    induction texts with
    | nil => rfl
    | cons s texts ih =>
      rw [map_cons, mapM_cons, (hf _ _).mpr rfl, ih]
      rfl
  rw [excludedAddresses, mapM_cons] at h
  obtain ⟨host, hhost, h⟩ := Fallible.bind_eq_ok.mp h
  obtain ⟨rest, hrest, h⟩ := Fallible.bind_eq_ok.mp h
  rw [hstrings] at hrest
  rw [← Except.ok.inj h, ← Except.ok.inj hrest, excludedTexts, hostName]
  congr 1
  cases hname : (wgConfig raw).lookup "hostName" with
  | none =>
    rw [hname] at hhost
    cases (hf _ _).mp hhost
  | some v =>
    rw [hname] at hhost
    rw [show v = Json.string host from (hf _ _).mp hhost]
    rfl

/-- What the daemon makes of the request, as far as the routes depend on it. -/
theorem parseConfig_activate {q : Platform} {config : InterfaceConfig}
    (h : Daemon.parseConfig q (activate raw) = .ok config) :
    config.hopType = .SingleHop ∧ config.serverIpv4AddrIn = hostName raw ∧
      config.serverIpv6AddrIn = "" ∧
      config.routeLanThroughVpn = stringToBool (Json.text (raw.lookup "routeLanThroughVpn")) ∧
      config.excludedAddresses = excludedTexts raw ∧
      ∀ r, r ∈ config.allowedIPAddressRanges ↔
        r ∈ (allowedIPAddresses raw).map (Range.toIPAddress q) := by
  have hhop : (activate raw).lookup "hopType" = none := lookup_activate_eq_none raw (by
    rcases names_members raw with h | h <;> rw [h] <;> decide)
  have hipv6 : (activate raw).lookup "serverIpv6AddrIn" = none := lookup_activate_eq_none raw (by
    rcases names_members raw with h | h <;> rw [h] <;> decide)
  have hipv4 : (activate raw).lookup "serverIpv4AddrIn" = (wgConfig raw).lookup "hostName" :=
    lookup_activate raw (mem_append_left _ (mem_of_getElem? (i := 6) rfl))
  have hlan : (activate raw).lookup "routeLanThroughVpn" = raw.lookup "routeLanThroughVpn" :=
    lookup_activate raw (mem_append_left _ (mem_of_getElem? (i := 17) rfl))
  have hexcluded : (activate raw).lookup "excludedAddresses" =
      some (.array (excludedAddresses raw)) :=
    lookup_activate raw (mem_append_left _ (mem_of_getElem? (i := 13) rfl))
  have hranges : (activate raw).lookup "allowedIPAddressRanges" =
      some (.array ((allowedIPAddresses raw).map Range.toJson)) :=
    lookup_activate raw (mem_append_left _ (mem_of_getElem? (i := 12) rfl))
  obtain ⟨hhopType, haddr4, haddr6, hroute, htexts⟩ := Daemon.parseConfig_routes h
  refine ⟨?_, ?_, ?_, ?_, ?_, fun r => ?_⟩
  · unfold Daemon.parseHopType at hhopType
    rw [hhop] at hhopType
    exact (Except.ok.inj hhopType).symm
  · rw [haddr4, Daemon.requestText, hipv4]
    rfl
  · rw [haddr6, Daemon.requestText, hipv6]
    rfl
  · rw [hroute, Daemon.requestText, hlan]
    rfl
  · unfold Daemon.parseStringList at htexts
    rw [hexcluded] at htexts
    refine texts_of_mapM (fun v s => ?_) htexts
    cases v <;> simp
  · rw [(Daemon.parseConfig_eq_ok h).2.2.2 r, Daemon.requestRanges, hranges]
    show r ∈ filterMap _ _ ↔ _
    rw [filterMap_map, ← filterMap_eq_map]
    refine Iff.of_eq (congrArg (r ∈ ·) (filterMap_congr fun x hx => ?_))
    show (Daemon.parseRange q x.toJson).toOption = some (x.toIPAddress q)
    rw [parseRange_toJson q (allowedIPAddresses_bounds hx)]
    rfl

end LocalSocketController

end Dopamine
