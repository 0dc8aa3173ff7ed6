import Dopamine.Client.SplitMode

/-!
# The ranges a request asks for

`LocalSocketController::activate` cuts each text of the allowed networks, or of the sites, at its
slashes, reads the length with `atoi` and takes 32 for a text without one. `Daemon::parseConfig`
checks neither the address nor the length. The prefixes of the daemon are those the texts stand for
if each text stands for a network, and no text is an IPv6 address alone (`ranges_match_iff`).
-/

namespace Dopamine.Client

open LocalSocketController List Option

/-- The networks of the config have a higher priority than the mode. -/
def isPlain (raw : JsonObject) : Bool :=
  !isDefaultAllowedIP (allowedIps raw) && !(allowedIps raw).isEmpty

/-- The texts that the ranges are made for: the networks of the config, or the sites, or
everything. -/
def requested (raw : JsonObject) : List String :=
  if isPlain raw then (allowedIps raw).map fun v => Json.text (some v)
  else if splitTunnelType raw = 1 then announcedSites raw
  else ["0.0.0.0/0", "::/0"]

/-- The address alone, as a prefix of its family. -/
def hostPrefix (a : HostAddress) : IPAddress := ⟨a, if a.isIPv6 then 128 else 32⟩

section Denoted

variable (q : Platform)

/-- The network a text stands for: an address alone, or an address and a length in digits that the
family has. -/
def denoted (text : String) : Option Net :=
  if '/' ∉ text.toList then (hostPrefix (.ofString q text)).net
  else
    match text.toList.splitOn '/' with
    | [address, bits] =>
        if bits ≠ [] ∧ bits.all Char.isDigit = true then
          IPAddress.net ⟨.ofString q (.ofList address), Nat.ofDigitChars 10 bits 0⟩
        else none
    | _ => none

/-- One of the texts stands for a network with the address. -/
def Denoted (raw : JsonObject) (d : Address) : Prop :=
  ∃ text ∈ requested raw, ∃ n, denoted q text = some n ∧ n.contains d = true

/-- The ranges of the daemon are those of the texts, each of them is a prefix, an address alone
is a prefix of one address, and together they have the addresses the texts stand for. -/
structure RangesMatch (raw : JsonObject) (ranges : List IPAddress) : Prop where
  made : ∀ r, r ∈ ranges ↔ ∃ text ∈ requested raw, parsed q text = r
  wellFormed : ∀ r ∈ ranges, r.net.isSome = true
  host : ∀ text ∈ requested raw, '/' ∉ text.toList → HostAddress.ofString q text ≠ .null →
    parsed q text = hostPrefix (.ofString q text)
  covered : ∀ d, (∃ r ∈ ranges, r.covers d = true) ↔ Denoted q raw d

/-- The text stands for a network and is not an IPv6 address alone; or it stands for nothing, and
what it is read as belongs to other texts. -/
def ReadsText (raw : JsonObject) (text : String) : Prop :=
  if (denoted q text).isSome then
    '/' ∉ text.toList → (HostAddress.ofString q text).isIPv6 = false
  else ∃ n, (parsed q text).net = some n ∧ ∀ d, n.contains d = true → Denoted q raw d

end Denoted

section Texts

variable {q : Platform} {raw : JsonObject} {text : String} {bits : List Char} {r : IPAddress}
  {n : Net} {ranges : List IPAddress}

/-- `atoi` reads digits. -/
theorem atoi_of_digits (hne : bits ≠ []) (hdigits : ∀ c ∈ bits, c.isDigit = true)
    (hle : Nat.ofDigitChars 10 bits 0 ≤ 128) : atoi bits = (Nat.ofDigitChars 10 bits 0 : ℤ) := by
  obtain ⟨c, l, rfl⟩ := exists_cons_of_ne_nil hne
  have hc := hdigits c mem_cons_self
  have hblank : isSpaceC c = false := by
    simp only [Char.isDigit, Bool.and_eq_true, decide_eq_true_eq] at hc
    have hlo : 48 ≤ c.toNat := hc.1
    simp only [isSpaceC, Bool.or_eq_false_iff, Bool.and_eq_false_iff, decide_eq_false_iff_not]
    exact ⟨fun h => absurd (h ▸ hlo) (by decide), by omega⟩
  have htake : (c :: l).takeWhile Char.isDigit = c :: l := takeWhile_eq_self_iff.mpr hdigits
  unfold atoi
  dsimp only
  rw [dropWhile_cons_of_neg (Bool.eq_false_iff.mp hblank)]
  split
  · rename_i heq
    cases (cons.inj heq).1 ▸ hc
  · rename_i heq
    cases (cons.inj heq).1 ▸ hc
  · rw [htake, Int.bmod_eq_of_le] <;> omega

theorem parsed_of_bare (h : '/' ∉ text.toList) : parsed q text = ⟨.ofString q text, 32⟩ := by
  simp only [parsed, rangeOf, Json.text, Json.str?, getD_some, splitOn_eq_singleton h,
    Range.toIPAddress]

theorem parsed_of_pair {address : List Char} (h : text.toList.splitOn '/' = [address, bits]) :
    parsed q text = ⟨.ofString q (.ofList address), atoi bits⟩ := by
  simp only [parsed, rangeOf, Json.text, Json.str?, getD_some, h, Range.toIPAddress]

/-- No family has a longer length. -/
theorem prefixLength_le_of_net (h : r.net = some n) : r.prefixLength ≤ 128 := by
  unfold IPAddress.net at h
  split at h
  · cases h
  all_goals
    split at h
    · omega
    · cases h

/-- A text that stands for a network is read as that network. -/
theorem net_parsed (hn : denoted q text = some n)
    (hbare : '/' ∉ text.toList → (HostAddress.ofString q text).isIPv6 = false) :
    (parsed q text).net = some n := by
  unfold denoted at hn
  split at hn
  · rename_i h
    rw [hostPrefix, hbare h] at hn
    rw [parsed_of_bare h]
    exact hn
  split at hn
  · rename_i address bits hparts
    split at hn
    · rename_i hbits
      have hle : (Nat.ofDigitChars 10 bits 0 : ℤ) ≤ 128 := prefixLength_le_of_net hn
      rw [parsed_of_pair hparts, atoi_of_digits hbits.1 (all_eq_true.mp hbits.2)
        (Int.ofNat_le.mp hle)]
      exact hn
    · cases hn
  · cases hn

theorem map_range (l : List Json) : (l.map rangeOf).map (Range.toIPAddress q) =
    (l.map fun v => Json.text (some v)).map (parsed q) := by
  rw [List.map_map, List.map_map]
  rfl

/-- Each text gives a range, in the modes of the settings. -/
theorem map_allowedIPAddresses (h : isPlain raw = true ∨ splitTunnelType raw ∈ [0, 1, 2]) :
    (allowedIPAddresses raw).map (Range.toIPAddress q) = (requested raw).map (parsed q) := by
  unfold allowedIPAddresses requested
  by_cases hplain : isPlain raw = true
  · rw [if_pos hplain]
    exact (congrArg (map _) (if_pos hplain)).trans (map_range _)
  · rw [if_neg hplain]
    refine (congrArg (map _) (if_neg hplain)).trans ?_
    rcases mem_cons.mp (h.resolve_left hplain) with h | h
    · rw [h]
      rfl
    rcases mem_cons.mp h with h | h
    · rw [h]
      exact map_range _
    · rw [mem_singleton.mp h]
      rfl

/-- In another mode nothing is allowed. -/
theorem made_iff {config : InterfaceConfig}
    (h : Daemon.parseConfig q (activate raw) = .ok config) :
    (∀ r, r ∈ config.allowedIPAddressRanges ↔ ∃ text ∈ requested raw, parsed q text = r) ↔
      isPlain raw = true ∨ splitTunnelType raw ∈ [0, 1, 2] := by
  have hranges := (parseConfig_activate h).2.2.2.2.2
  constructor
  · intro hmade
    by_contra hmode
    obtain ⟨hplain, htype⟩ := not_or.mp hmode
    simp only [mem_cons, not_mem_nil, or_false, not_or] at htype
    have hnone : allowedIPAddresses raw = [] := by
      refine (if_neg hplain).trans ?_
      rw [if_neg (not_or.mpr ⟨htype.1, htype.2.2⟩), if_neg htype.2.1]
      rfl
    have hall : "0.0.0.0/0" ∈ requested raw := by
      rw [requested, if_neg hplain, if_neg htype.2.1]
      exact mem_cons_self
    have hmem := (hranges _).mp ((hmade _).mpr ⟨_, hall, rfl⟩)
    rw [hnone] at hmem
    cases hmem
  · intro hmode r
    rw [hranges, map_allowedIPAddresses hmode, List.mem_map]

/-- An address alone stands for a network, so it has to be an IPv4 address. -/
theorem ReadsText.isIPv6_eq_false (h : ReadsText q raw text)
    (hbare : '/' ∉ text.toList) (haddress : HostAddress.ofString q text ≠ .null) :
    (HostAddress.ofString q text).isIPv6 = false := by
  have hsome : (denoted q text).isSome = true := by
    rw [denoted, if_pos hbare]
    cases ha : HostAddress.ofString q text with
    | null => exact absurd ha haddress
    | ipv4 | ipv6 => rfl
  rw [ReadsText, if_pos hsome] at h
  exact h hbare

/-- A text is read as its network, or as a part of what other texts stand for. -/
theorem ReadsText.exists_net (h : ReadsText q raw text) (htext : text ∈ requested raw) :
    ∃ n, (parsed q text).net = some n ∧ (∀ n', denoted q text = some n' → n' = n) ∧
      ∀ d, n.contains d = true → Denoted q raw d := by
  unfold ReadsText at h
  split at h
  · rename_i hsome
    obtain ⟨n, hn⟩ := isSome_iff_exists.mp hsome
    exact ⟨n, net_parsed hn h, fun n' hn' => some.inj (hn'.symm.trans hn),
      fun d hd => ⟨text, htext, n, hn, hd⟩⟩
  · rename_i hnone
    obtain ⟨n, hn, hsub⟩ := h
    exact ⟨n, hn, fun n' hn' => absurd (isSome_iff_exists.mpr ⟨n', hn'⟩) hnone, hsub⟩

theorem covers_of_net (h : r.net = some n) (d : Address) : r.covers d = n.contains d := by
  rw [IPAddress.covers, h]
  rfl

/-- Ranges that match are made of texts that are read as they are meant. -/
theorem RangesMatch.readsText (h : RangesMatch q raw ranges) (htext : text ∈ requested raw) :
    ReadsText q raw text := by
  have hmem := (h.made _).mpr ⟨text, htext, rfl⟩
  unfold ReadsText
  split
  · intro hbare
    cases ha : HostAddress.ofString q text with
    | null | ipv4 => rfl
    | ipv6 a scopeId =>
      have hhost := h.host text htext hbare (by rw [ha]; exact HostAddress.noConfusion)
      rw [parsed_of_bare hbare, ha] at hhost
      exact absurd (congrArg IPAddress.prefixLength hhost) (show ¬(32 : ℤ) = 128 by decide)
  · obtain ⟨n, hn⟩ := isSome_iff_exists.mp (h.wellFormed _ hmem)
    exact ⟨n, hn, fun d hd => (h.covered d).mp ⟨_, hmem, (covers_of_net hn d).trans hd⟩⟩

/-- Texts that are read as they are meant make ranges that match. -/
theorem rangesMatch_of_reads
    (hmade : ∀ r, r ∈ ranges ↔ ∃ text ∈ requested raw, parsed q text = r)
    (h : ∀ text ∈ requested raw, ReadsText q raw text) : RangesMatch q raw ranges where
  made := hmade
  wellFormed r hr := by
    obtain ⟨text, htext, rfl⟩ := (hmade r).mp hr
    obtain ⟨n, hn, -⟩ := (h text htext).exists_net htext
    exact isSome_iff_exists.mpr ⟨n, hn⟩
  host text htext hbare haddress := by
    rw [parsed_of_bare hbare, hostPrefix, (h text htext).isIPv6_eq_false hbare haddress]
    rfl
  covered d := by
    constructor
    · rintro ⟨r, hr, hd⟩
      obtain ⟨text, htext, rfl⟩ := (hmade r).mp hr
      obtain ⟨n, hn, -, hsub⟩ := (h text htext).exists_net htext
      exact hsub d ((covers_of_net hn d).symm.trans hd)
    · rintro ⟨text, htext, n', hn', hd⟩
      obtain ⟨n, hn, hsame, -⟩ := (h text htext).exists_net htext
      obtain rfl := hsame n' hn'
      exact ⟨_, (hmade _).mpr ⟨text, htext, rfl⟩, (covers_of_net hn d).trans hd⟩

end Texts

/-- The ranges the daemon accepts are those the texts stand for exactly if the networks of the
config are taken or the mode is known, and each text is read as it is meant. -/
theorem ranges_match_iff {q : Platform} {raw : JsonObject} {config : InterfaceConfig}
    (h : Daemon.parseConfig q (activate raw) = .ok config) :
    RangesMatch q raw config.allowedIPAddressRanges ↔
      (isPlain raw = true ∨ splitTunnelType raw ∈ [0, 1, 2]) ∧
        ∀ text ∈ requested raw, ReadsText q raw text := by
  rw [← made_iff h]
  exact ⟨fun h => ⟨h.made, fun _ htext => h.readsText htext⟩, fun h => rangesMatch_of_reads h.1 h.2⟩

/-- A config with allowed networks. -/
def allowedConfig (allowed : List String) : JsonObject :=
  [("protocol", .string "wireguard"),
    ("wireguard_config_data", .object
      [("client_priv_key", .string "key"), ("server_pub_key", .string "peer"),
        ("client_ip", .string "10.8.0.2"), ("hostName", .string "203.0.113.7"),
        ("port", .double 51820), ("allowed_ips", .array (allowed.map .string))])]

/-- A network and an IPv4 address alone are read as they are meant. -/
theorem ranges_match_plain : ∃ config,
    Daemon.parseConfig .plain (activate (allowedConfig ["10.0.0.0/8", "192.0.2.1"])) = .ok config ∧
      RangesMatch .plain (allowedConfig ["10.0.0.0/8", "192.0.2.1"])
        config.allowedIPAddressRanges := by
  refine ⟨_, rfl, (ranges_match_iff rfl).mpr ⟨.inl (by decide +kernel), fun text htext => ?_⟩⟩
  rcases mem_pair.mp htext with rfl | rfl
  · exact fun h => absurd h (by decide +kernel)
  · exact fun _ => rfl

/-- A platform that reads `2001:db8::1`. -/
def documentationPlatform : Platform :=
  { Platform.plain with
    hostAddress s :=
      if s = "2001:db8::1" then .ipv6 0x20010db8000000000000000000000001#128 "" else .null }

/-- The address `2001:db8::1` becomes the network `2001:db8::/32`. -/
theorem ipv6_address_becomes_network : ∃ config,
    Daemon.parseConfig documentationPlatform (activate (allowedConfig ["2001:db8::1"])) =
        .ok config ∧
      config.allowedIPAddressRanges = [⟨.ipv6 0x20010db8000000000000000000000001#128 "", 32⟩] ∧
      ¬RangesMatch documentationPlatform (allowedConfig ["2001:db8::1"])
        config.allowedIPAddressRanges := by
  refine ⟨_, rfl, rfl, fun h => ?_⟩
  have hhost := h.host "2001:db8::1" (mem_singleton_self _) (by decide +kernel)
    (by decide +kernel)
  exact absurd hhost (by decide +kernel)

end Dopamine.Client
