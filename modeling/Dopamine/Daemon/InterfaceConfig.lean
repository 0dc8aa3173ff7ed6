import Dopamine.Fallible.Results
import Dopamine.Net.Address
import Mathlib.Data.List.Sort
import Mathlib.Data.Rat.Defs

/-!
# The configuration of a tunnel

`InterfaceConfig` of `client/daemon/interfaceconfig.h`, and `Daemon::parseConfig`, which reads it
from the JSON object of an `activate` request. A request that is refused leaves a line in the log;
the pieces streamed into that line are the error.

A `QString` that can be null is an `Option String` while it is read; the configuration itself stores
the empty string for it. Later code asks whether it is empty, but `updatePeer` takes the first of the
two endpoints that is not null. The model of its message has both.
-/

namespace Dopamine

open Fallible Except List

/-- A `QJsonValue`. Every number of a document is a `double`, hence rational. -/
inductive Json where
  | null
  | bool (b : Bool)
  | double (x : ℚ)
  | string (s : String)
  | array (l : List Json)
  | object (l : List (String × Json))

/-- A `QJsonObject`. -/
abbrev JsonObject := List (String × Json)

namespace Json

/-- `toString()` of `obj.value(name)`: the null string for a value that is missing or no string. -/
def str? : Option Json → Option String
  | some (.string s) => some s
  | _ => none

/-- `isNull()` of `obj.value(name)`: a missing value is undefined, not null. -/
def isNull : Option Json → Bool
  | some .null => true
  | _ => false

/-- `QJsonValue::toInt()` of a number: zero unless it is a whole number that fits. -/
def toInt (x : ℚ) : ℤ := if x.den = 1 ∧ -2147483648 ≤ x.num ∧ x.num ≤ 2147483647 then x.num else 0

/-- `toInt()` of `obj.value(name)`. -/
def intValue : Option Json → ℤ
  | some (.double x) => toInt x
  | _ => 0

/-- `toArray()` of `obj.value(name)`. -/
def arrayValue : Option Json → List Json
  | some (.array l) => l
  | _ => []

/-- `toString()`, with the empty string for the null one. -/
def text (v : Option Json) : String := (str? v).getD ""

/-- `toObject()` of `obj.value(name)`: empty for a value that is no object. -/
def objectValue : Option Json → JsonObject
  | some (.object l) => l
  | _ => []

end Json

/-- `QString::toInt(&ok)`, with no value if `ok` is not set. -/
def toInt? (s : String) : Option ℤ :=
  let number (sign : ℤ) (l : List Char) : Option ℤ :=
    let n := sign * (Nat.ofDigitChars 10 l 0 : ℤ)
    if l ≠ [] ∧ l.all Char.isDigit ∧ -2147483648 ≤ n ∧ n ≤ 2147483647 then some n else none
  match trimmed s.toList with
  | '-' :: l => number (-1) l
  | '+' :: l => number 1 l
  | l => number 1 l

/-- `QString::toInt()`: zero for text that is no decimal `int`. -/
def stringToInt (s : String) : ℤ := (toInt? s).getD 0

/-- `QVariant(s).toBool()`. -/
def stringToBool (s : String) : Bool :=
  let t := s.toLower
  !(t == "" || t == "0" || t == "false")

inductive HopType where
  | SingleHop
  | MultiHopEntry
  | MultiHopExit
deriving DecidableEq

/-- `QMetaEnum::keyToValue`, which takes a C string: a key, with or without its scope. -/
def HopType.ofKey (s : String) : Option HopType :=
  let key := String.ofList (s.toList.takeWhile (· ≠ '\x00'))
  [("SingleHop", HopType.SingleHop), ("MultiHopEntry", .MultiHopEntry),
    ("MultiHopExit", .MultiHopExit)].findSome? fun e =>
      if key = e.1 ∨ key = "InterfaceConfig::" ++ e.1 then some e.2 else none

structure InterfaceConfig where
  hopType : HopType
  privateKey : String
  deviceIpv4Address : String
  deviceIpv6Address : String
  serverIpv4Gateway : String
  serverIpv6Gateway : String
  serverPublicKey : String
  serverIpv4AddrIn : String
  serverPskKey : String
  serverIpv6AddrIn : String
  primaryDnsServer : String
  secondaryDnsServer : String
  serverPort : ℤ
  deviceMTU : ℤ
  allowedIPAddressRanges : List IPAddress
  excludedAddresses : List String
  vpnDisabledApps : List String
  allowedDnsServers : List String
  killSwitchEnabled : Bool
  routeLanThroughVpn : Bool
  junkPacketCount : String
  junkPacketMinSize : String
  junkPacketMaxSize : String
  initPacketJunkSize : String
  responsePacketJunkSize : String
  cookieReplyPacketJunkSize : String
  transportPacketJunkSize : String
  initPacketMagicHeader : String
  responsePacketMagicHeader : String
  underloadPacketMagicHeader : String
  transportPacketMagicHeader : String
  specialJunk : List (String × String)
  randomTrailers : String
  disableCookies : String
  headerProtectionKey : String
  contentPaddingAddition : String
  rekeyAfterTime : String
  rekeyTimeout : String
  rejectAfterTime : String
  keepaliveTimeout : String
  maxHandshakeAttempts : String

/-! ## `Daemon::parseConfig` -/

/-- The pieces of a log line. -/
abbrev LogLine := List String

namespace Daemon

variable (obj : JsonObject) (name : String)

/-- `GETVALUE(name, where, String)`. -/
def getString : Except LogLine String :=
  match obj.lookup name with
  | none => .error [name, " missing in the jsonConfig input"]
  | some (.string s) => .ok s
  | some _ => .error [name, " is not a String"]

/-- `GETVALUE(name, where, Double)` into an `int`. -/
def getDouble : Except LogLine ℤ :=
  match obj.lookup name with
  | none => .error [name, " missing in the jsonConfig input"]
  | some (.double x) => .ok (x.num.tdiv x.den)
  | some _ => .error [name, " is not a Double"]

def parseStringList : Except LogLine (List String) :=
  match obj.lookup name with
  | none => .ok []
  | some (.array l) =>
      l.mapM fun i =>
        match i with
        | .string s => .ok s
        | _ => .error [name, "must contain only strings"]
  | some _ => .error [name, "is not an array"]

/-- A DNS server; the log names the same field for both. -/
def parseDnsServer : Except LogLine String :=
  match obj.lookup name with
  | none => .ok ""
  | some (.string s) => .ok s
  | some _ => .error ["dnsServer is not a string"]

def parseHopType : Except LogLine HopType :=
  match obj.lookup "hopType" with
  | none => .ok .SingleHop
  | some (.string s) =>
      match HopType.ofKey s with
      | some hop => .ok hop
      | none => .error ["hopType", s, "is not valid"]
  | some _ => .error ["hopType is not a string"]

/-- One entry of `allowedIPAddressRanges`. Neither the address nor the range is checked. -/
def parseRange (q : Platform) : Json → Except LogLine IPAddress
  | .object ipObj =>
      match ipObj.lookup "address" with
      | some (.string address) =>
          match ipObj.lookup "range" with
          | some (.double range) =>
              match ipObj.lookup "isIpv6" with
              | some (.bool _) => .ok ⟨HostAddress.ofString q address, Json.toInt range⟩
              | _ => .error ["allowedIPAddressRanges", "object must have a boolean isIpv6"]
          | _ => .error ["allowedIPAddressRanges", "object must have a numberic range"]
      | _ => .error ["allowedIPAddressRanges", "objects must have a string address"]
  | _ => .error ["allowedIPAddressRanges", "must contain only objects"]

/-- The allowed ranges, by decreasing prefix length. -/
def parseRanges (q : Platform) (obj : JsonObject) : Except LogLine (List IPAddress) :=
  match obj.lookup "allowedIPAddressRanges" with
  | none => .error ["allowedIPAddressRanges", "missing in the jsonconfig input"]
  | some (.array l) => do
      let ranges ← l.mapM (parseRange q)
      return ranges.insertionSort fun a b => b.prefixLength ≤ a.prefixLength
  | some _ => .error ["allowedIPAddressRanges", "is not an array"]

/-- A pair of addresses, one for each family, of which one must be there. -/
def parseAddressPair (ipv4 ipv6 log : String) : Except LogLine (String × String) :=
  let a := Json.str? (obj.lookup ipv4)
  let b := Json.str? (obj.lookup ipv6)
  if a.isNone && b.isNone then .error [log] else .ok (a.getD "", b.getD "")

def parseMTU : ℤ :=
  let mtu := stringToInt ((Json.str? (obj.lookup "deviceMTU")).getD "")
  if mtu = 0 then 1420 else mtu

/-- The special junk packets: an entry for each name whose value is not null, also for a missing
one. -/
def parseSpecialJunk : List (String × String) :=
  (["I1", "I2", "I3", "I4", "I5"].filter fun name => !Json.isNull (obj.lookup name)).map fun name =>
    (name, (Json.str? (obj.lookup name)).getD "")

def parseConfig (q : Platform) (obj : JsonObject) : Except LogLine InterfaceConfig := do
  -- a value that is missing or no string is the empty one
  let text (name : String) : String := (Json.str? (obj.lookup name)).getD ""
  let privateKey ← getString obj "privateKey"
  let serverPublicKey ← getString obj "serverPublicKey"
  let serverPort ← getDouble obj "serverPort"
  let device ← parseAddressPair obj "deviceIpv4Address" "deviceIpv6Address"
    "no device addresses found in jsonConfig input"
  let server ← parseAddressPair obj "serverIpv4AddrIn" "serverIpv6AddrIn"
    "no server addresses found in jsonConfig input"
  let primaryDnsServer ← parseDnsServer obj "primaryDnsServer"
  let secondaryDnsServer ← parseDnsServer obj "secondaryDnsServer"
  let hopType ← parseHopType obj
  let allowedIPAddressRanges ← parseRanges q obj
  let excludedAddresses ← parseStringList obj "excludedAddresses"
  let vpnDisabledApps ← parseStringList obj "vpnDisabledApps"
  let allowedDnsServers ← parseStringList obj "allowedDnsServers"
  return {
    hopType, privateKey, serverPublicKey, serverPort, primaryDnsServer, secondaryDnsServer,
    allowedIPAddressRanges, excludedAddresses, vpnDisabledApps, allowedDnsServers
    deviceIpv4Address := device.1
    deviceIpv6Address := device.2
    serverIpv4AddrIn := server.1
    serverIpv6AddrIn := server.2
    serverIpv4Gateway := text "serverIpv4Gateway"
    serverIpv6Gateway := text "serverIpv6Gateway"
    serverPskKey := text "serverPskKey"
    deviceMTU := parseMTU obj
    killSwitchEnabled := stringToBool (text "killSwitchOption")
    routeLanThroughVpn := stringToBool (text "routeLanThroughVpn")
    junkPacketCount := text "Jc"
    junkPacketMinSize := text "Jmin"
    junkPacketMaxSize := text "Jmax"
    initPacketJunkSize := text "S1"
    responsePacketJunkSize := text "S2"
    cookieReplyPacketJunkSize := text "S3"
    transportPacketJunkSize := text "S4"
    initPacketMagicHeader := text "H1"
    responsePacketMagicHeader := text "H2"
    underloadPacketMagicHeader := text "H3"
    transportPacketMagicHeader := text "H4"
    specialJunk := parseSpecialJunk obj
    randomTrailers := text "RandomTrailers"
    disableCookies := text "DisableCookies"
    headerProtectionKey := text "HeaderProtectionKey"
    contentPaddingAddition := text "ContentPaddingAddition"
    rekeyAfterTime := text "RekeyAfterTime"
    rekeyTimeout := text "RekeyTimeout"
    rejectAfterTime := text "RejectAfterTime"
    keepaliveTimeout := text "KeepaliveTimeout"
    maxHandshakeAttempts := text "MaxHandshakeAttempts" }

/-! ## What a request brings into the configuration -/

/-- The string under a name, or the empty one. -/
def requestText : String := (Json.str? (obj.lookup name)).getD ""

/-- The strings of the array under a name. -/
def requestStrings : List String :=
  match obj.lookup name with
  | some (.array l) => l.filterMap fun i => Json.str? (some i)
  | _ => []

/-- The ranges of a request, in its order. -/
def requestRanges (q : Platform) (obj : JsonObject) : List IPAddress :=
  match obj.lookup "allowedIPAddressRanges" with
  | some (.array l) => l.filterMap fun i => (parseRange q i).toOption
  | _ => []

section Parse

variable {q : Platform} {obj : JsonObject}

/-- An array whose entries are all read is read entry by entry. -/
theorem mapM_eq_ok {ε α β : Type} {f : α → Except ε β} {l : List α} {r : List β}
    (h : l.mapM f = .ok r) : r = l.filterMap fun a => (f a).toOption := by
  have hmap := congrArg (filterMap Except.toOption) (map_of_mapM h)
  rw [filterMap_map, filterMap_map] at hmap
  exact ((filterMap_some ..).symm.trans hmap.symm)

variable {name : String} {config : InterfaceConfig}

theorem parseDnsServer_eq_ok {s : String} (h : parseDnsServer obj name = .ok s) :
    s = requestText obj name := by
  unfold parseDnsServer at h
  unfold requestText
  split at h
  · next hl => rw [hl, ← ok.inj h]; rfl
  · next hl => rw [hl, ← ok.inj h]; rfl
  · cases h

theorem parseStringList_eq_ok {l : List String} (h : parseStringList obj name = .ok l) :
    l = requestStrings obj name := by
  unfold parseStringList at h
  unfold requestStrings
  split at h
  · next hl => rw [hl, ← ok.inj h]
  · next entries hl =>
    rw [hl, mapM_eq_ok h]
    refine filterMap_congr fun i _ => ?_
    cases i <;> rfl
  · cases h

theorem parseRanges_eq_ok {l : List IPAddress} (h : parseRanges q obj = .ok l) (r : IPAddress) :
    r ∈ l ↔ r ∈ requestRanges q obj := by
  unfold parseRanges at h
  unfold requestRanges
  split at h
  · cases h
  · next entries hl =>
    obtain ⟨ranges, hranges, h⟩ := bind_eq_ok.mp h
    rw [hl, ← ok.inj h, mem_insertionSort, mapM_eq_ok hranges]
  · cases h

/-- What `addInterface` later hands to the firewall, in terms of the request. -/
theorem parseConfig_eq_ok (h : parseConfig q obj = .ok config) :
    config.primaryDnsServer = requestText obj "primaryDnsServer" ∧
    config.secondaryDnsServer = requestText obj "secondaryDnsServer" ∧
    config.excludedAddresses = requestStrings obj "excludedAddresses" ∧
    ∀ r, r ∈ config.allowedIPAddressRanges ↔ r ∈ requestRanges q obj := by
  simp only [parseConfig, bind_eq_ok] at h
  obtain ⟨_, _, _, _, _, _, _, _, _, _, _, hprimary, _, hsecondary, _, _, _, hranges, _, hexcluded,
    _, _, _, _, h⟩ := h
  rw [← ok.inj h]
  exact ⟨parseDnsServer_eq_ok hprimary, parseDnsServer_eq_ok hsecondary,
    parseStringList_eq_ok hexcluded, parseRanges_eq_ok hranges⟩

/-- What the routes depend on besides the ranges, in terms of the request. -/
theorem parseConfig_routes (h : parseConfig q obj = .ok config) :
    parseHopType obj = .ok config.hopType ∧
    config.serverIpv4AddrIn = requestText obj "serverIpv4AddrIn" ∧
    config.serverIpv6AddrIn = requestText obj "serverIpv6AddrIn" ∧
    config.routeLanThroughVpn = stringToBool (requestText obj "routeLanThroughVpn") ∧
    parseStringList obj "excludedAddresses" = .ok config.excludedAddresses := by
  simp only [parseConfig, bind_eq_ok] at h
  obtain ⟨_, _, _, _, _, _, _, _, server, hserver, _, _, _, _, _, hhop, _, _, _, hexcluded, _, _, _,
    _, h⟩ := h
  have hpair : server =
      (requestText obj "serverIpv4AddrIn", requestText obj "serverIpv6AddrIn") := by
    unfold parseAddressPair at hserver
    dsimp only at hserver
    split at hserver
    · cases hserver
    · exact (ok.inj hserver).symm
  rw [← ok.inj h, hpair]
  exact ⟨hhop, rfl, rfl, rfl, hexcluded⟩

end Parse

/-- `supportServerSwitching`, for a hop that is connected with `current`. -/
def supportServerSwitching (current config : InterfaceConfig) : Bool :=
  current.privateKey == config.privateKey &&
    current.deviceIpv4Address == config.deviceIpv4Address &&
    current.deviceIpv6Address == config.deviceIpv6Address &&
    current.serverIpv4Gateway == config.serverIpv4Gateway &&
    current.serverIpv6Gateway == config.serverIpv6Gateway

/-- A configuration with nothing in it, for concrete runs. -/
def blankConfig : InterfaceConfig where
  hopType := .SingleHop
  privateKey := ""
  deviceIpv4Address := ""
  deviceIpv6Address := ""
  serverIpv4Gateway := ""
  serverIpv6Gateway := ""
  serverPublicKey := ""
  serverIpv4AddrIn := ""
  serverPskKey := ""
  serverIpv6AddrIn := ""
  primaryDnsServer := ""
  secondaryDnsServer := ""
  serverPort := 0
  deviceMTU := 1420
  allowedIPAddressRanges := []
  excludedAddresses := []
  vpnDisabledApps := []
  allowedDnsServers := []
  killSwitchEnabled := false
  routeLanThroughVpn := false
  junkPacketCount := ""
  junkPacketMinSize := ""
  junkPacketMaxSize := ""
  initPacketJunkSize := ""
  responsePacketJunkSize := ""
  cookieReplyPacketJunkSize := ""
  transportPacketJunkSize := ""
  initPacketMagicHeader := ""
  responsePacketMagicHeader := ""
  underloadPacketMagicHeader := ""
  transportPacketMagicHeader := ""
  specialJunk := []
  randomTrailers := ""
  disableCookies := ""
  headerProtectionKey := ""
  contentPaddingAddition := ""
  rekeyAfterTime := ""
  rekeyTimeout := ""
  rejectAfterTime := ""
  keepaliveTimeout := ""
  maxHandshakeAttempts := ""

end Daemon

end Dopamine
