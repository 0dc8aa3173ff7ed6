import Dopamine.Daemon.InterfaceConfig

/-!
# The configuration protocol of the tunnel process

The messages `WireguardUtilsLinux` sends to the socket of the tunnel process, line by line, and what
the process makes of them. A line sets a parameter of the device or changes its peers; the lines of
one peer are one entry here. A parameter no line has set has the value the process starts with.
-/

namespace Dopamine.Linux

/-! ## Keys as text -/

/-- The value of a character of base64 text. -/
def base64Value (c : Char) : Option ℕ :=
  if c.isUpper then some (c.toNat - 65)
  else if c.isLower then some (c.toNat - 97 + 26)
  else if c.isDigit then some (c.toNat - 48 + 52)
  else if c = '+' then some 62
  else if c = '/' then some 63
  else none

/-- `QByteArray::fromBase64`: six bits at a time, a byte whenever there are eight. Other characters
are skipped. `buf` holds the bits that have not made a byte yet. -/
def fromBase64 (buf nbits : ℕ) : List Char → List ℕ
  | [] => []
  | c :: l =>
      match base64Value c with
      | none => fromBase64 buf nbits l
      | some v =>
          let buf := buf * 64 + v
          let nbits := nbits + 6
          if nbits ≥ 8 then
            buf / 2 ^ (nbits - 8) :: fromBase64 (buf % 2 ^ (nbits - 8)) (nbits - 8) l
          else fromBase64 buf nbits l

/-- `QString(QByteArray::fromBase64(key).toHex())`. -/
def hexKey (key : String) : String :=
  String.ofList ((fromBase64 0 0 key.toList).flatMap fun byte =>
    [Nat.digitChar (byte / 16), Nat.digitChar (byte % 16)])

/-! ## Messages -/

/-- A peer, as a message describes it. -/
structure Peer where
  publicKey : String
  presharedKey : String
  serverIpv4AddrIn : String
  serverIpv6AddrIn : String
  serverPort : ℤ
  allowedIPAddressRanges : List IPAddress

/-- An entry of a message. -/
inductive UapiLine where
  | assign (key value : String)
  | replacePeers
  | peer (p : Peer)
  | removePeer (publicKey : String)

/-- The booleans of the backend, as the process wants them. -/
def uapiBool (value : String) : String :=
  if String.ofList ((trimmed value.toList).map Char.toLower) ∈ ["on", "1", "true", "yes"] then "1"
  else "0"

/-- A line for a parameter that is not empty. -/
def optionalLine (key value text : String) : List UapiLine :=
  if value = "" then [] else [.assign key text]

variable (config : InterfaceConfig)

/-- The message of `addInterface`. -/
def interfaceMessage : List UapiLine :=
  [.assign "private_key" (hexKey config.privateKey), .replacePeers] ++
    [("jc", config.junkPacketCount), ("jmin", config.junkPacketMinSize),
      ("jmax", config.junkPacketMaxSize), ("s1", config.initPacketJunkSize),
      ("s2", config.responsePacketJunkSize), ("s3", config.cookieReplyPacketJunkSize),
      ("s4", config.transportPacketJunkSize), ("h1", config.initPacketMagicHeader),
      ("h2", config.responsePacketMagicHeader), ("h3", config.underloadPacketMagicHeader),
      ("h4", config.transportPacketMagicHeader)].flatMap (fun (key, value) =>
        optionalLine key value value) ++
    config.specialJunk.map (fun (key, value) => .assign key.toLower value) ++
    optionalLine "random_trailers" config.randomTrailers (uapiBool config.randomTrailers) ++
    optionalLine "disable_cookies" config.disableCookies (uapiBool config.disableCookies) ++
    optionalLine "header_protection_key" config.headerProtectionKey
      (hexKey config.headerProtectionKey) ++
    [("content_padding_addition", config.contentPaddingAddition),
      ("rekey_after_time", config.rekeyAfterTime), ("rekey_timeout", config.rekeyTimeout),
      ("reject_after_time", config.rejectAfterTime),
      ("keepalive_timeout", config.keepaliveTimeout),
      ("max_handshake_attempts", config.maxHandshakeAttempts)].flatMap (fun (key, value) =>
        optionalLine key value value)

/-- The message of `updatePeer`. -/
def updatePeerMessage : List UapiLine :=
  [.peer ⟨hexKey config.serverPublicKey, hexKey config.serverPskKey, config.serverIpv4AddrIn,
    config.serverIpv6AddrIn, config.serverPort, config.allowedIPAddressRanges⟩]

/-- The message of `deletePeer`. -/
def deletePeerMessage : List UapiLine :=
  [.removePeer (hexKey config.serverPublicKey)]

/-! ## The device -/

/-- What the messages have set. -/
structure Device where
  params : String → Option String
  peers : List Peer

namespace Device

/-- The device of a process that has just started. -/
def init : Device := ⟨fun _ => none, []⟩

/-- A peer that is there already keeps its preshared key unless it gets another one. -/
def updatePeer (p : Peer) : List Peer → List Peer
  | [] => [p]
  | p' :: l =>
      if p'.publicKey = p.publicKey then
        { p with
          presharedKey := if p.presharedKey = "" then p'.presharedKey else p.presharedKey } :: l
      else p' :: updatePeer p l

def applyLine (d : Device) : UapiLine → Device
  | .assign key value => { d with params := Function.update d.params key (some value) }
  | .replacePeers => { d with peers := [] }
  | .peer p => { d with peers := updatePeer p d.peers }
  | .removePeer publicKey => { d with peers := d.peers.filter fun p => p.publicKey ≠ publicKey }

/-- The device after the lines of a message. -/
def apply (lines : List UapiLine) (d : Device) : Device := lines.foldl applyLine d

/-- A message about peers leaves the parameters alone, also when it breaks off. -/
theorem params_apply_take {lines : List UapiLine}
    (h : ∀ line ∈ lines, ∀ key value, line ≠ .assign key value) (d : Device) (n : ℕ) :
    (d.apply (lines.take n)).params = d.params := by
  unfold apply
  induction lines generalizing d n with
  | nil => rw [List.take_nil]; rfl
  | cons line lines ih =>
    cases n with
    | zero => rfl
    | succ n =>
      rw [List.take_succ_cons, List.foldl_cons,
        ih (fun line hline => h line (List.mem_cons_of_mem _ hline))]
      cases line with
      | assign key value => exact absurd rfl (h _ List.mem_cons_self key value)
      | replacePeers => rfl
      | peer p => rfl
      | removePeer publicKey => rfl

end Device

end Dopamine.Linux
