import Dopamine.Qt.StringArg
import Mathlib.Algebra.Group.Nat.Defs

/-!
# Addresses, networks and their text

`HostAddress` and `IPAddress` follow Qt's `QHostAddress` and the class of
`client/mozilla/shared/ipaddress.h`; `Net` is the network a packet filter rule matches. The filter
rules are written as text, so the text matters: `IPAddress.toString` prints an address and `readDst`
is what `iptables -d` makes of an argument.

Dotted-quad text is read and printed here. All other text (IPv6 addresses, host names, netmasks)
goes through `Platform`, which stands for the Qt parser and for the resolver `iptables` asks.
-/

namespace Dopamine

open List

inductive Family where
  | IPv4
  | IPv6
deriving DecidableEq, Repr

/-- The destination address of a packet. -/
inductive Address where
  | v4 (a : BitVec 32)
  | v6 (a : BitVec 128)
deriving DecidableEq, Repr

namespace Address

def family : Address → Family
  | .v4 _ => .IPv4
  | .v6 _ => .IPv6

/-- Number of bits of an address of the family. -/
def width : Address → ℕ
  | .v4 _ => 32
  | .v6 _ => 128

end Address

/-- A network: an address and the length of the prefix that counts. -/
structure Net where
  base : Address
  len : ℕ
  len_le : len ≤ base.width
deriving DecidableEq

/-- An address lies in a network when it agrees with it on the prefix. -/
def Net.contains (n : Net) : Address → Bool
  | .v4 d =>
      match n.base with
      | .v4 b => b >>> (32 - n.len) == d >>> (32 - n.len)
      | .v6 _ => false
  | .v6 d =>
      match n.base with
      | .v4 _ => false
      | .v6 b => b >>> (128 - n.len) == d >>> (128 - n.len)

/-- Qt's `QHostAddress`: no address, an IPv4 address, or an IPv6 address with its scope id. Its `==`
does not compare scope ids; here addresses are equal if their texts are. -/
inductive HostAddress where
  | null
  | ipv4 (a : BitVec 32)
  | ipv6 (a : BitVec 128) (scopeId : String)
deriving DecidableEq

/-- `protocol() == QAbstractSocket::IPv6Protocol`. -/
def HostAddress.isIPv6 : HostAddress → Bool
  | .ipv6 _ _ => true
  | _ => false

/-- Text handling of the platform that is not printed or read here.

* `hostAddress` is `QHostAddress(const QString&)` on text that is not a plain dotted quad.
* `parseSubnet` is `QHostAddress::parseSubnet`.
* `ipv6Text` is the text of an IPv6 address without its scope id: hexadecimal groups joined by
  colons, with a dotted quad at the end for an embedded IPv4 address.
* `digitValue` is `QChar::digitValue`, which also knows the digits of other scripts.
* `resolve` is what `iptables` or `ip6tables` reads from any other `-d` argument: a host name or a
  network with a netmask. Text it rejects denotes no network. -/
structure Platform where
  hostAddress : String → HostAddress
  parseSubnet : String → HostAddress × ℤ
  ipv6Text : BitVec 128 → String
  ipv6Text_chars : ∀ a, ∀ c ∈ (ipv6Text a).toList, c.isAlphanum ∨ c = ':' ∨ c = '.'
  ipv6Text_colon : ∀ a, ':' ∈ (ipv6Text a).toList
  digitValue : Char → Option ℕ
  digitValue_digit : ∀ c, c.isDigit = true → digitValue c = some (c.toNat - 48)
  digitValue_ascii : ∀ c, c.toNat < 128 → c.isDigit = false → digitValue c = none
  resolve : Family → String → List Net
  resolve_family : ∀ f s, ∀ n ∈ resolve f s, n.base.family = f

/-- A platform that knows no names: text is an address for nobody, and every IPv6 address is written
`::`. Concrete runs are evaluated on it. -/
def Platform.plain : Platform where
  hostAddress _ := .null
  parseSubnet _ := (.null, -1)
  ipv6Text _ := "::"
  ipv6Text_chars _ c hc := by
    have hcolon : c = ':' := by simpa using hc
    exact .inr (.inl hcolon)
  ipv6Text_colon _ := by decide
  digitValue c := if c.isDigit = true then some (c.toNat - 48) else none
  digitValue_digit _ hc := if_pos hc
  digitValue_ascii _ _ hc := if_neg (Bool.eq_false_iff.mp hc)
  resolve _ _ := []
  resolve_family _ _ _ hn := nomatch hn

/-! ## Decimal and dotted-quad text -/

/-- `QChar::isSpace`: the ASCII blanks, `U+0085`, `U+00A0` and the Unicode separators. -/
def isSpace (c : Char) : Bool :=
  let n := c.toNat
  n == 0x20 || (9 ≤ n && n ≤ 13) || n == 0x85 || n == 0xa0 || n == 0x1680 ||
    (0x2000 ≤ n && n ≤ 0x200a) || n == 0x2028 || n == 0x2029 || n == 0x202f || n == 0x205f ||
    n == 0x3000

def trimmed (l : List Char) : List Char := ((l.dropWhile isSpace).reverse.dropWhile isSpace).reverse

/-- Read a decimal number without sign or leading zeros. -/
def readNat (l : List Char) : Option ℕ :=
  if Nat.toDigits 10 (Nat.ofDigitChars 10 l 0) = l then some (Nat.ofDigitChars 10 l 0) else none

theorem readNat_toDigits (n : ℕ) : readNat (Nat.toDigits 10 n) = some n := by
  simp [readNat]

/-- The byte of an IPv4 address that stands `i` places from the right. -/
def octet (a : BitVec 32) (i : ℕ) : ℕ := a.toNat / 256 ^ i % 256

/-- The characters of the dotted-quad text of an IPv4 address. -/
def ipv4Chars (a : BitVec 32) : List Char :=
  ['.'].intercalate
    [Nat.toDigits 10 (octet a 3), Nat.toDigits 10 (octet a 2),
      Nat.toDigits 10 (octet a 1), Nat.toDigits 10 (octet a 0)]

/-- Read dotted-quad text. -/
def readIPv4 (l : List Char) : Option (BitVec 32) :=
  match l.splitOn '.' with
  | [w, x, y, z] =>
      match readNat w, readNat x, readNat y, readNat z with
      | some w, some x, some y, some z =>
          if w < 256 ∧ x < 256 ∧ y < 256 ∧ z < 256 then
            some (BitVec.ofNat 32 (w * 16777216 + x * 65536 + y * 256 + z))
          else none
      | _, _, _, _ => none
  | _ => none

variable {c : Char} {r : IPAddress}

/-- A character that is not a digit is not in decimal text. -/
theorem not_mem_toDigits (hc : c.isDigit = false) (n : ℕ) : c ∉ Nat.toDigits 10 n := by
  intro h
  have := Nat.isDigit_of_mem_toDigits (by decide) (by decide) h
  rw [hc] at this
  cases this

/-- Reading back the dotted-quad text of an address. -/
theorem readIPv4_ipv4Chars (a : BitVec 32) : readIPv4 (ipv4Chars a) = some a := by
  have hsplit : (ipv4Chars a).splitOn '.' =
      [Nat.toDigits 10 (octet a 3), Nat.toDigits 10 (octet a 2),
        Nat.toDigits 10 (octet a 1), Nat.toDigits 10 (octet a 0)] := by
    refine splitOn_intercalate '.' ?_ (by simp)
    intro l hl
    simp only [mem_cons, not_mem_nil, or_false] at hl
    rcases hl with rfl | rfl | rfl | rfl <;> exact not_mem_toDigits (by decide) _
  have hlt : a.toNat < 4294967296 := a.isLt
  simp only [readIPv4, hsplit, readNat_toDigits, octet]
  rw [if_pos (by omega)]
  congr 1
  apply BitVec.eq_of_toNat_eq
  rw [BitVec.toNat_ofNat]
  omega

/-- Dotted-quad text holds digits and dots only. -/
theorem mem_ipv4Chars {a : BitVec 32} (h : c ∈ ipv4Chars a) : c.isDigit = true ∨ c = '.' := by
  have hd : ∀ n, c ∈ Nat.toDigits 10 n → c.isDigit = true := fun n =>
    Nat.isDigit_of_mem_toDigits (by decide) (by decide)
  simp only [ipv4Chars, intercalate, intersperse, flatten_cons, flatten_nil,
    mem_append, mem_singleton, not_mem_nil, or_false] at h
  rcases h with h | h | h | h | h | h | h
  · exact Or.inl (hd _ h)
  · exact Or.inr h
  · exact Or.inl (hd _ h)
  · exact Or.inr h
  · exact Or.inl (hd _ h)
  · exact Or.inr h
  · exact Or.inl (hd _ h)

/-- The decimal text of an `int`. -/
def intChars : ℤ → List Char
  | .ofNat n => Nat.toDigits 10 n
  | .negSucc n => '-' :: Nat.toDigits 10 (n + 1)

/-- Read the decimal text of an `int`. -/
def readInt : List Char → Option ℤ
  | '-' :: l => (readNat l).map fun n => -(n : ℤ)
  | l => (readNat l).map fun n => (n : ℤ)

theorem readInt_intChars (n : ℤ) : readInt (intChars n) = some n := by
  cases n with
  | ofNat n =>
    have hd : ∀ l, Nat.toDigits 10 n ≠ '-' :: l := by
      intro l hl
      refine not_mem_toDigits (c := '-') (by decide) n ?_
      rw [hl]
      exact mem_cons_self
    rw [intChars, readInt.eq_2 _ (fun l h => hd l h), readNat_toDigits]
    rfl
  | negSucc n =>
    rw [intChars, readInt, readNat_toDigits]
    rfl

/-- The text of an `int` holds digits and a minus sign only. -/
theorem mem_intChars {n : ℤ} (h : c ∈ intChars n) : c.isDigit = true ∨ c = '-' := by
  have hd : ∀ n, c ∈ Nat.toDigits 10 n → c.isDigit = true := fun n =>
    Nat.isDigit_of_mem_toDigits (by decide) (by decide)
  cases n with
  | ofNat n => exact Or.inl (hd n h)
  | negSucc n =>
    rcases mem_cons.mp h with rfl | h
    · exact Or.inr rfl
    · exact Or.inl (hd _ h)

/-! ## `QHostAddress` and `IPAddress` -/

namespace HostAddress

/-- `QHostAddress(const QString&)`. -/
def ofString (q : Platform) (s : String) : HostAddress :=
  match readIPv4 s.toList with
  | some a => .ipv4 a
  | none => q.hostAddress s

def toString (q : Platform) : HostAddress → String
  | .null => ""
  | .ipv4 a => String.ofList (ipv4Chars a)
  | .ipv6 a scopeId => q.ipv6Text a ++ if scopeId = "" then "" else "%" ++ scopeId

end HostAddress

/-- The class `IPAddress`: an address with a prefix length. The constructor asserts that the length
fits the family, but only in debug builds. -/
structure IPAddress where
  address : HostAddress
  prefixLength : ℤ
deriving DecidableEq

namespace IPAddress

/-- `IPAddress(const QString& ip)`. -/
def ofString (q : Platform) (ip : String) : IPAddress :=
  let p := if '/' ∈ ip.toList then q.parseSubnet ip else (HostAddress.ofString q ip, 999999)
  match p.1 with
  | .ipv4 _ => ⟨p.1, if p.2 ≥ 32 then 32 else p.2⟩
  | .ipv6 _ _ => ⟨p.1, if p.2 ≥ 128 then 128 else p.2⟩
  | .null => ⟨p.1, p.2⟩

/-- `IPAddress::toString`: `QString("%1/%2").arg(m_address.toString()).arg(m_prefixLength)`. -/
def toString (q : Platform) (a : IPAddress) : String :=
  String.ofList (Qt.arg q.digitValue
    (Qt.arg q.digitValue "%1/%2".toList (a.address.toString q).toList) (intChars a.prefixLength))

/-- The network an `IPAddress` stands for; none without an address or with a length that the
family does not have. -/
def net (a : IPAddress) : Option Net :=
  match a.address with
  | .null => none
  | .ipv4 x =>
      if h : 0 ≤ a.prefixLength ∧ a.prefixLength ≤ 32 then
        some ⟨.v4 x, a.prefixLength.toNat, by simp only [Address.width]; omega⟩
      else none
  | .ipv6 x _ =>
      if h : 0 ≤ a.prefixLength ∧ a.prefixLength ≤ 128 then
        some ⟨.v6 x, a.prefixLength.toNat, by simp only [Address.width]; omega⟩
      else none

/-- `IPAddress("0.0.0.0/0")`, the range of a full tunnel. -/
def any4 : IPAddress := ⟨.ipv4 0, 0⟩

end IPAddress

/-! ## What `-d` reads -/

/-- The networks `iptables` or `ip6tables` reads from a `-d` argument. A prefix length out of range
is an error, and so is text of the other family. -/
def readDst (q : Platform) : Family → String → List Net
  | .IPv6, s => q.resolve .IPv6 s
  | .IPv4, s =>
      if ':' ∈ s.toList then []
      else
        match s.toList.splitOn '/' with
        | [a] =>
            match readIPv4 a with
            | some x => [⟨.v4 x, 32, Nat.le_refl 32⟩]
            | none => q.resolve .IPv4 s
        | [a, m] =>
            match readIPv4 a, readInt m with
            | some x, some n => (IPAddress.net ⟨.ipv4 x, n⟩).toList
            | _, _ => q.resolve .IPv4 s
        | _ => q.resolve .IPv4 s

variable (q : Platform)

/-- The text before the length is put in. -/
theorem arg_address (text : List Char) :
    Qt.arg q.digitValue "%1/%2".toList text = text ++ ['/', '%', '2'] :=
  Qt.arg_pair_first (q.digitValue_digit '1' (by decide)) (q.digitValue_digit '2' (by decide))
    (q.digitValue_ascii '/' (by decide) (by decide)) text

/-- Without a scope id the text is the address and the length. -/
theorem toList_toString {a : IPAddress} (ha : '%' ∉ (a.address.toString q).toList) :
    (a.toString q).toList = (a.address.toString q).toList ++ '/' :: intChars a.prefixLength := by
  rw [IPAddress.toString, String.toList_ofList, arg_address,
    Qt.arg_pair_second (q.digitValue_digit '2' (by decide)) ha]

theorem toList_toString_ipv4 (x : BitVec 32) (n : ℤ) :
    ((IPAddress.mk (.ipv4 x) n).toString q).toList =
      ['/'].intercalate [ipv4Chars x, intChars n] := by
  have htext : ((HostAddress.ipv4 x).toString q).toList = ipv4Chars x := String.toList_ofList
  rw [toList_toString, htext]
  · simp [intercalate]
  · rw [htext]
    intro h
    rcases mem_ipv4Chars h with h | h <;> revert h <;> decide

/-- The address and the length of an IPv4 range, as text. -/
theorem splitOn_toString_ipv4 (x : BitVec 32) (n : ℤ) :
    ((IPAddress.mk (.ipv4 x) n).toString q).toList.splitOn '/' = [ipv4Chars x, intChars n] := by
  rw [toList_toString_ipv4]
  refine splitOn_intercalate '/' ?_ (by simp)
  intro l hl
  simp only [mem_cons, not_mem_nil, or_false] at hl
  rcases hl with rfl | rfl
  · intro h
    rcases mem_ipv4Chars h with h | h <;> revert h <;> decide
  · intro h
    rcases mem_intChars h with h | h <;> revert h <;> decide

/-- The text of an IPv4 range is read as that range. -/
theorem readDst_toString_ipv4 (x : BitVec 32) (n : ℤ) :
    readDst q .IPv4 ((IPAddress.mk (.ipv4 x) n).toString q)
      = (IPAddress.net ⟨.ipv4 x, n⟩).toList := by
  have hcolon : ':' ∉ ((IPAddress.mk (.ipv4 x) n).toString q).toList := by
    rw [toList_toString_ipv4]
    simp only [intercalate, intersperse, flatten_cons, flatten_nil,
      mem_append, mem_singleton, not_mem_nil, or_false]
    rintro (h | h | h)
    · rcases mem_ipv4Chars h with h | h <;> revert h <;> decide
    · revert h; decide
    · rcases mem_intChars h with h | h <;> revert h <;> decide
  simp only [readDst, if_neg hcolon, splitOn_toString_ipv4, readIPv4_ipv4Chars, readInt_intChars]

/-- Text without blanks at its ends is left as it is. -/
theorem trimmed_eq_self {l : List Char} (h : ∀ c ∈ l, isSpace c = false) : trimmed l = l := by
  have hdrop : ∀ l : List Char, (∀ c ∈ l, isSpace c = false) → l.dropWhile isSpace = l := by
    intro l hl
    cases l with
    | nil => rfl
    | cons c l => rw [dropWhile_cons, hl c mem_cons_self, if_neg Bool.false_ne_true]
  rw [trimmed, hdrop l h, hdrop l.reverse fun c hc => h c (mem_reverse.mp hc),
    reverse_reverse]

theorem trimmed_ipv4Chars (x : BitVec 32) : trimmed (ipv4Chars x) = ipv4Chars x := by
  refine trimmed_eq_self fun c hc => ?_
  rcases mem_ipv4Chars hc with h | rfl
  · have hdigit := h
    simp only [Char.isDigit, Bool.and_eq_true, decide_eq_true_eq] at hdigit
    have hlo : 48 ≤ c.toNat := hdigit.1
    have hhi : c.toNat ≤ 57 := hdigit.2
    simp only [isSpace, Bool.or_eq_false_iff, Bool.and_eq_false_iff, beq_eq_false_iff_ne,
      decide_eq_false_iff_not]
    omega
  · decide

/-- The text of an IPv6 range is no IPv4 network. -/
theorem readDst_toString_ipv6 (x : BitVec 128) (scopeId : String) (n : ℤ) :
    readDst q .IPv4 ((IPAddress.mk (.ipv6 x scopeId) n).toString q) = [] := by
  have hcolon : ':' ∈ ((IPAddress.mk (.ipv6 x scopeId) n).toString q).toList := by
    have haddr : ':' ∈ ((HostAddress.ipv6 x scopeId).toString q).toList := by
      rw [HostAddress.toString, String.toList_append]
      exact mem_append_left _ (q.ipv6Text_colon x)
    rw [IPAddress.toString, String.toList_ofList, arg_address]
    exact Qt.mem_arg_of_mem _ (mem_append_left _ haddr) (by decide) (by decide)
      (q.digitValue_ascii ':' (by decide) (by decide))
  simp only [readDst, if_pos hcolon]

/-- The address lies in the range. -/
def IPAddress.covers (r : IPAddress) (d : Address) : Bool := r.net.any fun n => n.contains d

/-- A range that covers an IPv4 address is an IPv4 range. -/
theorem IPAddress.eq_ipv4_of_covers {d : BitVec 32} (h : r.covers (.v4 d) = true) :
    ∃ x, r.address = .ipv4 x := by
  obtain ⟨address, len⟩ := r
  cases address with
  | null => cases h
  | ipv4 x => exact ⟨x, rfl⟩
  | ipv6 x scopeId =>
    simp only [covers, net] at h
    split at h <;> cases h

/-- The text of a range with an address matches the IPv4 addresses the range covers. -/
theorem any_readDst_toString (hr : r.address ≠ .null) (d : BitVec 32) :
    ((readDst q .IPv4 (r.toString q)).any fun n => n.contains (.v4 d)) = r.covers (.v4 d) := by
  obtain ⟨address, len⟩ := r
  cases address with
  | null => exact absurd rfl hr
  | ipv4 x =>
    rw [readDst_toString_ipv4, IPAddress.covers]
    cases (IPAddress.mk (.ipv4 x) len).net <;> simp
  | ipv6 x scopeId =>
    rw [readDst_toString_ipv6, any_nil, eq_comm, Bool.eq_false_iff]
    intro h
    obtain ⟨_, h⟩ := IPAddress.eq_ipv4_of_covers h
    cases h

/-- The networks of a `-d` argument are of the family of the command. -/
theorem readDst_family {f : Family} {s : String} {n : Net} (hn : n ∈ readDst q f s) :
    n.base.family = f := by
  cases f with
  | IPv6 => exact q.resolve_family .IPv6 s n hn
  | IPv4 =>
    have hres := q.resolve_family .IPv4 s n
    simp only [readDst] at hn
    split at hn
    · cases hn
    split at hn
    · split at hn
      · rw [mem_singleton.mp hn]
        rfl
      · exact hres hn
    · split at hn
      · simp only [IPAddress.net] at hn
        split at hn
        · rw [mem_singleton.mp hn]
          rfl
        · cases hn
      · exact hres hn
    · exact hres hn

/-- A network contains its own address. -/
theorem Net.contains_base (n : Net) : n.contains n.base = true := by
  cases hb : n.base <;> simp [Net.contains, hb]

end Dopamine
