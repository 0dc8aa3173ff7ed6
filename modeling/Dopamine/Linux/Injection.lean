import Dopamine.Linux.TunnelFilter

/-!
# Strings of a request in shell commands

With the kill switch on, `addInterface` pastes strings of the `activate` request into commands for
`/bin/bash -c`: the DNS servers and, in a full tunnel, the excluded addresses as they stand, and the
text `IPAddress` prints for addresses it has parsed, in which the scope id of an IPv6 address stands
as it came. Nothing on the way quotes or checks them.

`request_reads_as_templates_iff` says for which requests the shell reads every command as the
template it was meant as: exactly the ones whose strings are inert (`InertRequest`).
-/

namespace Dopamine.Linux

open Netfilter Shell LinuxFirewall WireguardUtilsLinux List

/-! ## The commands -/

/-- The command string of `isInstalled`. -/
def isInstalledText : List Piece :=
  [.fixed ("iptables -C " ++ Chain.output.name ++ " -j " ++ Chain.root.name ++ " 2> /dev/null")]

/-- The command strings handed to `/bin/bash -c` when methods are called one after another. -/
def opCommands (q : Platform) : List Op → FwState → List (List Piece)
  | [], _ => []
  | op :: ops, st => commands q (op.actions q) st ++ opCommands q ops (run q (op.actions q) st)

/-- The command strings of `addInterface`, once the tunnel process has its configuration. -/
def addInterfaceCommands (q : Platform) (config : InterfaceConfig) (st : FwState) :
    List (List Piece) :=
  if config.killSwitchEnabled then
    isInstalledText ::
      opCommands q (applyFirewallRules (firewallParams q config) (isInstalled st)) st
  else []

/-! ## Commands without arguments -/

def Opt.isLiteral : Opt → Bool
  | .dst (.text _) => false
  | _ => true

/-- The script has no text from outside in it. -/
def Script.isLiteral : Script → Bool
  | .appendRule _ rule | .replaceAnchor _ rule | .appendAnchor _ rule => rule.all Opt.isLiteral
  | _ => true

def Action.isLiteral : Action → Bool
  | .exec _ _ s => s.isLiteral
  | _ => true

section Literal

variable {f : Family} {t : Table}

theorem RuleSpec.isFixed_text {spec : RuleSpec} (h : spec.all Opt.isLiteral = true) {p : Piece}
    (hp : p ∈ RuleSpec.text spec) : p.isFixed = true := by
  refine isFixed_intercalate (fun p hp => ?_) (fun t ht p hp => ?_) p hp
  · rw [mem_singleton.mp hp]
    rfl
  · obtain ⟨o, ho, rfl⟩ := mem_map.mp ht
    have hlit := all_eq_true.mp h o ho
    cases o with
    | dst x =>
      cases x with
      | lit s n =>
        rw [mem_singleton.mp hp]
        rfl
      | text s => cases hlit
    | _ =>
      rw [mem_singleton.mp hp]
      rfl

/-- A literal script is read as it stands. -/
theorem Script.readsAsTemplate {s : Script} (h : s.isLiteral = true) :
    ReadsAsTemplate (s.text f t) := by
  refine readsAsTemplate_of_isFixed fun p hp => ?_
  cases s with
  | appendRule c rule =>
    simp only [Script.text, mem_cons, mem_append, not_mem_nil, or_false] at hp
    rcases hp with rfl | hp | rfl
    · rfl
    · exact RuleSpec.isFixed_text h hp
    · rfl
  | replaceAnchor a rule =>
    simp only [Script.text, mem_cons, mem_append, not_mem_nil, or_false] at hp
    rcases hp with rfl | hp | rfl | hp | rfl
    · rfl
    · exact RuleSpec.isFixed_text h hp
    · rfl
    · exact RuleSpec.isFixed_text h hp
    · rfl
  | appendAnchor a rule =>
    simp only [Script.text, mem_cons] at hp
    rcases hp with rfl | hp
    · rfl
    · exact RuleSpec.isFixed_text h hp
  | _ =>
    rw [mem_singleton.mp hp]
    rfl

end Literal

/-! ## The commands of a run -/

/-- Every script among the actions is read as a template. -/
def ReadsAll (acts : List Action) : Prop :=
  ∀ f t s, .exec f t s ∈ acts → ReadsAsTemplate (s.text f t)

section Run

variable {q : Platform}

/-- The commands of actions are read as templates when the scripts among them are: what a callback
runs is text of the program. -/
theorem forall_commands_iff (acts : List Action) (st : FwState) :
    (∀ t ∈ commands q acts st, ReadsAsTemplate t) ↔ ReadsAll acts := by
  induction acts generalizing st with
  | nil => simp [commands, ReadsAll]
  | cons a acts ih =>
    have hhead : (∀ t ∈ a.commands st, ReadsAsTemplate t) ↔
        ∀ f t s, .exec f t s = a → ReadsAsTemplate (s.text f t) := by
      cases a with
      | exec f t s =>
        constructor
        · intro h _ _ _ heq
          obtain ⟨rfl, rfl, rfl⟩ := Action.exec.inj heq
          exact h _ (mem_singleton.mpr rfl)
        · intro h t' ht'
          rw [mem_singleton.mp ht']
          exact h f t s rfl
      | shell text =>
        refine iff_of_true (fun t ht => ?_) fun _ _ _ heq => Action.noConfusion heq
        rw [mem_singleton.mp ht]
        exact readsAsTemplate_fixed [text]
      | register key cb =>
        exact iff_of_true (fun t ht => nomatch ht)
          fun _ _ _ heq => Action.noConfusion heq
      | invoke key =>
        refine iff_of_true (fun t ht => ?_) fun _ _ _ heq => Action.noConfusion heq
        simp only [Action.commands] at ht
        split at ht
        · obtain ⟨text, _, rfl⟩ := mem_map.mp ht
          exact readsAsTemplate_fixed [text]
        · cases ht
    rw [commands, forall_mem_append, hhead, ih]
    constructor
    · rintro ⟨h₁, h₂⟩ f t s hs
      rcases mem_cons.mp hs with heq | hs
      · exact h₁ f t s heq
      · exact h₂ f t s hs
    · intro h
      exact ⟨fun f t s heq => h f t s (heq ▸ mem_cons_self),
        fun f t s hs => h f t s (mem_cons_of_mem _ hs)⟩

/-- A run of methods, in whatever state. -/
theorem forall_opCommands_iff (ops : List Op) (st : FwState) :
    (∀ t ∈ opCommands q ops st, ReadsAsTemplate t) ↔ ∀ op ∈ ops, ReadsAll (op.actions q) := by
  induction ops generalizing st with
  | nil => simp [opCommands]
  | cons op ops ih =>
    rw [opCommands, forall_mem_append, forall_commands_iff, ih, forall_mem_cons]

variable {f : Family}

/-- A script of a method that is called is run. -/
theorem text_mem_opCommands {ops : List Op} {op : Op} (hop : op ∈ ops) {t : Table} {s : Script}
    (hs : .exec f t s ∈ op.actions q) (st : FwState) : s.text f t ∈ opCommands q ops st := by
  have hcommands : ∀ (acts : List Action) (st : FwState), .exec f t s ∈ acts →
      s.text f t ∈ commands q acts st := by
    intro acts
    induction acts with
    | nil => exact fun _ h => nomatch h
    | cons a acts ih =>
      intro st h
      rcases mem_cons.mp h with rfl | h
      · exact mem_append_left _ (mem_singleton.mpr rfl)
      · exact mem_append_right _ (ih _ h)
  induction ops generalizing st with
  | nil => cases hop
  | cons op' ops ih =>
    rcases mem_cons.mp hop with rfl | hop
    · exact mem_append_left _ (hcommands _ st hs)
    · exact mem_append_right _ (ih hop _)

theorem readsAll_append {l m : List Action} : ReadsAll (l ++ m) ↔ ReadsAll l ∧ ReadsAll m := by
  constructor
  · exact fun h => ⟨fun f t s hs => h f t s (mem_append_left _ hs),
      fun f t s hs => h f t s (mem_append_right _ hs)⟩
  · rintro ⟨hl, hm⟩ f t s hs
    rcases mem_append.mp hs with hs | hs
    · exact hl f t s hs
    · exact hm f t s hs

theorem readsAll_of_isLiteral {acts : List Action} (h : acts.all Action.isLiteral = true) :
    ReadsAll acts :=
  fun _ _ _ hs => Script.readsAsTemplate (all_eq_true.mp h _ hs)

theorem readsAll_install : ReadsAll LinuxFirewall.install := readsAll_of_isLiteral (by decide)

theorem readsAll_setAnchorEnabled (ip : IPVersion) (a : Anchor) (on : Bool) (t : Table) :
    ReadsAll (LinuxFirewall.setAnchorEnabled ip a on t) :=
  readsAll_of_isLiteral (by cases ip <;> cases on <;> rfl)

/-- An update is read as meant when the new rules are. -/
theorem readsAll_updateRules {a : Anchor} {rules : List RuleSpec} :
    ReadsAll (updateRules f a rules) ↔
      ∀ rule ∈ rules, ReadsAsTemplate ((Script.appendAnchor a rule).text f .filter) := by
  constructor
  · exact fun h rule hrule => h f .filter _ (mem_cons_of_mem _ (mem_map_of_mem hrule))
  · intro h f' t s hs
    rcases mem_cons.mp hs with heq | hs
    · obtain ⟨-, -, rfl⟩ := Action.exec.inj heq
      exact Script.readsAsTemplate rfl
    · obtain ⟨rule, hrule, heq⟩ := mem_map.mp hs
      obtain ⟨rfl, rfl, rfl⟩ := Action.exec.inj heq
      exact h rule hrule

end Run

/-! ## Rules with an address from outside -/

section Rules

variable {q : Platform}

theorem isPlain_name (a : Anchor) : a.name.toList.all isPlain = true := by
  cases a <;> decide +kernel

variable (f : Family) (servers : List String)

/-- The start of a command that appends to an anchor is plain text. -/
theorem isPlain_appendAnchor (a : Anchor) :
    (getCommand f ++ " -A " ++ (Chain.actual a).name ++ " ").toList.all isPlain = true := by
  have hcommand : (getCommand f).toList.all isPlain = true := by cases f <;> decide
  simp only [Chain.name, String.toList_append, all_append, hcommand, isPlain_name]
  decide

/-- A `-d` option after plain text is read as meant when its argument is inert. -/
theorem readsAsTemplate_dst_iff (before after : List String)
    (hbefore : (before.flatMap String.toList).all isPlain = true) (server : String)
    (hafter : ((after.map .fixed).flatMap Piece.chars).head?.all isBlank) :
    ReadsAsTemplate (before.map .fixed ++ .fixed "-d " :: .arg server ::
      after.map .fixed) ↔ Inert server.toList := by
  have hplain : (before.flatMap String.toList ++ ['-', 'd']).all isPlain = true := by
    rw [all_append, hbefore]
    rfl
  obtain ⟨toks, hrun⟩ := run_plain_blank hplain
  have hchars : ((before ++ ["-d "]).map .fixed).flatMap Piece.chars =
      before.flatMap String.toList ++ ['-', 'd'] ++ [' '] := by
    simp [flatMap_map, Piece.chars]
  rw [← hchars] at hrun
  rw [← readsAsTemplate_arg_iff server hrun hafter, map_append, append_assoc]
  rfl

/-- The rule `getAllowRule` or `getBlockRule` makes of an address. -/
theorem readsAsTemplate_net_iff (a : Anchor) (v : Verdict) (server : String) :
    ReadsAsTemplate ((Script.appendAnchor a [.dst (.text server), .jump v]).text f .filter) ↔
      Inert server.toList := by
  refine readsAsTemplate_dst_iff [getCommand f ++ " -A " ++ (Chain.actual a).name ++ " "]
    [" ", "-j " ++ v.name] ?_ server rfl
  rw [flatMap_singleton]
  exact isPlain_appendAnchor f a

theorem forall_nets_iff (a : Anchor) (v : Verdict) (servers : List String) :
    ReadsAll (updateRules f a (servers.map fun server => [.dst (.text server), .jump v])) ↔
      ∀ server ∈ servers, Inert server.toList := by
  rw [readsAll_updateRules, forall_mem_map]
  exact forall₂_congr fun server _ => readsAsTemplate_net_iff f a v server

/-- The rules `getDNSRules` makes of an address. -/
theorem readsAsTemplate_dns_iff {i : String} (hi : i.toList.all isPlain = true) (x : Proto)
    (server : String) :
    ReadsAsTemplate ((Script.appendAnchor .allowDNS
      [.out i, .dst (.text server), .proto x, .dport 53, .jump .accept]).text .IPv4 .filter) ↔
      Inert server.toList := by
  refine readsAsTemplate_dst_iff
    [getCommand .IPv4 ++ " -A " ++ (Chain.actual .allowDNS).name ++ " ", "-o " ++ i, " "]
    [" ", "-p " ++ x.name, " ", "--dport 53", " ", "-j ACCEPT"] ?_ server rfl
  rw [flatMap_cons, all_append, isPlain_appendAnchor]
  simp only [flatMap_cons, flatMap_nil, all_append, String.toList_append, hi]
  rfl

theorem readsAll_updateDNSServers :
    ReadsAll (LinuxFirewall.updateDNSServers servers) ↔
      ∀ server ∈ servers, Inert server.toList := by
  rw [LinuxFirewall.updateDNSServers, readsAll_updateRules, getDNSRules, forall_mem_flatMap]
  refine forall₂_congr fun server _ => ?_
  simp only [forall_mem_cons,
    readsAsTemplate_dns_iff (show "frkn0+".toList.all isPlain by decide),
    readsAsTemplate_dns_iff (show "tun0+".toList.all isPlain by decide),
    readsAsTemplate_dns_iff (show "tun2+".toList.all isPlain by decide)]
  simp

theorem readsAll_updateAllowNets :
    ReadsAll (LinuxFirewall.updateAllowNets q servers) ↔
      ∀ server ∈ servers, Inert server.toList := by
  rw [LinuxFirewall.updateAllowNets, readsAll_append]
  simp only [getAllowRule, forall_nets_iff, allowNetsFor, mem_filter]
  constructor
  · rintro ⟨h4, h6⟩ server hserver
    cases hv6 : isIPv6Entry q server with
    | false => exact h4 server ⟨hserver, by rw [hv6]; rfl⟩
    | true => exact h6 server ⟨hserver, by rw [hv6]; rfl⟩
  · exact fun h => ⟨fun server hs => h server hs.1, fun server hs => h server hs.1⟩

end Rules

/-! ## The text of parsed addresses -/

/-- The scope id of an IPv6 address means nothing to the shell. -/
def HostAddress.PlainScope : HostAddress → Prop
  | .ipv6 _ scopeId => ∀ c ∈ scopeId.toList, ordinary c = true
  | _ => True

section Text

variable (q : Platform) {c : Char}

theorem ordinary_of_isAlphanum (h : c.isAlphanum = true) : ordinary c = true := by
  by_contra hord
  rw [(ordinary_eq_false (Bool.eq_false_iff.mpr hord)).2] at h
  cases h

theorem ordinary_of_isDigit (h : c.isDigit = true) : ordinary c = true :=
  ordinary_of_isAlphanum (by rw [Char.isAlphanum, h, Bool.or_true])

theorem ordinary_of_mem_ipv6Text {x : BitVec 128} (h : c ∈ (q.ipv6Text x).toList) :
    ordinary c = true := by
  rcases q.ipv6Text_chars x c h with h | rfl | rfl
  · exact ordinary_of_isAlphanum h
  · decide
  · decide

/-- The text of an address is ordinary apart from its scope id. -/
theorem ordinary_of_mem_address {a : HostAddress} (ha : HostAddress.PlainScope a)
    (h : c ∈ (a.toString q).toList) : ordinary c = true := by
  cases a with
  | null => cases h
  | ipv4 x =>
    rw [HostAddress.toString, String.toList_ofList] at h
    rcases mem_ipv4Chars h with h | rfl
    · exact ordinary_of_isDigit h
    · decide
  | ipv6 x scopeId =>
    rw [HostAddress.toString, String.toList_append, mem_append] at h
    rcases h with h | h
    · exact ordinary_of_mem_ipv6Text q h
    · split at h
      · cases h
      · rw [String.toList_append, mem_append] at h
        rcases h with h | h
        · obtain rfl : c = '%' := mem_singleton.mp h
          decide
        · exact ha c h

theorem ordinary_of_mem_toString {a : IPAddress} (ha : HostAddress.PlainScope a.address)
    (h : c ∈ (a.toString q).toList) : ordinary c = true := by
  rw [IPAddress.toString, String.toList_ofList, arg_address] at h
  rcases Qt.mem_arg h with h | h
  · rcases mem_append.mp h with h | h
    · exact ordinary_of_mem_address q ha h
    · simp only [mem_cons, not_mem_nil, or_false] at h
      rcases h with rfl | rfl | rfl <;> decide
  · rcases mem_intChars h with h | rfl
    · exact ordinary_of_isDigit h
    · decide

variable (a : IPAddress)

/-- The text starts with a part that has neither a tilde nor a number sign. -/
theorem exists_start_toString :
    ∃ start rest, (a.toString q).toList = start ++ rest ∧ start ≠ [] ∧
      ∀ c ∈ start, c ≠ '~' ∧ c ≠ '#' := by
  have hkeep : ∀ start rest, '%' ∉ start → (a.address.toString q).toList ++ ['/', '%', '2'] =
      start ++ rest → ∃ rest', (a.toString q).toList = start ++ rest' := by
    intro start rest hstart heq
    rw [IPAddress.toString, String.toList_ofList, arg_address, heq]
    exact Qt.exists_arg_append hstart rest _
  cases ha : a.address with
  | null =>
    obtain ⟨rest, h⟩ := hkeep ['/'] ['%', '2'] (by decide) (by rw [ha]; rfl)
    refine ⟨_, rest, h, by decide, fun c hc => ?_⟩
    rw [mem_singleton.mp hc]
    decide
  | ipv4 x =>
    have hchars : ∀ c ∈ ipv4Chars x ++ ['/'], c ≠ '%' ∧ c ≠ '~' ∧ c ≠ '#' := by
      intro c hc
      rcases mem_append.mp hc with hc | hc
      · rcases mem_ipv4Chars hc with hc | rfl
        · refine ⟨?_, ?_, ?_⟩ <;> rintro rfl <;> revert hc <;> decide
        · decide
      · rw [mem_singleton.mp hc]
        decide
    obtain ⟨rest, h⟩ := hkeep (ipv4Chars x ++ ['/']) ['%', '2'] (fun h => (hchars _ h).1 rfl) (by
      rw [ha, HostAddress.toString, String.toList_ofList, append_assoc]
      rfl)
    exact ⟨_, rest, h, by simp, fun c hc => (hchars c hc).2⟩
  | ipv6 x scopeId =>
    have hchars : ∀ c ∈ (q.ipv6Text x).toList, c ≠ '%' ∧ c ≠ '~' ∧ c ≠ '#' := by
      intro c hc
      rcases q.ipv6Text_chars x c hc with hc | rfl | rfl
      · refine ⟨?_, ?_, ?_⟩ <;> rintro rfl <;> revert hc <;> decide
      · decide
      · decide
    obtain ⟨rest, h⟩ := hkeep (q.ipv6Text x).toList _ (fun h => (hchars _ h).1 rfl) (by
      rw [ha, HostAddress.toString, String.toList_append, append_assoc])
    exact ⟨_, rest, h, ne_nil_of_mem (q.ipv6Text_colon x), fun c hc => (hchars c hc).2⟩

/-- The text of a parsed address is inert exactly when its scope id is. -/
theorem inert_toString_iff : Inert (a.toString q).toList ↔ HostAddress.PlainScope a.address := by
  constructor
  · rintro ⟨-, hord, -, -⟩
    obtain ⟨address, len⟩ := a
    cases address with
    | null => trivial
    | ipv4 x => trivial
    | ipv6 x scopeId =>
      intro c hc
      -- a character with a meaning is neither lost nor taken for a place marker
      by_contra hbad
      obtain ⟨hascii, halnum⟩ := ordinary_eq_false (Bool.eq_false_iff.mpr hbad)
      have hdigit : c.isDigit = false := (Bool.or_eq_false_iff.mp halnum).2
      have haddr : c ∈ ((HostAddress.ipv6 x scopeId).toString q).toList := by
        have hne : scopeId ≠ "" := by
          rintro rfl
          cases hc
        rw [HostAddress.toString, if_neg hne, String.toList_append, String.toList_append]
        exact mem_append_right _ (mem_append_right _ hc)
      refine hbad (hord c ?_)
      rw [IPAddress.toString, String.toList_ofList, arg_address]
      refine Qt.mem_arg_of_mem _ (mem_append_left _ haddr) ?_ ?_
        (q.digitValue_ascii c hascii hdigit)
      · rintro rfl
        exact hbad (by decide)
      · rintro rfl
        exact hbad (by decide)
  · intro ha
    obtain ⟨start, rest, heq, hne, hstart⟩ := exists_start_toString q a
    refine ⟨?_, fun c hc => ordinary_of_mem_toString q ha hc, ?_, ?_⟩
    · rw [heq]
      exact append_ne_nil_of_left_ne_nil hne rest
    all_goals
      rw [heq, head?_append_of_ne_nil _ hne]
      intro h
    · exact (hstart _ (mem_of_mem_head? h)).1 rfl
    · exact (hstart _ (mem_of_mem_head? h)).2 rfl

end Text

/-! ## Requests -/

/-- The strings of a request that get into commands mean nothing to the shell, and the first DNS
server is there. -/
structure InertRequest (q : Platform) (obj : JsonObject) : Prop where
  primaryDns : Inert (Daemon.requestText obj "primaryDnsServer").toList
  secondaryDns : Daemon.requestText obj "secondaryDnsServer" ≠ "" →
    Inert (Daemon.requestText obj "secondaryDnsServer").toList
  excluded : IPAddress.any4 ∈ Daemon.requestRanges q obj →
    ∀ s ∈ Daemon.requestStrings obj "excludedAddresses", Inert s.toList
  subnets : ∀ s ∈ Daemon.requestStrings obj "excludedAddresses",
    HostAddress.PlainScope (IPAddress.ofString q s).address
  ranges : IPAddress.any4 ∉ Daemon.requestRanges q obj →
    ∀ r ∈ Daemon.requestRanges q obj, HostAddress.PlainScope r.address

section Request

variable {q : Platform} {obj : JsonObject} {config : InterfaceConfig}

/-- `applyFirewallRules` is read as meant when the three lists are inert. -/
theorem readsAll_applyFirewallRules (params : FirewallParams) (installed : Bool) :
    (∀ op ∈ applyFirewallRules params installed, ReadsAll (op.actions q)) ↔
      (∀ s ∈ mergeAddrs params.allowAddrs params.excludedSubnets, Inert s.toList) ∧
      (∀ s ∈ params.blockAddrs, Inert s.toList) ∧ ∀ s ∈ params.dnsServers, Inert s.toList := by
  have hinstall : ∀ op ∈ installIfNeeded installed, ReadsAll (op.actions q) := by
    intro op hop
    cases installed with
    | true => cases hop
    | false =>
      rw [mem_singleton.mp hop]
      exact readsAll_install
  have hroot : ReadsAll (LinuxFirewall.ensureRootAnchorPriority .Both) :=
    readsAll_of_isLiteral rfl
  rw [applyFirewallRules, forall_mem_append, and_iff_right hinstall]
  simp only [true_and, applyCalls, forall_mem_cons, Op.actions, hroot,
    readsAll_setAnchorEnabled, readsAll_updateAllowNets, readsAll_updateDNSServers,
    LinuxFirewall.updateBlockNets, getBlockRule, forall_nets_iff, not_mem_nil,
    IsEmpty.forall_iff, implies_true, and_true]

/-- The lists of an accepted request. -/
theorem inert_params_iff (hparse : Daemon.parseConfig q obj = .ok config) :
    (∀ s ∈ mergeAddrs (firewallParams q config).allowAddrs
        (firewallParams q config).excludedSubnets, Inert s.toList) ∧
      (∀ s ∈ (firewallParams q config).blockAddrs, Inert s.toList) ∧
      (∀ s ∈ (firewallParams q config).dnsServers, Inert s.toList) ↔ InertRequest q obj := by
  obtain ⟨hprimary, hsecondary, hexcluded, hranges⟩ := Daemon.parseConfig_eq_ok hparse
  have hfull : isFullTunnel config = true ↔ IPAddress.any4 ∈ Daemon.requestRanges q obj := by
    rw [isFullTunnel, decide_eq_true_eq, hranges]
  constructor
  · rintro ⟨hallow, hblock, hdns⟩
    refine ⟨?_, fun hne => ?_, fun hmem s hs => ?_, fun s hs => ?_, fun hmem r hr => ?_⟩
    · rw [← hprimary]
      exact hdns _ mem_cons_self
    · rw [← hsecondary] at hne ⊢
      refine hdns _ (mem_cons_of_mem _ ?_)
      rw [if_neg hne]
      exact mem_singleton.mpr rfl
    · refine hallow s (mem_mergeAddrs.mpr (.inl ?_))
      simp only [firewallParams, hfull.mpr hmem, if_true]
      rwa [hexcluded]
    · by_cases hnull : (IPAddress.ofString q s).address = .null
      · rw [hnull]
        trivial
      · rw [← inert_toString_iff]
        exact hallow _ (mem_mergeAddrs.mpr (.inr (mem_excludedSubnets.mpr
          ⟨s, hexcluded ▸ hs, hnull, rfl⟩)))
    · rw [← inert_toString_iff q]
      refine hblock _ ?_
      simp only [firewallParams, mt hfull.mp hmem]
      exact mem_map_of_mem ((hranges r).mpr hr)
  · intro h
    refine ⟨fun s hs => ?_, fun s hs => ?_, fun s hs => ?_⟩
    · rcases mem_mergeAddrs.mp hs with hs | hs
      · simp only [firewallParams] at hs
        split at hs
        · next hf => exact h.excluded (hfull.mp hf) s (hexcluded ▸ hs)
        · cases hs
      · obtain ⟨net, hnet, -, rfl⟩ := mem_excludedSubnets.mp hs
        exact (inert_toString_iff q _).mpr (h.subnets net (hexcluded ▸ hnet))
    · simp only [firewallParams] at hs
      split at hs
      · cases hs
      · next hf =>
        obtain ⟨r, hr, rfl⟩ := mem_map.mp hs
        exact (inert_toString_iff q r).mpr (h.ranges (mt hfull.mpr hf) r ((hranges r).mp hr))
    · simp only [firewallParams, mem_cons] at hs
      rcases hs with rfl | hs
      · rw [hprimary]
        exact h.primaryDns
      · split at hs
        · cases hs
        · next hne =>
          rw [mem_singleton.mp hs, hsecondary]
          exact h.secondaryDns (hsecondary ▸ hne)

/-- For a request that `parseConfig` accepts and that has the kill switch on, the shell reads every
command of `addInterface` as the template it is meant as, with one word for each string that is
pasted in, exactly when the strings of the request are inert. -/
theorem request_reads_as_templates_iff (hparse : Daemon.parseConfig q obj = .ok config)
    (hkill : config.killSwitchEnabled = true) (st : FwState) :
    (∀ t ∈ addInterfaceCommands q config st, ReadsAsTemplate t) ↔ InertRequest q obj := by
  rw [addInterfaceCommands, if_pos hkill, forall_mem_cons, forall_opCommands_iff,
    readsAll_applyFirewallRules, inert_params_iff hparse]
  exact and_iff_right (readsAsTemplate_fixed [_])

end Request

/-- A request for a full tunnel with the kill switch on, as any local client can send it. -/
def sampleRequest (dns : String) : JsonObject :=
  [("privateKey", .string "key"), ("serverPublicKey", .string "peer"),
    ("serverPort", .double 51820),
    ("deviceIpv4Address", .string "10.8.0.2"), ("serverIpv4AddrIn", .string "203.0.113.7"),
    ("primaryDnsServer", .string dns), ("killSwitchOption", .string "true"),
    ("allowedIPAddressRanges", .array [.object [("address", .string "0.0.0.0"),
      ("range", .double 0), ("isIpv6", .bool false)]]),
    ("excludedAddresses", .array [.string "203.0.113.7"])]

theorem inert_sampleRequest : InertRequest .plain (sampleRequest "1.1.1.1") where
  primaryDns := by decide +kernel
  secondaryDns h := absurd rfl h
  excluded _ := by decide +kernel
  subnets s hs := by
    obtain rfl : s = "203.0.113.7" := mem_singleton.mp hs
    have haddr : (IPAddress.ofString .plain "203.0.113.7").address = .ipv4 0xcb007107#32 := by
      decide +kernel
    rw [haddr]
    trivial
  ranges h := absurd (by decide +kernel) h

theorem request_reads_as_templates_sample :
    ∃ config, Daemon.parseConfig .plain (sampleRequest "1.1.1.1") = .ok config ∧
      config.killSwitchEnabled = true ∧
      ∀ t ∈ addInterfaceCommands .plain config sampleTables, ReadsAsTemplate t :=
  ⟨_, rfl, by decide +kernel,
    (request_reads_as_templates_iff rfl (by decide +kernel) sampleTables).mpr inert_sampleRequest⟩

/-- A DNS server with a semicolon runs a second command as root. -/
theorem request_injects_command :
    ∃ config, Daemon.parseConfig .plain (sampleRequest "1.1.1.1;reboot") = .ok config ∧
      config.killSwitchEnabled = true ∧
      ∃ t ∈ addInterfaceCommands .plain config sampleTables,
        t.flatMap Piece.chars = ("iptables -A frkvpn.320.allowDNS -o frkn0+ -d 1.1.1.1;reboot " ++
          "-p udp --dport 53 -j ACCEPT").toList ∧ ¬ ReadsAsTemplate t := by
  obtain ⟨config, hparse, hkill, hdns⟩ : ∃ config,
      Daemon.parseConfig .plain (sampleRequest "1.1.1.1;reboot") = .ok config ∧
      config.killSwitchEnabled = true ∧
      (firewallParams .plain config).dnsServers = ["1.1.1.1;reboot"] :=
    ⟨_, rfl, by decide +kernel, by decide +kernel⟩
  refine ⟨config, hparse, hkill, (Script.appendAnchor .allowDNS [.out "frkn0+",
    .dst (.text "1.1.1.1;reboot"), .proto .udp, .dport 53, .jump .accept]).text .IPv4 .filter,
    ?_, by decide +kernel, ?_⟩
  · have hop : .updateDNSServers ["1.1.1.1;reboot"] ∈
        applyFirewallRules (firewallParams .plain config) (isInstalled sampleTables) := by
      rw [← hdns, applyFirewallRules]
      exact mem_append_right _ (by simp [applyCalls])
    rw [addInterfaceCommands, if_pos hkill]
    exact mem_cons_of_mem _ (text_mem_opCommands hop
      (mem_cons_of_mem _ mem_cons_self) sampleTables)
  · rw [readsAsTemplate_dns_iff (by decide)]
    decide +kernel

end Dopamine.Linux
