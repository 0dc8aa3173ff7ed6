import Dopamine.Net.Address
import Dopamine.Trace.Runs
import Mathlib.Data.List.Dedup
import Mathlib.Data.List.Sort

/-!
# The search domains of the Linux network links

`DnsUtilsLinux` of `client/platforms/linux/daemon/dnsutilslinux.cpp`. `updateResolvers` asks
`systemd-resolved` for the domains of all links and does not wait. When the reply comes, they are
saved, the root domain is taken from the links that have it and given to the link of the tunnel.
`restoreResolvers` gives the links what was saved.

The reply is not tied to the update that asked for it. One that comes after `restoreResolvers` takes
the root domain away again, and names the link 0. As long as replies only come while an update is in
force, and one update is undone before the next, the links get their domains back
(`domains_restored`).

`systemd-resolved` handles messages in the order they are sent, so a query is answered with the
domains at the time it is sent. Nobody else changes them, and setting the domains of a link
succeeds; there is no link 0.
-/

namespace Dopamine.Linux

open List Function

structure DnsLinkDomain where
  domain : String
  search : Bool
deriving DecidableEq

/-- An entry of the `Domains` property. -/
structure DnsDomain extends DnsLinkDomain where
  ifindex : ℕ
deriving DecidableEq

namespace DnsUtilsLinux

/-! ## Domains by link -/

def ofLink (i : ℕ) (l : List DnsDomain) : List DnsLinkDomain :=
  (l.filter (·.ifindex = i)).map (·.toDnsLinkDomain)

/-- The links that have domains, in ascending order. -/
def keys (l : List DnsDomain) : List ℕ := ((l.map (·.ifindex)).dedup).insertionSort (· ≤ ·)

/-- Every link has the same domains. -/
def SameDomains (l l' : List DnsDomain) : Prop := ∀ i, ofLink i l = ofLink i l'

variable {i : ℕ} {m : Message} {list : List DnsDomain}

theorem mem_keys {l : List DnsDomain} : i ∈ keys l ↔ ofLink i l ≠ [] := by
  rw [keys, mem_insertionSort, mem_dedup, ofLink, ne_eq, map_eq_nil_iff,
    filter_eq_nil_iff]
  simp [mem_map]

/-- The domains when one link has lost its own. -/
theorem ofLink_filter_ne (i j : ℕ) (l : List DnsDomain) :
    ofLink j (l.filter (·.ifindex ≠ i)) = if j = i then [] else ofLink j l := by
  unfold ofLink
  rw [filter_filter]
  by_cases h : j = i
  · rw [if_pos h, map_eq_nil_iff, filter_eq_nil_iff]
    simp [h]
  · rw [if_neg h]
    congr 1
    refine filter_congr fun d _ => ?_
    rw [Bool.and_eq_left_iff_imp, decide_eq_true_eq, decide_eq_true_eq]
    rintro rfl
    exact h

theorem ofLink_map_mk (i j : ℕ) (l : List DnsLinkDomain) :
    ofLink j (l.map fun d => ⟨d, i⟩) = if j = i then l else [] := by
  unfold ofLink
  by_cases h : j = i
  · subst h
    simp [filter_map, comp_def]
  · simp [filter_map, comp_def, h, Ne.symm h]

/-- Give a link other domains. -/
def setLink (i : ℕ) (l : List DnsLinkDomain) (domains : List DnsDomain) : List DnsDomain :=
  domains.filter (·.ifindex ≠ i) ++ l.map fun d => ⟨d, i⟩

theorem ofLink_setLink (i j : ℕ) (l : List DnsLinkDomain) (domains : List DnsDomain) :
    ofLink j (setLink i l domains) = if j = i then l else ofLink j domains := by
  rw [setLink, ofLink, filter_append, map_append]
  show ofLink j _ ++ ofLink j _ = _
  rw [ofLink_filter_ne, ofLink_map_mk]
  split
  · exact nil_append l
  · exact append_nil _

/-! ## Messages -/

/-- The messages to `systemd-resolved` that change something. -/
inductive Message where
  | setLinkDNS (ifindex : ℕ) (resolvers : List HostAddress)
  | setLinkDefaultRoute (ifindex : ℕ) (enable : Bool)
  | setLinkDomains (ifindex : ℕ) (domains : List DnsLinkDomain)
  | revertLink (ifindex : ℕ)
deriving DecidableEq

/-- The link a message is about. -/
def Message.ifindex : Message → ℕ
  | .setLinkDNS i _ => i
  | .setLinkDefaultRoute i _ => i
  | .setLinkDomains i _ => i
  | .revertLink i => i

/-- What a message does to the domains. -/
def Message.apply (domains : List DnsDomain) : Message → List DnsDomain
  | .setLinkDomains i l => if i = 0 then domains else setLink i l domains
  | .revertLink i => setLink i [] domains
  | _ => domains

/-- `DnsUtilsLinux`, with the state of `systemd-resolved`. -/
structure State where
  /-- `m_ifindex` -/
  ifindex : ℕ
  /-- `m_linkDomains`: the value of a key is `ofLink`, and `keys` are the keys -/
  linkDomains : List DnsDomain
  /-- what the queries that are not answered yet will be answered with -/
  queries : List (List DnsDomain)
  domains : List DnsDomain
  sent : List Message

/-- Before the first update. -/
def State.init (domains : List DnsDomain) : State := ⟨0, [], [], domains, []⟩

def send (s : State) (m : Message) : State :=
  { s with domains := m.apply s.domains, sent := s.sent ++ [m] }

def updateLinkDomains (s : State) : State := { s with queries := s.queries ++ [s.domains] }

/-- `index` is what `if_nametoindex` finds, 0 if it finds nothing. -/
def updateResolvers (index : ℕ) (resolvers : List HostAddress) (s : State) : Bool × State :=
  let s := { s with ifindex := index }
  if index = 0 then (false, s)
  else
    let s := send s (.setLinkDNS index resolvers)
    let s := send s (.setLinkDefaultRoute index true)
    (true, updateLinkDomains s)

def restoreResolvers (s : State) : State :=
  let s := ((keys s.linkDomains).map fun i =>
    Message.setLinkDomains i (ofLink i s.linkDomains)).foldl send s
  let s := { s with linkDomains := [] }
  if s.ifindex > 0 then { send s (.revertLink s.ifindex) with ifindex := 0 } else s

/-- The root search domain. -/
def root : DnsLinkDomain := ⟨".", true⟩

/-- The links that have the root domain. -/
def competing (linkDomains : List DnsDomain) : List ℕ :=
  (keys linkDomains).filter fun i => root ∈ ofLink i linkDomains

/-- The root domain goes to the link of the tunnel, whatever that is by now. -/
def dnsDomainsReceived (list : List DnsDomain) (s : State) : State :=
  let linkDomains := list.filter (·.ifindex ≠ 0)
  let s := { s with linkDomains }
  let s := ((competing linkDomains).map fun i =>
    Message.setLinkDomains i ((ofLink i linkDomains).filter (· ≠ root))).foldl send s
  send s (.setLinkDomains s.ifindex [root])

/-- What happens: calls of the daemon, and replies to queries, in any order. -/
inductive Event where
  | update (index : ℕ) (resolvers : List HostAddress)
  | restore
  | reply (k : ℕ) (error : Bool)

def Event.isReply : Event → Bool
  | .reply _ _ => true
  | _ => false

def step (s : State) : Event → State
  | .update index resolvers => (updateResolvers index resolvers s).2
  | .restore => restoreResolvers s
  | .reply k error =>
      match s.queries[k]? with
      | none => s
      | some list =>
          let s := { s with queries := s.queries.eraseIdx k }
          if error then s else dnsDomainsReceived list s

/-! ## What messages leave -/

/-- Messages change nothing but the domains and the list of messages. -/
theorem foldl_send (ms : List Message) (s : State) :
    ms.foldl send s =
      { s with domains := ms.foldl Message.apply s.domains, sent := s.sent ++ ms } := by
  induction ms generalizing s with
  | nil => simp
  | cons m ms ih =>
    rw [foldl_cons, ih]
    simp [send]

variable {s : State}

/-- Messages that set the domains of some links. -/
theorem ofLink_foldl_setLinkDomains {is : List ℕ} (hzero : 0 ∉ is) (f : ℕ → List DnsLinkDomain)
    (domains : List DnsDomain) (j : ℕ) :
    ofLink j ((is.map fun i => Message.setLinkDomains i (f i)).foldl Message.apply domains) =
      if j ∈ is then f j else ofLink j domains := by
  induction is generalizing domains with
  | nil => rfl
  | cons i is ih =>
    obtain ⟨hi, his⟩ := not_or.mp (mem_cons.not.mp hzero)
    rw [map_cons, foldl_cons, ih his, Message.apply, if_neg (Ne.symm hi), ofLink_setLink]
    by_cases hmem : j ∈ is
    · rw [if_pos hmem, if_pos (mem_cons_of_mem _ hmem)]
    · rw [if_neg hmem]
      by_cases hj : j = i
      · rw [if_pos hj, if_pos (hj ▸ mem_cons_self), hj]
      · rw [if_neg hj, if_neg (mem_cons.not.mpr (not_or.mpr ⟨hj, hmem⟩))]

theorem restoreResolvers_eq (s : State) :
    (restoreResolvers s).ifindex = 0 ∧ (restoreResolvers s).linkDomains = [] ∧
      (restoreResolvers s).queries = s.queries := by
  unfold restoreResolvers
  dsimp only
  rw [foldl_send]
  split
  · exact ⟨rfl, rfl, rfl⟩
  · rename_i hindex
    exact ⟨Nat.eq_zero_of_not_pos hindex, rfl, rfl⟩

theorem mem_sent_restoreResolvers (hzero : 0 ∉ keys s.linkDomains)
    (h : m ∈ (restoreResolvers s).sent) : m ∈ s.sent ∨ m.ifindex ≠ 0 := by
  have hdomains : m ∈ s.sent ++ (keys s.linkDomains).map (fun i =>
      Message.setLinkDomains i (ofLink i s.linkDomains)) → m ∈ s.sent ∨ m.ifindex ≠ 0 := by
    intro h
    refine (mem_append.mp h).imp_right fun h => ?_
    obtain ⟨i, hi, rfl⟩ := mem_map.mp h
    exact fun heq => hzero (heq ▸ hi)
  unfold restoreResolvers at h
  dsimp only at h
  rw [foldl_send] at h
  split at h
  · rename_i hindex
    rcases mem_append.mp h with h | h
    · exact hdomains h
    · rw [mem_singleton.mp h]
      exact .inr (Nat.pos_iff_ne_zero.mp hindex)
  · exact hdomains h

/-- The link of the tunnel loses its domains, the others get what was saved. -/
theorem ofLink_restoreResolvers (hzero : 0 ∉ keys s.linkDomains) (j : ℕ) :
    ofLink j (restoreResolvers s).domains =
      if s.ifindex ≠ 0 ∧ j = s.ifindex then []
      else if j ∈ keys s.linkDomains then ofLink j s.linkDomains else ofLink j s.domains := by
  unfold restoreResolvers
  rw [foldl_send]
  by_cases hindex : s.ifindex = 0
  · rw [if_neg (by simp [hindex]), if_neg fun h => h.1 hindex]
    exact ofLink_foldl_setLinkDomains hzero ..
  · rw [if_pos (Nat.pos_of_ne_zero hindex)]
    show ofLink j (setLink s.ifindex [] _) = _
    rw [ofLink_setLink]
    by_cases hj : j = s.ifindex
    · rw [if_pos hj, if_pos ⟨hindex, hj⟩]
    · rw [if_neg hj, if_neg fun h => hj h.2]
      exact ofLink_foldl_setLinkDomains hzero ..

theorem not_mem_keys_filter (list : List DnsDomain) : 0 ∉ keys (list.filter (·.ifindex ≠ 0)) := by
  rw [mem_keys, ofLink_filter_ne, if_pos rfl]
  exact fun h => h rfl

theorem not_mem_competing {linkDomains : List DnsDomain} (h : i ∉ keys linkDomains) :
    i ∉ competing linkDomains := fun hi => h (mem_of_mem_filter hi)

theorem dnsDomainsReceived_eq (list : List DnsDomain) (s : State) :
    (dnsDomainsReceived list s).ifindex = s.ifindex ∧
      (dnsDomainsReceived list s).linkDomains = list.filter (·.ifindex ≠ 0) ∧
      (dnsDomainsReceived list s).queries = s.queries := by
  unfold dnsDomainsReceived
  dsimp only
  rw [foldl_send]
  exact ⟨rfl, rfl, rfl⟩

theorem mem_sent_dnsDomainsReceived (hindex : s.ifindex ≠ 0)
    (h : m ∈ (dnsDomainsReceived list s).sent) : m ∈ s.sent ∨ m.ifindex ≠ 0 := by
  unfold dnsDomainsReceived at h
  dsimp only at h
  rw [foldl_send] at h
  rcases mem_append.mp h with h | h
  · refine (mem_append.mp h).imp_right fun h => ?_
    obtain ⟨i, hi, rfl⟩ := mem_map.mp h
    exact fun heq => not_mem_competing (not_mem_keys_filter list) (heq ▸ hi)
  · rw [mem_singleton.mp h]
    exact .inr hindex

/-- A link without domains keeps having none, except that of the tunnel. -/
theorem ofLink_dnsDomainsReceived (hindex : s.ifindex ≠ 0) (hi : i ≠ s.ifindex)
    (hkeys : i ∉ keys (list.filter (·.ifindex ≠ 0))) :
    ofLink i (dnsDomainsReceived list s).domains = ofLink i s.domains := by
  unfold dnsDomainsReceived
  dsimp only
  rw [foldl_send]
  show ofLink i (if s.ifindex = 0 then _ else setLink s.ifindex [root] _) = _
  rw [if_neg hindex, ofLink_setLink, if_neg hi, ofLink_foldl_setLinkDomains
    (not_mem_competing (not_mem_keys_filter list)), if_neg (not_mem_competing hkeys)]

/-! ## Runs -/

/-- An update comes after the last one was undone, for a link without domains. A reply comes while
an update is in force, or is an error. -/
def Orderly (s : State) : Event → Prop
  | .update index _ => s.ifindex = 0 ∧ (index ≠ 0 → ofLink index s.domains = [])
  | .restore => True
  | .reply _ error => error = true ∨ s.ifindex ≠ 0

/-- The domains that the links had at first can be put back. -/
structure Kept (before : List DnsDomain) (s : State) : Prop where
  zero : 0 ∉ keys s.linkDomains
  saved : ∀ i ∈ keys s.linkDomains, ofLink i s.linkDomains = ofLink i before
  others : ∀ i, i ∉ keys s.linkDomains → s.ifindex = 0 ∨ i ≠ s.ifindex →
    ofLink i s.domains = ofLink i before
  bare : s.ifindex ≠ 0 → ofLink s.ifindex before = []
  idle : s.ifindex = 0 → s.linkDomains = []
  queries : ∀ list ∈ s.queries, SameDomains list before
  sent : ∀ m ∈ s.sent, m.ifindex ≠ 0

variable {before : List DnsDomain}

theorem not_mem_keys_nil (i : ℕ) : i ∉ keys [] := not_mem_nil

/-- With no update in force the links have their domains. -/
theorem Kept.same (h : Kept before s) (hindex : s.ifindex = 0) : SameDomains s.domains before :=
  fun i => h.others i (h.idle hindex ▸ not_mem_keys_nil i) (.inl hindex)

theorem kept_init (domains : List DnsDomain) : Kept domains (State.init domains) where
  zero := not_mem_keys_nil 0
  saved i hi := absurd hi (not_mem_keys_nil i)
  others _ _ _ := rfl
  bare h := absurd rfl h
  idle _ := rfl
  queries _ h := nomatch h
  sent _ h := nomatch h

theorem Kept.restore (h : Kept before s) : Kept before (restoreResolvers s) := by
  obtain ⟨hindex, hsaved, hqueries⟩ := restoreResolvers_eq s
  refine ⟨hsaved ▸ not_mem_keys_nil 0, fun i hi => absurd hi (hsaved ▸ not_mem_keys_nil i),
    fun i _ _ => ?_, fun hne => absurd hindex hne, fun _ => hsaved, hqueries ▸ h.queries,
    fun m hm => (mem_sent_restoreResolvers h.zero hm).elim (h.sent m) id⟩
  rw [ofLink_restoreResolvers h.zero]
  by_cases hi : s.ifindex ≠ 0 ∧ i = s.ifindex
  · rw [if_pos hi, hi.2, h.bare hi.1]
  · rw [if_neg hi]
    by_cases hkeys : i ∈ keys s.linkDomains
    · rw [if_pos hkeys, h.saved i hkeys]
    · rw [if_neg hkeys]
      refine h.others i hkeys ?_
      rcases not_and_or.mp hi with hzero | hne
      · exact .inl (not_not.mp hzero)
      · exact .inr hne

theorem Kept.update (h : Kept before s) (hindex : s.ifindex = 0) {index : ℕ}
    (hbare : index ≠ 0 → ofLink index s.domains = []) (resolvers : List HostAddress) :
    Kept before (updateResolvers index resolvers s).2 := by
  unfold updateResolvers
  split
  · rename_i hzero
    exact { h with
      others := fun i hi _ => h.others i hi (.inl hindex)
      bare := fun hne => absurd hzero hne
      idle := fun _ => h.idle hindex }
  · rename_i hne
    exact { h with
      others := fun i hi _ => h.others i hi (.inl hindex)
      bare := fun _ => (h.same hindex index).symm.trans (hbare hne)
      idle := fun hzero => absurd hzero hne
      queries := fun list hlist => by
        rcases mem_append.mp hlist with hlist | hlist
        · exact h.queries list hlist
        · rw [mem_singleton.mp hlist]
          exact h.same hindex
      sent := fun m hm => by
        rcases mem_append.mp hm with hm | hm
        · rcases mem_append.mp hm with hm | hm
          · exact h.sent m hm
          · rw [mem_singleton.mp hm]
            exact hne
        · rw [mem_singleton.mp hm]
          exact hne }

/-- A reply with the domains the links had at first saves them. -/
theorem Kept.received (h : Kept before s) (hindex : s.ifindex ≠ 0)
    (hlist : SameDomains list before) : Kept before (dnsDomainsReceived list s) := by
  obtain ⟨hifindex, hsaved, hqueries⟩ := dnsDomainsReceived_eq list s
  have hkeys : ∀ i, i ∈ keys (list.filter (·.ifindex ≠ 0)) ↔ i ≠ 0 ∧ ofLink i before ≠ [] := by
    intro i
    rw [mem_keys, ofLink_filter_ne, hlist i]
    by_cases hi : i = 0 <;> simp [hi]
  refine ⟨hsaved ▸ not_mem_keys_filter list, fun i hi => ?_, fun i hi hne => ?_,
    hifindex ▸ h.bare, fun hzero => absurd (hifindex ▸ hzero) hindex, hqueries ▸ h.queries,
    fun m hm => (mem_sent_dnsDomainsReceived hindex hm).elim (h.sent m) id⟩
  · rw [hsaved] at hi ⊢
    rw [ofLink_filter_ne, if_neg ((hkeys i).mp hi).1, hlist i]
  · rw [hsaved] at hi
    rw [hifindex] at hne
    have hne := hne.resolve_left hindex
    rw [ofLink_dnsDomainsReceived hindex hne hi]
    -- what was saved before was saved from the same domains
    refine h.others i (fun hold => hi ((hkeys i).mpr ⟨?_, ?_⟩)) (.inr hne)
    · rintro rfl
      exact h.zero hold
    · rw [← h.saved i hold]
      exact mem_keys.mp hold

theorem kept_step (s : State) (e : Event) (horderly : Orderly s e) (h : Kept before s) :
    Kept before (step s e) := by
  cases e with
  | update index resolvers => exact h.update horderly.1 horderly.2 resolvers
  | restore => exact h.restore
  | reply k error =>
    cases hquery : s.queries[k]? with
    | none =>
      simp only [step, hquery]
      exact h
    | some list =>
      simp only [step, hquery]
      have herase : Kept before { s with queries := s.queries.eraseIdx k } :=
        { h with queries := fun list' hlist' => h.queries list' (mem_of_mem_eraseIdx hlist') }
      cases error with
      | true => exact herase
      | false =>
        have hindex := horderly.resolve_left Bool.false_ne_true
        exact herase.received hindex (h.queries list (mem_of_getElem? hquery))

/-- Replies do not change which update is in force. -/
theorem ifindex_run_replies (s : State) {es : List Event} (hes : ∀ e ∈ es, e.isReply = true) :
    (Trace.run step s es).ifindex = s.ifindex := by
  refine Trace.run_invariant_of_mem (fun (t : State) e he (ht : t.ifindex = s.ifindex) => ?_) rfl hes
  cases e with
  | update index resolvers => cases he
  | restore => cases he
  | reply k error =>
    simp only [step]
    split
    · exact ht
    · split
      · exact ht
      · exact (dnsDomainsReceived_eq ..).1.trans ht

/-- In an orderly run no message is ever about link 0, and after a restore, whatever replies come
then, every link has the domains it had at first. -/
theorem domains_restored {domains : List DnsDomain} {es : List Event}
    (horderly : Trace.Meets step Orderly (State.init domains) es) {reached : List Event}
    (hreached : reached <+: es) :
    (∀ m ∈ (Trace.run step (State.init domains) reached).sent, m.ifindex ≠ 0) ∧
      ∀ calls replies, reached = calls ++ .restore :: replies →
        (∀ e ∈ replies, e.isReply = true) →
        SameDomains (Trace.run step (State.init domains) reached).domains domains := by
  have hkept : Kept domains (Trace.run step (State.init domains) reached) :=
    horderly.invariant kept_step (kept_init domains) hreached
  refine ⟨hkept.sent, ?_⟩
  rintro calls replies rfl hreplies
  refine hkept.same ?_
  rw [Trace.run, foldl_append]
  exact (ifindex_run_replies _ hreplies).trans (restoreResolvers_eq _).1

/-- The reply comes before the restore. -/
theorem domains_restored_sample :
    SameDomains (Trace.run step (State.init [⟨root, 2⟩])
      [.update 7 [], .reply 0 false, .restore]).domains [⟨root, 2⟩] := by
  have horderly : Trace.Meets step Orderly (State.init [⟨root, 2⟩])
      [.update 7 [], .reply 0 false, .restore] :=
    ⟨⟨rfl, fun _ => by decide⟩, .inr (by decide), trivial, trivial⟩
  exact (domains_restored horderly (prefix_refl _)).2 [.update 7 [], .reply 0 false] [] rfl
    fun _ h => nomatch h

/-- The reply comes after the restore: link 2 loses its root domain, and link 0 is to get it. -/
theorem domains_lost :
    let s := Trace.run step (State.init [⟨root, 2⟩]) [.update 7 [], .restore, .reply 0 false]
    s.queries = [] ∧ ofLink 2 s.domains = [] ∧ .setLinkDomains 0 [root] ∈ s.sent := by
  decide

end DnsUtilsLinux

end Dopamine.Linux
