import Dopamine.Net.Address
import Mathlib.Data.List.TakeWhile

/-!
# The resolvers of the macOS network services

`DnsUtilsMacos` of `client/platforms/macos/daemon/dnsutilsmacos.cpp`. Each network service of the
dynamic store may have a DNS dictionary. `updateResolvers` saves four entries of it, `DnsBackup`,
and puts one of its own in its place; `restoreResolvers` writes a dictionary from what was saved.

A `QString` that can be null is an `Option String`. Writing to the store succeeds; whether the list
of services can be read is up to the caller.

A service gets its dictionary back exactly when that holds nothing but the four entries, in the form
the backup can keep (`restored_backup_iff`).
-/

namespace Dopamine.Macos

open List Function

/-- An entry of an array of the store: a string, or some other value. -/
inductive Element where
  | string (s : String)
  | other (n : ℕ)
deriving DecidableEq

/-- A value of a dictionary of the store. -/
inductive Value where
  | string (s : String)
  | array (l : List Element)
  | other (n : ℕ)
deriving DecidableEq

/-- A dictionary of the store. -/
abbrev Dict := String → Option Value

namespace DnsUtilsMacos

/-- `kSCPropNetDNSDomainName`. -/
def domainName : String := "DomainName"
/-- `kSCPropNetDNSSearchDomains`. -/
def searchDomains : String := "SearchDomains"
/-- `kSCPropNetDNSServerAddresses`. -/
def serverAddresses : String := "ServerAddresses"
/-- `kSCPropNetDNSSortList`. -/
def sortList : String := "SortList"

/-- `cfParseString` of a string: the empty one is read as the null string. -/
def cfString (s : String) : Option String := if s = "" then none else some s

/-- `cfParseString` of an entry of an array. -/
def Element.parse : Element → Option String
  | .string s => cfString s
  | .other _ => none

def cfParseString : Value → Option String
  | .string s => cfString s
  | _ => none

def cfParseStringList : Value → List (Option String)
  | .array l => l.map Element.parse
  | _ => []

/-- The text of a C string: it ends at the first null character. -/
def cString (s : String) : String := String.ofList (s.toList.takeWhile (· ≠ '\x00'))

def cfDictSetString (name : String) (value : Option String) (dict : Dict) : Dict :=
  match value with
  | none => dict
  | some s => update dict name (some (.string (cString s)))

/-- A null string of the list becomes the empty one. -/
def cfDictSetStringList (name : String) (valueList : List (Option String)) (dict : Dict) : Dict :=
  if valueList.isEmpty then dict
  else update dict name
    (some (.array (valueList.map fun s => .string (cString (s.getD "")))))

end DnsUtilsMacos

/-- What is saved of a service. -/
structure DnsBackup where
  domain : Option String
  search : List (Option String)
  servers : List (Option String)
  sortlist : List (Option String)

namespace DnsBackup

open DnsUtilsMacos

def isValid (b : DnsBackup) : Bool :=
  b.domain.getD "" != "" || !b.search.isEmpty || !b.servers.isEmpty || !b.sortlist.isEmpty

/-- What `backupService` saves. -/
def ofConfig : Option Dict → DnsBackup
  | none => ⟨none, [], [], []⟩
  | some config =>
      { domain := (config domainName).bind cfParseString
        servers := (config serverAddresses).elim [] cfParseStringList
        search := (config searchDomains).elim [] cfParseStringList
        sortlist := (config sortList).elim [] cfParseStringList }

/-- What `restoreResolvers` leaves of a service. -/
def restored (b : DnsBackup) : Option Dict :=
  if b.isValid then
    some (cfDictSetStringList sortList b.sortlist
      (cfDictSetStringList serverAddresses b.servers
        (cfDictSetStringList searchDomains b.search
          (cfDictSetString domainName b.domain fun _ => none))))
  else none

end DnsBackup

/-- The dynamic store and the backups. -/
structure DnsState where
  /-- the network services of the host -/
  services : List String
  /-- the DNS dictionary of each service -/
  store : String → Option Dict
  prevServices : String → Option DnsBackup

namespace DnsUtilsMacos

/-- The dictionary `updateResolvers` writes. -/
def dnsConfig (q : Platform) (resolvers : List HostAddress) : Dict :=
  cfDictSetString domainName (some "lan")
    (cfDictSetStringList serverAddresses (resolvers.map fun addr => some (addr.toString q))
      fun _ => none)

/-- Back up a service and give it our resolvers. -/
def setService (config : Dict) (st : DnsState) (uuid : String) : DnsState :=
  if uuid = "" then st
  else
    { st with
      prevServices :=
        update st.prevServices uuid (some (DnsBackup.ofConfig (st.store uuid)))
      store := update st.store uuid (some config) }

/-- `updateResolvers`, once the services are known. -/
def updateResolvers (q : Platform) (resolvers : List HostAddress) (st : DnsState) : DnsState :=
  st.services.foldl (setService (dnsConfig q resolvers)) st

def restoreResolvers (st : DnsState) : DnsState :=
  { st with
    store := fun uuid =>
      match st.prevServices uuid with
      | some backup => backup.restored
      | none => st.store uuid
    prevServices := fun _ => none }

/-! ## One round of backup and restore -/

section

variable {config : Dict} {st : DnsState}

@[simp]
theorem setService_services (uuid : String) :
    (setService config st uuid).services = st.services := by
  unfold setService
  split <;> rfl

@[simp]
theorem updateResolvers_services (q : Platform) (resolvers : List HostAddress) :
    (updateResolvers q resolvers st).services = st.services := by
  have h : ∀ (l : List String) (st : DnsState),
      (l.foldl (setService (dnsConfig q resolvers)) st).services = st.services := by
    intro l
    induction l with
    | nil => exact fun _ => rfl
    | cons uuid l ih => exact fun st => (ih _).trans (setService_services uuid)
  exact h st.services st

/-- Services that are listed once are backed up once, before they are changed. -/
theorem foldl_setService {l : List String} (hl : l.Nodup) (u : String) :
    (l.foldl (setService config) st).store u =
        (if u ∈ l ∧ u ≠ "" then some config else st.store u) ∧
      (l.foldl (setService config) st).prevServices u =
        if u ∈ l ∧ u ≠ "" then some (DnsBackup.ofConfig (st.store u)) else st.prevServices u := by
  induction l generalizing st with
  | nil => exact ⟨rfl, rfl⟩
  | cons uuid l ih =>
    obtain ⟨hnot, hl⟩ := nodup_cons.mp hl
    obtain ⟨hstore, hprev⟩ :
        (l.foldl (setService config) (setService config st uuid)).store u = _ ∧
          (l.foldl (setService config) (setService config st uuid)).prevServices u = _ := ih hl
    rw [foldl_cons, hstore, hprev]
    unfold setService
    by_cases huuid : uuid = ""
    · -- a service without a name is left out
      rw [if_pos huuid]
      have hiff : u ∈ l ∧ u ≠ "" ↔ u ∈ uuid :: l ∧ u ≠ "" := by
        refine and_congr_left fun hu => ?_
        rw [mem_cons, or_iff_right]
        rintro rfl
        exact hu huuid
      exact ⟨if_congr hiff rfl rfl, if_congr hiff rfl rfl⟩
    rw [if_neg huuid]
    by_cases hu : u = uuid
    · subst hu
      have hout : ¬(u ∈ l ∧ u ≠ "") := fun h => hnot h.1
      have hin : u ∈ u :: l ∧ u ≠ "" := ⟨mem_cons_self, huuid⟩
      rw [if_neg hout, if_neg hout, if_pos hin, if_pos hin]
      exact ⟨update_self .., update_self ..⟩
    · have hiff : u ∈ l ∧ u ≠ "" ↔ u ∈ uuid :: l ∧ u ≠ "" := by
        rw [mem_cons, or_iff_right hu]
      dsimp only
      rw [update_of_ne hu, update_of_ne hu]
      exact ⟨if_congr hiff rfl rfl, if_congr hiff rfl rfl⟩

end

/-! ## Which dictionaries come back -/

/-- A dictionary the backup can keep: the four entries only and at least one of them, strings and
lists of strings that are not empty, without null characters. -/
structure Plain (dict : Dict) : Prop where
  known : ∀ name, dict name ≠ none →
    name = domainName ∨ name = searchDomains ∨ name = serverAddresses ∨ name = sortList
  some_entry : ∃ name, dict name ≠ none
  domain : ∀ v, dict domainName = some v → ∃ s, v = .string s ∧ s ≠ "" ∧ cString s = s
  lists : ∀ name, name = searchDomains ∨ name = serverAddresses ∨ name = sortList →
    ∀ v, dict name = some v →
      ∃ l, v = .array (l.map .string) ∧ l ≠ [] ∧ ∀ s ∈ l, cString s = s

variable (s : String) (v : Option Value) (dict : Dict)

theorem cString_cString : cString (cString s) = cString s := by
  unfold cString
  rw [String.toList_ofList, takeWhile_idem]

/-- The text of the empty string is empty, so a null string and the empty one are written alike. -/
theorem cString_getD_cfString : cString ((cfString s).getD "") = cString s := by
  unfold cfString
  split
  · next h => rw [h]; rfl
  · rfl

/-- The entry written for a list that was read. -/
def rewriteList (v : Option Value) : Option Value :=
  let l := v.elim [] cfParseStringList
  if l.isEmpty then none else some (.array (l.map fun s => .string (cString (s.getD ""))))

/-- The entry written for a string that was read. -/
def rewriteString (v : Option Value) : Option Value :=
  (v.bind cfParseString).map fun s => .string (cString s)

/-- A list comes back exactly when it is missing or a list of strings that is not empty. -/
theorem rewriteList_eq_iff :
    rewriteList v = v ↔
      ∀ w, v = some w → ∃ l, w = .array (l.map .string) ∧ l ≠ [] ∧ ∀ s ∈ l, cString s = s := by
  cases v with
  | none => exact ⟨fun _ _ h => (nomatch h), fun _ => rfl⟩
  | some w =>
    simp only [Option.some.injEq, forall_eq']
    show (if (cfParseStringList w).isEmpty then none
      else some (.array ((cfParseStringList w).map fun s => .string (cString (s.getD ""))))) =
        some w ↔ _
    constructor
    · intro h
      split at h
      · cases h
      · next hne =>
        -- what was written is a list of strings, each of which ends at its null character
        refine ⟨(cfParseStringList w).map fun s => cString (s.getD ""), ?_, ?_, ?_⟩
        · rw [map_map]
          exact (Option.some.inj h).symm
        · exact fun hnil => hne (isEmpty_iff.mpr (map_eq_nil_iff.mp hnil))
        · intro s hs
          obtain ⟨s', -, rfl⟩ := mem_map.mp hs
          exact cString_cString _
    · rintro ⟨l, rfl, hne, htext⟩
      have hparse : cfParseStringList (.array (l.map .string)) = l.map cfString :=
        map_map
      rw [hparse, if_neg fun h => hne (map_eq_nil_iff.mp (isEmpty_iff.mp h)),
        map_map]
      refine congrArg (fun l => some (Value.array l)) (map_congr_left fun s hs => ?_)
      show Element.string (cString ((cfString s).getD "")) = Element.string s
      rw [cString_getD_cfString, htext s hs]

/-- A string comes back exactly when it is missing or not empty. -/
theorem rewriteString_eq_iff :
    rewriteString v = v ↔ ∀ w, v = some w → ∃ s, w = .string s ∧ s ≠ "" ∧ cString s = s := by
  cases v with
  | none => exact ⟨fun _ _ h => (nomatch h), fun _ => rfl⟩
  | some w =>
    simp only [Option.some.injEq, forall_eq']
    cases w with
    | string s =>
      show (cfString s).map _ = _ ↔ _
      unfold cfString
      split
      · next hs => exact ⟨fun h => (nomatch h), fun ⟨s', h, hne, _⟩ =>
          absurd (Value.string.inj h ▸ hs) hne⟩
      · next hs =>
        constructor
        · exact fun h => ⟨s, rfl, hs, Value.string.inj (Option.some.inj h)⟩
        · rintro ⟨s', h, -, htext⟩
          rw [Value.string.inj h]
          exact congrArg (fun s => some (Value.string s)) htext
    | array l | other n =>
      exact ⟨fun h => (nomatch h), fun ⟨_, h, _⟩ => Value.noConfusion h⟩

section

variable {name k : String} {dict : Dict} (value : Option String) (l : List (Option String))

theorem cfDictSetString_self (h : dict name = none) :
    cfDictSetString name value dict name = value.map fun s => .string (cString s) := by
  cases value with
  | none => exact h
  | some s => exact update_self ..

theorem cfDictSetString_of_ne (h : k ≠ name) : cfDictSetString name value dict k = dict k := by
  cases value with
  | none => rfl
  | some s => exact update_of_ne h ..

theorem cfDictSetStringList_self (h : dict name = none) :
    cfDictSetStringList name l dict name =
      if l.isEmpty then none else some (.array (l.map fun s => .string (cString (s.getD "")))) := by
  unfold cfDictSetStringList
  split
  · exact h
  · exact update_self ..

theorem cfDictSetStringList_of_ne (h : k ≠ name) : cfDictSetStringList name l dict k = dict k := by
  unfold cfDictSetStringList
  split
  · rfl
  · exact update_of_ne h ..

end

/-- The dictionary written for one that was read. -/
def rewritten (dict : Dict) : Dict := fun name =>
  if name = domainName then rewriteString (dict domainName)
  else if name = searchDomains ∨ name = serverAddresses ∨ name = sortList then
    rewriteList (dict name)
  else none

/-- The backup is valid when something is written for it. -/
theorem isValid_iff :
    (DnsBackup.ofConfig (some dict)).isValid = true ↔ ∃ name, rewritten dict name ≠ none := by
  have hstring : ∀ v : Option Value,
      (v.bind cfParseString).getD "" ≠ "" ↔ rewriteString v ≠ none := by
    intro v
    unfold rewriteString
    rw [Ne, Ne, Option.map_eq_none_iff, not_iff_not]
    cases v with
    | none => exact ⟨fun _ => rfl, fun _ => rfl⟩
    | some w =>
      cases w with
      | string s =>
        show (cfString s).getD "" = "" ↔ cfString s = none
        unfold cfString
        split
        · exact ⟨fun _ => rfl, fun _ => rfl⟩
        · next hs => exact ⟨fun h => absurd h hs, fun h => nomatch h⟩
      | array l | other n => exact ⟨fun _ => rfl, fun _ => rfl⟩
  have hlist : ∀ v : Option Value,
      (v.elim [] cfParseStringList).isEmpty = false ↔ rewriteList v ≠ none := by
    intro v
    unfold rewriteList
    dsimp only
    split
    · next h => exact ⟨fun h' => absurd h (Bool.eq_false_iff.mp h'), fun h' => absurd rfl h'⟩
    · next h => exact ⟨fun _ h' => (nomatch h'),
        fun _ => Bool.eq_false_iff.mpr h⟩
  have hvalid : (DnsBackup.ofConfig (some dict)).isValid = true ↔
      rewriteString (dict domainName) ≠ none ∨ rewriteList (dict searchDomains) ≠ none ∨
        rewriteList (dict serverAddresses) ≠ none ∨ rewriteList (dict sortList) ≠ none := by
    rw [← hstring, ← hlist, ← hlist, ← hlist]
    simp [DnsBackup.isValid, DnsBackup.ofConfig, or_assoc]
  rw [hvalid]
  unfold rewritten
  constructor
  · rintro (h | h | h | h)
    · exact ⟨domainName, h⟩
    · exact ⟨searchDomains, h⟩
    · exact ⟨serverAddresses, h⟩
    · exact ⟨sortList, h⟩
  · rintro ⟨name, h⟩
    split at h
    · exact .inl h
    split at h
    · next hname =>
      rcases hname with rfl | rfl | rfl
      · exact .inr (.inl h)
      · exact .inr (.inr (.inl h))
      · exact .inr (.inr (.inr h))
    · exact absurd rfl h

theorem restored_ofConfig :
    (DnsBackup.ofConfig (some dict)).restored =
      if (DnsBackup.ofConfig (some dict)).isValid then some (rewritten dict) else none := by
  refine if_congr Iff.rfl (congrArg some (funext fun name => ?_)) rfl
  unfold rewritten
  by_cases h1 : name = sortList
  · subst h1
    rw [cfDictSetStringList_self _ (by
      rw [cfDictSetStringList_of_ne _ (by decide), cfDictSetStringList_of_ne _ (by decide),
        cfDictSetString_of_ne _ (by decide)])]
    rfl
  rw [cfDictSetStringList_of_ne _ h1]
  by_cases h2 : name = serverAddresses
  · subst h2
    rw [cfDictSetStringList_self _ (by
      rw [cfDictSetStringList_of_ne _ (by decide), cfDictSetString_of_ne _ (by decide)])]
    rfl
  rw [cfDictSetStringList_of_ne _ h2]
  by_cases h3 : name = searchDomains
  · subst h3
    rw [cfDictSetStringList_self _ (by rw [cfDictSetString_of_ne _ (by decide)])]
    rfl
  rw [cfDictSetStringList_of_ne _ h3]
  by_cases h4 : name = domainName
  · subst h4
    rw [cfDictSetString_self _ rfl, if_pos rfl]
    rfl
  rw [cfDictSetString_of_ne _ h4, if_neg h4, if_neg (by rintro (h | h | h) <;> contradiction)]

/-- A dictionary comes back exactly when the backup can keep it. -/
theorem restored_backup_iff :
    (DnsBackup.ofConfig (some dict)).restored = some dict ↔ Plain dict := by
  rw [restored_ofConfig]
  constructor
  · intro h
    split at h
    · next hvalid =>
      have heq : rewritten dict = dict := Option.some.inj h
      obtain ⟨name, hname⟩ := (isValid_iff dict).mp hvalid
      refine ⟨fun k hk => ?_, ⟨name, heq ▸ hname⟩, ?_, ?_⟩
      · rw [← heq] at hk
        unfold rewritten at hk
        split at hk
        · exact .inl ‹_›
        split at hk
        · exact .inr ‹_›
        · exact absurd rfl hk
      · exact (rewriteString_eq_iff _).mp (congrFun heq domainName)
      · rintro k (rfl | rfl | rfl)
        · exact (rewriteList_eq_iff _).mp (congrFun heq searchDomains)
        · exact (rewriteList_eq_iff _).mp (congrFun heq serverAddresses)
        · exact (rewriteList_eq_iff _).mp (congrFun heq sortList)
    · cases h
  · intro h
    have heq : rewritten dict = dict := by
      funext name
      unfold rewritten
      split
      · next hname =>
        rw [hname]
        exact (rewriteString_eq_iff _).mpr h.domain
      split
      · next hname => exact (rewriteList_eq_iff _).mpr (h.lists name hname)
      · next hdomain hlists =>
        by_contra hne
        rcases h.known name (Ne.symm hne) with hname | hname
        · exact hdomain hname
        · exact hlists hname
    rw [if_pos ((isValid_iff dict).mpr (heq.symm ▸ h.some_entry)), heq]

end DnsUtilsMacos

end Dopamine.Macos
