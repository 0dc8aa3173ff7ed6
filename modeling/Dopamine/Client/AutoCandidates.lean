import Dopamine.Client.CachedServers
import Dopamine.Client.Gateway
import Mathlib.Data.List.Sort
import Mathlib.Data.List.TakeWhile
import Mathlib.Data.Prod.Lex

/-!
# The candidates of the auto selection

`buildAutoCandidates` of `client/ui/controllers/connectionController.cpp` sorts the servers that may
be tried, and `pickAutoCandidate` takes the first one. The comparison is the order of a key
(`comesBefore_iff`).

Which rows may be tried and what counts of them is said on the servers: `eligible` and `rated`, with
the protocols in the order of `preferredProtocols`. The candidates are those rows, and the pick is
the row with the least key of those that are not offline (`pickAutoCandidate_optimal`).
-/

namespace Dopamine.Client

open List QJsonObject

/-- The latency is -1 for a server that is offline and -2 for one that was not probed. -/
structure AutoCandidate where
  row : ℕ
  tier : ℕ
  latency : ℤ
deriving DecidableEq

/-- What the controller takes from Qt, from the platform and from the settings, and the results of
the probes. -/
structure AutoEnv where
  kit : Toolkit
  platform : ModelPlatform
  serversEnvFilter : String
  healthResults : ℕ → Option ℤ

namespace AutoEnv

variable (env : AutoEnv)

variable (config : QJsonObject)

/-- `isVlessCdnRow`, for the config of the row. -/
def isVlessCdn : Bool :=
  match config.arrayAt "containers" with
  | [] => false
  | container :: _ =>
      let container := Json.toObject (some container)
      let root := env.kit.fromJson ((container.objectAt "xray").textAt "config")
      let root := if root.isEmpty then env.kit.fromJson (container.textAt "config") else root
      let outbound :=
        match root.arrayAt "outbounds" with
        | [] => root
        | outbound :: _ => Json.toObject (some outbound)
      let streamSettings := outbound.objectAt "streamSettings"
      streamSettings.textAt "security" = "tls" && streamSettings.textAt "network" = "xhttp"

/-- `ServiceProtocolRole`. -/
def serviceProtocol : String :=
  let protocol := (apiConfig config).textAt "service_protocol"
  env.kit.canonicalServiceProtocol
    (if protocol = "" then env.platform.toLower ((config.objectAt "displayInfo").textAt "protocol")
    else protocol)

def tierForRow : ℕ :=
  let filterProtocol := env.platform.toLower (serviceProtocolFilter env.platform config)
  if filterProtocol = "awg-mobile" ∨ filterProtocol = "amneziawgmobile" then 0
  else
    match env.serviceProtocol config with
    | "awg" => 1
    | "hysteria2" => 2
    | "wireguard" => 3
    | "vless" => if env.isVlessCdn config then 4 else 5
    | _ => 6

/-- The service protocols from the best one on; the flag is for a server behind a CDN. -/
def preferredProtocols : List (String × Bool) :=
  [("awg", false), ("hysteria2", false), ("wireguard", false), ("vless", true), ("vless", false)]

/-- The place of the server's protocol; AmneziaWG for mobile networks is before all others. -/
def preference : ℕ :=
  if env.platform.toLower (serviceProtocolFilter env.platform config) ∈
      ["awg-mobile", "amneziawgmobile"] then 0
  else
    let protocol := env.serviceProtocol config
    1 + preferredProtocols.idxOf (protocol, protocol = "vless" && env.isVlessCdn config)

theorem tierForRow_eq_preference :
    env.tierForRow config = env.preference config := by
  unfold tierForRow preference
  simp only [mem_cons, not_mem_nil, or_false]
  split
  · rfl
  split
  case _ h => rw [h]; rfl
  case _ h => rw [h]; rfl
  case _ h => rw [h]; rfl
  case _ h => rw [h]; cases env.isVlessCdn config <;> rfl
  case _ hawg hhysteria hwireguard hvless =>
    rw [idxOf_of_notMem (by simp only [preferredProtocols, mem_cons, Prod.mk.injEq]; tauto)]
    rfl

/-- The rows that may be tried: their environment passes the filter, and the platform supports their
container. -/
def eligible (m : ServersModel) : List ℕ :=
  (range m.servers.length).filter fun row =>
    env.serversEnvFilter ∈ ["", "all", connectionEnv (m.getServerConfig row)] ∧
      env.platform.isSupported
        (.containerFromString ((m.getServerConfig row).textAt "defaultContainer"))

/-- What counts of a row: its protocol and what its probe said. -/
def rated (m : ServersModel) (row : ℕ) : AutoCandidate :=
  ⟨row, env.preference (m.getServerConfig row), (env.healthResults row).getD (-2)⟩

/-- The candidate of a row, if the filter and the platform let it pass. -/
def candidate (row : ℕ) (config : QJsonObject) : Option AutoCandidate :=
  if env.serversEnvFilter ≠ "" ∧ env.serversEnvFilter ≠ "all" ∧
      connectionEnv config ≠ env.serversEnvFilter then none
  else if env.platform.isSupported (.containerFromString (config.textAt "defaultContainer")) then
    some ⟨row, env.tierForRow config, (env.healthResults row).getD (-2)⟩
  else none

end AutoEnv

namespace AutoCandidate

def latencyRank (latency : ℤ) : ℕ := if 0 ≤ latency then 0 else if latency = -2 then 1 else 2

/-- The comparison that the candidates are sorted with. -/
def comesBefore (a b : AutoCandidate) : Bool :=
  if a.tier ≠ b.tier then a.tier < b.tier
  else if latencyRank a.latency ≠ latencyRank b.latency then
    latencyRank a.latency < latencyRank b.latency
  else if 0 ≤ a.latency ∧ 0 ≤ b.latency ∧ a.latency ≠ b.latency then a.latency < b.latency
  else a.row < b.row

/-- Tier, class of the probe, latency if it answered, row. -/
def key (c : AutoCandidate) : ℕ ×ₗ ℕ ×ₗ ℤ ×ₗ ℕ :=
  toLex (c.tier, toLex (latencyRank c.latency, toLex (max c.latency 0, c.row)))

/-- The probe says that the server is fast (`kAutoAcceptLatencyMs`). -/
def isFast (c : AutoCandidate) : Bool := 0 ≤ c.latency && c.latency ≤ 80

theorem comesBefore_iff {a b : AutoCandidate} : comesBefore a b = true ↔ a.key < b.key := by
  simp only [comesBefore, key, latencyRank, Prod.Lex.toLex_lt_toLex]
  grind

theorem key_inj {a b : AutoCandidate} (ha : -2 ≤ a.latency) (hb : -2 ≤ b.latency)
    (h : a.key = b.key) : a = b := by
  obtain ⟨row, tier, latency⟩ := a
  obtain ⟨row', tier', latency'⟩ := b
  simp only [key, latencyRank, toLex_inj, Prod.mk.injEq] at h ha hb
  grind

/-- What is before a fast candidate of its tier is fast. -/
theorem isFast_of_le {a b : AutoCandidate} (h : a.key ≤ b.key) (htier : b.tier = a.tier)
    (hb : b.isFast = true) : a.isFast = true := by
  simp only [key, latencyRank, Prod.Lex.toLex_le_toLex, isFast, Bool.and_eq_true,
    decide_eq_true_eq] at h hb ⊢
  grind

end AutoCandidate

open AutoCandidate

/-- The order is total and strict on candidates, so every sort gives this list. -/
def AutoEnv.buildAutoCandidates (env : AutoEnv) (m : ServersModel) : List AutoCandidate :=
  ((range m.servers.length).filterMap fun row =>
    env.candidate row (m.getServerConfig row)).insertionSort fun a b => comesBefore b a = false

/-- The first fast one of the best tier, or else the first one that is not offline, or else the
first one. -/
def pickAutoCandidate (candidates : List AutoCandidate) : Option ℕ :=
  match candidates with
  | [] => none
  | first :: _ =>
      let best := candidates.takeWhile fun c => c.tier = first.tier
      some ((best.findIdx? isFast).getD ((candidates.findIdx? fun c => c.latency ≠ -1).getD 0))

section Pick

variable {env : AutoEnv} {m : ServersModel} {c : AutoCandidate} {l : List AutoCandidate}

theorem pairwise_buildAutoCandidates :
    (env.buildAutoCandidates m).Pairwise fun a b => a.key ≤ b.key := by
  have hle : ∀ a b, comesBefore b a = false ↔ a.key ≤ b.key := fun a b => by
    rw [← not_lt, ← comesBefore_iff, Bool.not_eq_true]
  have htotal : Std.Total fun a b => comesBefore b a = false :=
    ⟨fun a b => by rw [hle, hle]; exact le_total _ _⟩
  have htrans : IsTrans AutoCandidate fun a b => comesBefore b a = false :=
    ⟨fun a b c => by rw [hle, hle, hle]; exact le_trans⟩
  exact (pairwise_insertionSort _ _).imp fun {a b} h => (hle a b).mp h

/-- The candidates are the rows that may be tried. -/
theorem perm_buildAutoCandidates :
    (env.buildAutoCandidates m).Perm ((env.eligible m).map (env.rated m)) := by
  refine (perm_insertionSort _ _).trans (Perm.of_eq ?_)
  rw [AutoEnv.eligible, ← filterMap_eq_map, filterMap_filter]
  refine filterMap_congr fun row _ => ?_
  unfold AutoEnv.candidate AutoEnv.rated
  rw [env.tierForRow_eq_preference]
  simp only [mem_cons, not_mem_nil, or_false, decide_eq_true_eq, Function.comp_apply]
  split_ifs <;> grind

theorem latency_of_mem (hhealth : ∀ row, ∀ v ∈ env.healthResults row, -2 ≤ v)
    (hc : c ∈ env.buildAutoCandidates m) : -2 ≤ c.latency := by
  obtain ⟨row, -, rfl⟩ := mem_map.mp (perm_buildAutoCandidates.mem_iff.mp hc)
  unfold AutoEnv.rated
  cases hrow : env.healthResults row with
  | none => simp
  | some v => simpa using hhealth row v hrow

/-- In a sorted list a fast one of the best tier comes first, so both loops agree. -/
theorem pickAutoCandidate_eq (hl : l.Pairwise fun a b => a.key ≤ b.key) (hne : l ≠ []) :
    pickAutoCandidate l = some ((l.findIdx? fun c => c.latency ≠ -1).getD 0) := by
  cases l with
  | nil => exact absurd rfl hne
  | cons first rest =>
    simp only [pickAutoCandidate, Option.some.injEq]
    by_cases hfast : first.isFast = true
    · have honline : first.latency ≠ -1 := by
        simp only [isFast, Bool.and_eq_true, decide_eq_true_eq] at hfast
        omega
      simp [findIdx?_cons, hfast, honline]
    · rw [findIdx?_eq_none_iff.mpr, Option.getD_none]
      intro c hc
      have htier := mem_takeWhile_imp hc
      rcases mem_cons.mp ((takeWhile_sublist _).subset hc) with rfl | hrest
      · exact Bool.not_eq_true _ ▸ hfast
      · exact Bool.eq_false_iff.mpr fun h =>
          hfast (isFast_of_le (rel_of_pairwise_cons hl hrest) (by simpa using htier) h)

/-- The pick from the sorted candidates has the least key of those that are not offline. -/
theorem pick_least (hl : l.Pairwise fun a b => a.key ≤ b.key) (hne : l ≠ []) :
    ∃ pick c, pickAutoCandidate l = some pick ∧ l[pick]? = some c ∧
      ((∀ b ∈ l, b.latency = -1) → pick = 0) ∧
      ∀ b ∈ l, b.latency ≠ -1 → c.latency ≠ -1 ∧ c.key ≤ b.key := by
  rw [pickAutoCandidate_eq hl hne]
  cases hfind : l.findIdx? fun c => c.latency ≠ -1 with
  | none =>
    refine ⟨0, _, rfl, getElem?_eq_getElem (length_pos_iff.mpr hne), fun _ => rfl,
      fun b hb honline => ?_⟩
    exact absurd (findIdx?_eq_none_iff.mp hfind b hb) (by simpa using honline)
  | some pick =>
    obtain ⟨hlt, honline, hbefore⟩ := findIdx?_eq_some_iff_getElem.mp hfind
    refine ⟨pick, _, rfl, getElem?_eq_getElem hlt, fun hall => ?_, fun b hb hb' => ?_⟩
    · exact absurd (hall _ (getElem_mem hlt)) (by simpa using honline)
    obtain ⟨j, hj, rfl⟩ := getElem_of_mem hb
    refine ⟨by simpa using honline, ?_⟩
    rcases lt_trichotomy pick j with h | rfl | h
    · exact pairwise_iff_getElem.mp hl _ _ hlt hj h
    · exact le_rfl
    · exact absurd (hbefore j h) (by simpa using hb')

/-- **The pick is the best server that is not offline**, or the first candidate if all are. The
candidates are the rows that may be tried, and the comparison is a strict total order on them. -/
theorem pickAutoCandidate_optimal (hhealth : ∀ row, ∀ v ∈ env.healthResults row, -2 ≤ v)
    (hl : env.buildAutoCandidates m = l) :
    (∀ a, comesBefore a a = false) ∧
    (∀ a b c, comesBefore a b = true → comesBefore b c = true → comesBefore a c = true) ∧
    (∀ a ∈ l, ∀ b ∈ l, a = b ∨ comesBefore a b = true ∨ comesBefore b a = true) ∧
    l.Perm ((env.eligible m).map (env.rated m)) ∧
    (env.eligible m = [] → pickAutoCandidate l = none) ∧
    (env.eligible m ≠ [] → ∃ pick, ∃ row ∈ env.eligible m, pickAutoCandidate l = some pick ∧
      l[pick]? = some (env.rated m row) ∧
      ((∀ other ∈ env.eligible m, env.healthResults other = some (-1)) → pick = 0) ∧
      ∀ other ∈ env.eligible m, env.healthResults other ≠ some (-1) →
        env.healthResults row ≠ some (-1) ∧ (env.rated m row).key ≤ (env.rated m other).key ∧
        env.preference (m.getServerConfig row) ≤ env.preference (m.getServerConfig other)) := by
  subst hl
  have hperm := @perm_buildAutoCandidates env m
  refine ⟨fun a => ?_, fun a b c => ?_, fun a ha b hb => ?_, hperm, fun hnone => ?_, fun hne => ?_⟩
  · exact Bool.eq_false_iff.mpr fun h => lt_irrefl _ (comesBefore_iff.mp h)
  · rw [comesBefore_iff, comesBefore_iff, comesBefore_iff]
    exact lt_trans
  · rw [comesBefore_iff, comesBefore_iff]
    rcases lt_trichotomy a.key b.key with h | h | h
    · exact .inr (.inl h)
    · exact .inl (key_inj (latency_of_mem hhealth ha) (latency_of_mem hhealth hb) h)
    · exact .inr (.inr h)
  · rw [hnone] at hperm
    rw [hperm.eq_nil]
    rfl
  have hne' : env.buildAutoCandidates m ≠ [] := fun h =>
    hne (map_eq_nil_iff.mp (h ▸ hperm).symm.eq_nil)
  obtain ⟨pick, c, hpick, hc, hoffline, hleast⟩ := pick_least pairwise_buildAutoCandidates hne'
  obtain ⟨row, hrow, rfl⟩ := mem_map.mp (hperm.mem_iff.mp (mem_of_getElem? hc))
  have hlatency : ∀ row, (env.rated m row).latency = -1 ↔ env.healthResults row = some (-1) :=
    fun row => by cases h : env.healthResults row <;> simp [AutoEnv.rated, h]
  refine ⟨pick, row, hrow, hpick, hc, fun hall => hoffline fun b hb => ?_,
    fun other hother honline => ?_⟩
  · obtain ⟨other, hother, rfl⟩ := mem_map.mp (hperm.mem_iff.mp hb)
    exact (hlatency other).mpr (hall other hother)
  · obtain ⟨hrow', hle⟩ := hleast (env.rated m other)
      (hperm.mem_iff.mpr (mem_map_of_mem hother)) (mt (hlatency other).mp honline)
    exact ⟨mt (hlatency row).mpr hrow', hle, Prod.Lex.monotone_fst _ _ hle⟩

end Pick

/-- A server with WireGuard, and a slower one with AmneziaWG. -/
def tieredServers : ServersModel :=
  let server (protocol : String) := ofMembers
    [("api_config", .object [("service_protocol", .string protocol)])]
  .resetModel [server "wireguard", server "awg"] 0

def tieredEnv : AutoEnv :=
  ⟨.plain fun _ => empty, ⟨id, fun _ => true⟩, "all", fun row => some (10 * row)⟩

/-- The protocol is preferred to the speed. -/
theorem pickAutoCandidate_tiered : ∃ pick row,
    pickAutoCandidate (tieredEnv.buildAutoCandidates tieredServers) = some pick ∧
      (tieredEnv.buildAutoCandidates tieredServers)[pick]? =
        some (tieredEnv.rated tieredServers row) ∧
      tieredEnv.preference (tieredServers.getServerConfig row) ≤ 1 := by
  have hhealth : ∀ row, ∀ v ∈ tieredEnv.healthResults row, -2 ≤ v := by
    rintro row _ ⟨⟩
    omega
  obtain ⟨pick, row, -, hpick, hc, -, hbest⟩ :=
    (pickAutoCandidate_optimal (m := tieredServers) hhealth rfl).2.2.2.2.2 (by decide +kernel)
  exact ⟨pick, row, hpick, hc, (hbest 1 (by decide +kernel) (by decide)).2.2⟩

end Dopamine.Client
