import Dopamine.Client.Controller

/-!
# The selected server after a reload

A reload captures the connection and the node of the default server when it begins. When it is done
it selects the first server that has them, or the first server of the list. A `Selection` observes
which server the user selected last, also while a reload runs, and what the default server was when
the reload began.

The last feed takes servers off the list and adds new ones at its end; the others keep their order,
connections and nodes (`reconciled_lists`). So `SelectedFirst` says on the list before that feed
whether the selection is kept.
-/

namespace Dopamine.Client.Controller

open QJsonObject List Option

/-- The connection and the node by which a server is found again. -/
def nodeOf (config : QJsonObject) : String × String := (connectionUuid config, nodeId config)

/-- The part of the triple of a server. -/
def toNode (id : ServerId) : String × String := (id.connectionUuid, id.nodeId)

/-- The default server, by its tag. -/
def defaultTag (m : ServersModel) : Option ℕ :=
  if m.defaultServerIndex < 0 then none else m.servers[m.defaultServerIndex.toNat]?.map Row.tag

/-- The connection and the node of the default server, empty if there is none. -/
def defaultNode (m : ServersModel) : String × String :=
  if m.defaultServerIndex < 0 then ("", "")
  else (m.servers[m.defaultServerIndex.toNat]?.map fun r => nodeOf r.config).getD ("", "")

/-- What the running reload captured. -/
def captured (s : Controller) : Option (String × String) :=
  s.reload.map fun r => (r.prevConnectionUuid, r.prevNodeId)

/-- What is observed of the selection. -/
structure Selection where
  /-- the tag of the server that the user selected last -/
  tag : Option ℕ
  /-- the connection and the node of the default server when the running reload began -/
  began : String × String

/-- At first the default server is the selected one. -/
def Selection.start (s : Controller) : Selection where
  tag := defaultTag s.model
  began := s.captured.getD (defaultNode s.model)

/-- The default server counts until a reload begins. -/
def observeSelection (s : Controller) (e : Event) (x : Selection) : Selection where
  tag :=
    match e with
    | .select row => (s.model.servers[row]?.map Row.tag).or x.tag
    | _ => x.tag
  began := if s.captured.isNone then defaultNode s.model else x.began

/-- A run with what is observed of the selection. -/
def runSelected (s : Controller) (kit : Toolkit) (events : List Event) : Controller × Selection :=
  Trace.run (Trace.watch (fun s e => s.step kit e) observeSelection) (s, .start s) events

/-- If an event ends a reload, a selected server that is still there is the default one. -/
def KeepsSelection (kit : Toolkit) (p : Controller × Selection) (e : Event) : Prop :=
  ∀ r feed, p.1.delivered kit e = some (r, feed) → r.remaining = [] →
    ∀ q ∈ p.1.model.servers, p.2.tag = some q.tag →
      q.tag ∈ (p.1.step kit e).model.servers.map Row.tag →
      defaultTag (p.1.step kit e).model = some q.tag

/-- The feed of a reload takes the server off the list. -/
def dropped (r : Reload) (feed : Feed) (q : Row) : Bool :=
  feed.success && isGone r.subscriptionId (feed.configs.map serverKey) feed.failures q.config

/-- Among the servers that are not dropped, the server is the first one with the connection and the
node of the server that was the default one when the reload began. Or no server will have them, or
there was no connection, and it is the first one of all. -/
def IsFirst (p : Controller × Selection) (r : Reload) (feed : Feed) (before : List Row) (q : Row) :
    Prop :=
  (p.2.began.1 ≠ "" ∧ nodeOf q.config = p.2.began ∧
    ∀ q' ∈ before, nodeOf q'.config = p.2.began → dropped r feed q' = true) ∨
  ((p.2.began.1 = "" ∨
      (∀ q' ∈ p.1.model.servers, nodeOf q'.config = p.2.began →
        dropped r feed q' = true) ∧
      (feed.success = true → ∀ config ∈ feed.configs, nodeOf config ≠ p.2.began)) ∧
    ∀ q' ∈ before, dropped r feed q' = true)

/-- If an event ends a reload, a selected server that its feed does not drop is the first one. -/
def SelectedFirst (kit : Toolkit) (p : Controller × Selection) (e : Event) : Prop :=
  ∀ r feed, p.1.delivered kit e = some (r, feed) → r.remaining = [] →
    ∀ before q after, p.1.model.servers = before ++ q :: after → p.2.tag = some q.tag →
      dropped r feed q = false → IsFirst p r feed before q

variable {s : Controller} {kit : Toolkit} {e : Event} {r : Reload} {feed : Feed}

/-! ## The list after the last feed -/

theorem nodeOf_setDisplayIndex (config : QJsonObject) (n : ℕ) :
    nodeOf (setDisplayIndex config n) = nodeOf config := by
  have hid := serverId_setDisplayIndex config n
  rw [serverId, serverId, ServerId.mk.injEq] at hid
  exact Prod.ext hid.2.1 hid.2.2

theorem nodeOf_configToInstall (config : QJsonObject) :
    nodeOf (configToInstall config) = nodeOf config := by
  simp [nodeOf, connectionUuid, nodeId, apiConfig, configToInstall, installedApiConfig, objectAt,
    textAt, value_insert]

/-- The connections and nodes of a list. -/
def nodes (rows : List Row) : List (String × String) := rows.map fun q => nodeOf q.config

/-- The servers that a feed does not drop. -/
def keptBy (s : Controller) (r : Reload) (feed : Feed) : List Row :=
  s.model.servers.filter fun q => !dropped r feed q

/-- The servers that are not dropped stand first, and the others are new. Every config of the feed
that has a connection is for one of them. -/
theorem reconciled_lists (h : s.delivered kit e = some (r, feed)) : ∃ n new,
    (s.reconciled kit r feed).servers.map Row.tag =
      (s.keptBy r feed).map Row.tag ++ range' s.model.nextTag n ∧
    nodes (s.reconciled kit r feed).servers = nodes (s.keptBy r feed) ++ new ∧
    ∀ node : String × String, node.1 ≠ "" → (node ∈ nodes (s.keptBy r feed) ++ new ↔
      node ∈ nodes (s.keptBy r feed) ∨
        feed.success = true ∧ ∃ config ∈ feed.configs, nodeOf config = node) := by
  rw [reconciled, keptBy]
  cases hsuccess : feed.success with
  | false => exact ⟨0, [], by simp [dropped, hsuccess], by simp [dropped, hsuccess], by simp⟩
  | true =>
    have hkept : s.model.servers.filter (fun q => !dropped r feed q) =
        s.model.keptRows r.subscriptionId (feed.configs.map serverKey) feed.failures := by
      simp only [dropped, hsuccess, Bool.true_and]
      rfl
    have hcomplete : ∀ c ∈ kit.applyDisplayIndexAndSort feed.configs, Complete c := by
      obtain ⟨-, servers, services, answers, rfl⟩ := delivered_eq_some h
      exact complete_of_mem_finalized kit fun c hc => complete_of_mem_feed hc
    obtain ⟨n, htags, -⟩ := s.model.tags_reconcile kit r.subscriptionId feed.configs feed.failures
    obtain ⟨new, hkeys, hnew, hitems⟩ := Keyed.Scheme.keys_run installScheme_keeps
      (t := ⟨s.model.keptRows r.subscriptionId (feed.configs.map serverKey) feed.failures,
        s.model.nextTag⟩) fun c hc _ => (hcomplete c hc).installable
    rw [← ServersModel.reconcile_servers] at hkeys
    -- the node of a server is a part of its key
    have hnodes : ∀ rows : List Row, nodes rows = (rows.map installScheme.key).map toNode :=
      fun rows => by rw [List.map_map]; rfl
    rw [if_pos rfl, hkept]
    refine ⟨n, new.map toNode, htags, ?_, fun node hnode => ⟨fun h => ?_, ?_⟩⟩
    · rw [hnodes, hkeys, map_append, ← hnodes]
    · refine (mem_append.mp h).imp_right fun h => ⟨rfl, ?_⟩
      obtain ⟨id, hid, rfl⟩ := mem_map.mp h
      obtain ⟨c', hc', k, rfl⟩ := hnew id hid
      obtain ⟨c, hc, i, rfl⟩ := Toolkit.exists_of_mem_applyDisplayIndexAndSort hc'
      exact ⟨c, hc, (nodeOf_setDisplayIndex c i).symm.trans (nodeOf_configToInstall _).symm⟩
    · rintro (hold | ⟨-, c, hc, rfl⟩)
      · exact mem_append_left _ hold
      · obtain ⟨i, hi⟩ := kit.exists_mem_applyDisplayIndexAndSort hc
        rw [← nodeOf_setDisplayIndex c i] at hnode ⊢
        rw [hnodes, ← map_append]
        exact mem_map_of_mem (f := toNode) (hitems _ hi _ (installScheme_keyOf hnode))

/-- The row that is restored, by the connections and nodes of the list. -/
theorem restoredIndex_eq_some_iff {m : ServersModel} {before after : List (String × String)}
    {own node : String × String} (h : nodes m.servers = before ++ own :: after) :
    restoredIndex m node.1 node.2 = some before.length ↔
      (node.1 ≠ "" ∧ own = node ∧ node ∉ before) ∨
      ((node.1 = "" ∨ node ∉ nodes m.servers) ∧ before = []) := by
  have hne : m.servers ≠ [] := fun hnil => by
    rw [hnil] at h
    exact append_ne_nil_of_right_ne_nil _ (cons_ne_nil _ _) h.symm
  have hfind : (m.servers.findIdx? fun r =>
      connectionUuid r.config = node.1 && nodeId r.config = node.2) =
        (nodes m.servers).findIdx? (· = node) := by
    rw [nodes, findIdx?_map]
    refine congrArg (findIdx? · m.servers) (funext fun q => ?_)
    simp [nodeOf, Prod.ext_iff]
  have hzero : some 0 = some before.length ↔ before = [] := by
    rw [some.injEq, eq_comm, length_eq_zero_iff]
  have hfound : (nodes m.servers).findIdx? (· = node) = some before.length ↔
      own = node ∧ node ∉ before := by
    rw [h, findIdx?_eq_some_iff_getElem]
    constructor
    · rintro ⟨_, hown, hfirst⟩
      refine ⟨by simpa using hown, fun hmem => ?_⟩
      obtain ⟨j, hj, hget⟩ := getElem_of_mem hmem
      exact hfirst j hj (by simpa [hj] using hget)
    · rintro ⟨hown, hfirst⟩
      refine ⟨by simp, by simpa using hown, fun j hj hnode => hfirst ?_⟩
      rw [decide_eq_true_iff, getElem_append_left hj] at hnode
      exact hnode ▸ getElem_mem hj
  rw [restoredIndex, if_neg hne, hfind]
  by_cases huuid : node.1 = ""
  · simp [huuid, hzero]
  rw [if_neg huuid, ← hfound]
  cases hindex : (nodes m.servers).findIdx? (· = node) with
  | none =>
    have hnot : node ∉ nodes m.servers := fun hmem =>
      of_decide_eq_false (findIdx?_eq_none_iff.mp hindex node hmem) rfl
    simp [huuid, hnot, hzero]
  | some i =>
    have hmem : node ∈ nodes m.servers := by
      obtain ⟨hi, hget, -⟩ := findIdx?_eq_some_iff_getElem.mp hindex
      exact of_decide_eq_true hget ▸ getElem_mem hi
    simp [huuid, hmem]

/-- The default server after a reload. -/
theorem defaultTag_restoreDefault {m : ServersModel} (h : m.servers ≠ []) (uuid node : String) :
    ∃ i, restoredIndex m uuid node = some i ∧
      defaultTag (restoreDefault m uuid node) = (m.servers.map Row.tag)[i]? := by
  have hsome : (restoredIndex m uuid node).isSome = true := by
    rw [restoredIndex, if_neg h]
    cases if uuid = "" then none else m.servers.findIdx? _ <;> rfl
  obtain ⟨i, hi⟩ := isSome_iff_exists.mp hsome
  refine ⟨i, hi, ?_⟩
  have hrestore : restoreDefault m uuid node = m.setDefaultServerIndex i := by
    rw [restoreDefault, hi]
  rw [hrestore, defaultTag, getElem?_map]
  show (if (i : ℤ) < 0 then none else m.servers[(i : ℤ).toNat]?.map Row.tag) = _
  rw [if_neg (not_lt.mpr (Int.natCast_nonneg i)), Int.toNat_natCast]

/-! ## What is observed -/

/-- What a running reload captured is what the default server was when it began. -/
def Observes (p : Controller × Selection) : Prop :=
  ∀ node, p.1.captured = some node → node = p.2.began

/-- A reload that is asked for begins, unless one runs or there is no subscription. -/
theorem captured_reload (s : Controller) : s.reloadSubscriptionConfigs.captured = s.captured ∨
    s.captured = none ∧ s.reloadSubscriptionConfigs.captured = some (defaultNode s.model) := by
  rw [reloadSubscriptionConfigs]
  split
  · next hreload _ =>
    refine .inr ⟨by rw [captured, hreload, map_none], ?_⟩
    rw [captured, map_some, defaultNode]
    split_ifs
    · rfl
    · rw [ServersModel.getServerConfig]
      cases s.model.servers[s.model.defaultServerIndex.toNat]? <;> rfl
  · exact .inl rfl

theorem captured_feedDone (h : s.delivered kit e = some (r, feed)) :
    (s.feedDone kit r feed).captured = none ∨ (s.feedDone kit r feed).captured = s.captured := by
  simp only [feedDone]
  split
  · rw [captured, captured, (delivered_eq_some h).1]
    exact .inr rfl
  · exact .inl rfl

/-- A step ends a reload, lets it go on with what it captured, or begins one. -/
theorem captured_step (s : Controller) (kit : Toolkit) (e : Event) :
    ((s.step kit e).captured = none ∨ (s.step kit e).captured = s.captured) ∨
      s.captured = none ∧ (s.step kit e).captured = some (defaultNode s.model) := by
  cases hfeed : s.delivered kit e with
  | some p => exact .inl (step_of_delivered hfeed ▸ captured_feedDone hfeed)
  | none =>
    cases e with
    | reload => exact s.captured_reload.imp_left .inr
    | services response =>
      refine .inl (.inr ?_)
      simp only [step, hfeed, openFeed]
      split
      · next r body hreload =>
        split
        · rw [captured, captured, hreload]
          rfl
        · rfl
      · rfl
    | configs answers => simp only [step, hfeed, or_true, true_or]
    | catalog reply =>
      simp only [step, catalogReply]
      split_ifs
      all_goals first | exact .inl (.inr rfl) | exact (captured_reload _).imp_left .inr
    | respond | poll | select | remove =>
      simp only [step, finishUpdate, checkCatalogVersion]
      split <;> exact .inl (.inr rfl)
    | _ => exact .inl (.inr rfl)

theorem observes_step (p : Controller × Selection) (e : Event) (h : Observes p) :
    Observes (Trace.watch (fun s e => s.step kit e) observeSelection p e) := by
  intro node hnode
  show _ = if p.1.captured.isNone then defaultNode p.1.model else p.2.began
  replace hnode : (p.1.step kit e).captured = some node := hnode
  rcases p.1.captured_step kit e with (hnone | hsame) | ⟨hidle, hbegan⟩
  · cases hnone.symm.trans hnode
  · have hold := hsame.symm.trans hnode
    rw [hold, h node hold]
    rfl
  · rw [hidle, some.inj (hnode.symm.trans hbegan)]
    rfl

theorem observes_run (s : Controller) (kit : Toolkit) (events : List Event) :
    Observes (s.runSelected kit events) := by
  refine Trace.run_invariant observes_step (fun node hnode => ?_) events
  show _ = s.captured.getD _
  rw [show s.captured = some node from hnode]
  rfl

/-! ## Runs -/

theorem keepsSelection_iff_selectedFirst {p : Controller × Selection} (h : Observes p) (e : Event) :
    KeepsSelection kit p e ↔ SelectedFirst kit p e := by
  refine forall₄_congr fun r feed hdelivered hlast => ?_
  obtain ⟨n, new, htags, hnodes, hmem⟩ := reconciled_lists hdelivered
  set m := p.1.reconciled kit r feed
  have hbegan : p.2.began = (r.prevConnectionUuid, r.prevNodeId) := by
    refine (h _ ?_).symm
    rw [captured, (delivered_eq_some hdelivered).1, map_some]
  have hmodel : (p.1.step kit e).model = restoreDefault m p.2.began.1 p.2.began.2 := by
    rw [step_of_delivered hdelivered, hbegan]
    simp only [feedDone, hlast]
    rfl
  have hservers : (p.1.step kit e).model.servers = m.servers := by
    rw [hmodel]
    exact (restoreDefault_servers ..).1
  have hdrop : ∀ rows : List Row, p.2.began ∉
      nodes (rows.filter fun q => !dropped r feed q) ↔
      ∀ q ∈ rows, nodeOf q.config = p.2.began → dropped r feed q = true := by
    intro rows
    simp only [nodes, List.mem_map, mem_filter, not_exists, not_and, Bool.not_eq_true', and_imp]
    refine forall₂_congr fun q hq => ?_
    cases dropped r feed q <;> simp
  -- for one server, the default is restored exactly if it is the row
  have hone : ∀ before q after, p.1.model.servers = before ++ q :: after →
      dropped r feed q = false →
      (defaultTag (p.1.step kit e).model = some q.tag ↔ IsFirst p r feed before q) := by
    intro before q after heq hq
    set kept := before.filter fun q => !dropped r feed q
    have hkept : p.1.keptBy r feed =
        kept ++ q :: after.filter fun q => !dropped r feed q := by
      rw [keptBy, heq, filter_append, filter_cons_of_pos (by rw [hq]; rfl)]
    have htag : (m.servers.map Row.tag)[(nodes kept).length]? = some q.tag := by
      rw [htags, hkept]
      simp [nodes]
    have hlt := (List.getElem?_eq_some_iff.mp htag).1
    have hne : m.servers ≠ [] := fun hnil => by rw [hnil] at htag; cases htag
    obtain ⟨i, hi, hdefault⟩ := defaultTag_restoreDefault hne p.2.began.1 p.2.began.2
    have hindex : (m.servers.map Row.tag)[i]? = some q.tag ↔
        restoredIndex m p.2.began.1 p.2.began.2 = some (nodes kept).length := by
      rw [hi, some.injEq, ← htag, eq_comm, getElem?_inj hlt m.tags_nodup, eq_comm]
    have hempty : nodes kept = [] ↔ ∀ q' ∈ before, dropped r feed q' = true := by
      simp [nodes, kept, filter_eq_nil_iff]
    have hsplit : nodes m.servers = nodes kept ++ nodeOf q.config ::
        (nodes (after.filter fun q => !dropped r feed q) ++ new) := by
      rw [hnodes, hkept]
      simp [nodes]
    rw [hmodel, hdefault, hindex, restoredIndex_eq_some_iff hsplit, hdrop, hempty, IsFirst]
    by_cases huuid : p.2.began.1 = ""
    · simp [huuid]
    · rw [hnodes, hmem _ huuid, not_or, keptBy, hdrop]
      simp [huuid]
  constructor
  · intro hkeeps before q after heq htag hq
    have hmem : q ∈ p.1.model.servers := heq ▸ mem_append_right _ mem_cons_self
    refine (hone before q after heq hq).mp (hkeeps q hmem htag ?_)
    rw [hservers, htags]
    exact mem_append_left _ (mem_map_of_mem (mem_filter.mpr ⟨hmem, by rw [hq]; rfl⟩))
  · intro hfirst q hmem htag hstays
    obtain ⟨before, after, heq⟩ := append_of_mem hmem
    have hq : dropped r feed q = false := by
      rw [hservers, htags] at hstays
      rcases mem_append.mp hstays with hold | hnew
      · obtain ⟨q', hq', hsame⟩ := mem_map.mp hold
        obtain ⟨hmem', hkept⟩ := mem_filter.mp hq'
        rw [p.1.model.eq_of_tag hmem' hmem hsame] at hkept
        exact (Bool.not_eq_true' _).mp hkept
      · exact absurd (p.1.model.tags_lt q hmem) (not_lt.mpr (mem_range'_1.mp hnew).1)
    exact (hone before q after heq hq).mpr (hfirst before q after heq htag hq)

/-- In a run, every reload leaves the server that the user selected last as the default one, if it
is still there, exactly if before the last feed of every reload this server is the first one that
stays and has the connection and the node of the server that was the default one when the reload
began, or none will have them and it is the first one that stays. -/
theorem reload_keeps_selection_iff (kit : Toolkit) (s : Controller) (events : List Event) :
    (∀ before e, before ++ [e] <+: events → KeepsSelection kit (s.runSelected kit before) e) ↔
      Trace.Meets (Trace.watch (fun s e => s.step kit e) observeSelection) (SelectedFirst kit)
        (s, .start s) events := by
  rw [Trace.meets_iff_forall_before]
  exact forall₃_congr fun before e _ =>
    keepsSelection_iff_selectedFirst (s.observes_run kit before) e

/-- A self-hosted server is selected while a reload of a subscription runs, which does not even
fetch anything. -/
theorem reload_loses_selection :
    let kit := Toolkit.plain fun _ => empty
    let s := idle (.resetModel [subscriptionServer "a" "u" "n" [], empty] 0)
    let later := s.runSelected kit [.reload, .select 1]
    later.2.tag = some 1 ∧ defaultTag later.1.model = some 1 ∧
      (later.1.step kit (.services (.error .apiConfigEmptyError))).reload.isNone = true ∧
      defaultTag (later.1.step kit (.services (.error .apiConfigEmptyError))).model =
        some 0 := by
  decide +kernel

end Dopamine.Client.Controller
