import Dopamine.Client.SubscriptionFeed
import Dopamine.Pump.Bounded

/-!
# The requests of a feed

The pump of `fetchSubscriptionFeed` in `client/ui/controllers/api/apiConfigsController.cpp`. It
sends the requests for the configs that are not reused, four at a time, and calls back when the last
one has been answered. A request can be answered while it is being sent or later, in any order.

`fetch_pump` compares what is delivered with `closeFeed`, which has all answers at once.
-/

namespace Dopamine.Client

open QJsonObject List Option

/-- `configSlots`, `outFailures` and `anySuccess`. -/
structure FetchResults where
  configSlots : List (Option QJsonObject)
  failures : List String
  anySuccess : Bool

namespace Toolkit

variable (kit : Toolkit) (authData : QJsonObject) (items : List WorkItem)

/-- The callback of the request for an item. -/
def recordAnswer (r : FetchResults) (i : ℕ) (answer : ProtocolData × Response) : FetchResults :=
  match items[i]? with
  | none => r
  | some item =>
      match kit.fetchedConfig authData item answer.1 answer.2 with
      | some config => { r with configSlots := r.configSlots.set i (some config), anySuccess := true }
      | none => { r with failures := noteFailure r.failures item }

/-- The pump, where `kFetchConcurrency` is four. -/
def fetchPump : Pump.Spec (ProtocolData × Response) FetchResults Feed where
  size := items.length
  limit := 4
  ok r i := (r.configSlots[i]?.join).isSome
  record := kit.recordAnswer authData items
  deliver r := ⟨r.anySuccess, r.configSlots.filterMap id, r.failures⟩

end Toolkit

/-- The results when the pump is started: what is reused. -/
def firstResults (slots : List Slot) : FetchResults :=
  ⟨slots.map Slot.reused, [], slots.any fun slot => slot.reused.isSome⟩

def answerTo (completed : List (ℕ × (ProtocolData × Response))) (i : ℕ) :
    Option (ProtocolData × Response) :=
  (completed.find? fun p => p.1 = i).map Prod.snd

namespace Toolkit

variable {kit : Toolkit} {authData : QJsonObject} {items : List WorkItem}

theorem fetchPump_local : (kit.fetchPump authData items).Local := by
  intro r i j answer hne
  show ((kit.recordAnswer authData items r i answer).configSlots[j]?.join).isSome =
    (r.configSlots[j]?.join).isSome
  rw [recordAnswer]
  split
  · rfl
  · split
    · show (((r.configSlots.set i _)[j]?).join).isSome = _
      rw [getElem?_set_ne hne.symm]
    · rfl

/-! ## The results after some answers -/

section Results

variable {slots : List Slot} {completed : List (ℕ × (ProtocolData × Response))}

/-- The results after some answers. -/
def resultsAfter (kit : Toolkit) (authData : QJsonObject) (slots : List Slot)
    (completed : List (ℕ × (ProtocolData × Response))) : FetchResults :=
  completed.foldl (fun r p => kit.recordAnswer authData (slots.map Slot.item) r p.1 p.2)
    (firstResults slots)

theorem answerTo_concat (p : ℕ × (ProtocolData × Response)) (j : ℕ) :
    answerTo (completed ++ [p]) j =
      (answerTo completed j).or (if p.1 = j then some p.2 else none) := by
  rw [answerTo, find?_append, answerTo]
  cases completed.find? fun p => p.1 = j with
  | some q => rfl
  | none => by_cases hj : p.1 = j <;> simp [hj]

theorem answerTo_eq_none {j : ℕ} (h : j ∉ completed.map Prod.fst) :
    answerTo completed j = none := by
  rw [answerTo, map_eq_none_iff, find?_eq_none]
  intro p hp hj
  exact h (of_decide_eq_true hj ▸ mem_map_of_mem hp)

variable {p : ℕ × (ProtocolData × Response)} {answers : ℕ → ProtocolData × Response}

theorem answerTo_eq_some (hnodup : (completed.map Prod.fst).Nodup) (hp : p ∈ completed) :
    answerTo completed p.1 = some p.2 := by
  obtain ⟨q, hq⟩ : ∃ q, (completed.find? fun q => q.1 = p.1) = some q :=
    isSome_iff_exists.mp (find?_isSome.mpr ⟨p, hp, decide_eq_true rfl⟩)
  have hkey : q.1 = p.1 := by simpa using find?_some hq
  rw [answerTo, hq, inj_on_of_nodup_map hnodup (mem_of_find?_eq_some hq) hp hkey]
  rfl

/-- The answers are those to requests of the pump, each to another one. -/
structure Answers (slots : List Slot)
    (completed : List (ℕ × (ProtocolData × Response))) : Prop where
  nodup : (completed.map Prod.fst).Nodup
  isOpen : ∀ p ∈ completed, ∃ slot, slots[p.1]? = some slot ∧ slot.reused = none

/-- The answers before the last one. -/
theorem Answers.of_concat (h : Answers slots (completed ++ [p])) :
    Answers slots completed ∧ p.1 ∉ completed.map Prod.fst ∧
      ∃ slot, slots[p.1]? = some slot ∧ slot.reused = none := by
  have hnodup := h.nodup
  rw [map_append, nodup_append] at hnodup
  refine ⟨⟨hnodup.1, fun q hq => h.isOpen q (mem_append_left _ hq)⟩, fun hmem => ?_,
    h.isOpen p (mem_append_right _ (mem_singleton_self p))⟩
  exact hnodup.2.2 _ hmem _ (mem_singleton_self _) rfl

/-- The last answer puts its config in the slot or notes the failure. -/
theorem resultsAfter_concat (kit : Toolkit) (authData : QJsonObject) {slot : Slot}
    (hslot : slots[p.1]? = some slot) :
    let r := kit.resultsAfter authData slots completed
    kit.resultsAfter authData slots (completed ++ [p]) =
      match kit.fetchedConfig authData slot.item p.2.1 p.2.2 with
      | some config =>
          { r with configSlots := r.configSlots.set p.1 (some config), anySuccess := true }
      | none => { r with failures := noteFailure r.failures slot.item } := by
  have hitem : (slots.map Slot.item)[p.1]? = some slot.item := by
    rw [getElem?_map, hslot]
    rfl
  intro r
  show (completed ++ [p]).foldl _ _ = _
  rw [foldl_concat, recordAnswer, hitem]
  rfl

theorem length_configSlots :
    (kit.resultsAfter authData slots completed).configSlots.length = slots.length := by
  refine foldlRecOn completed _ 
    (motive := fun r : FetchResults => r.configSlots.length = slots.length) (length_map _)
    fun r hr p _ => ?_
  rw [recordAnswer]
  split
  · exact hr
  · split
    · exact length_set.trans hr
    · exact hr

/-- The config in a slot: what is reused or was fetched. -/
theorem getElem?_configSlots (h : Answers slots completed) (j : ℕ) :
    (kit.resultsAfter authData slots completed).configSlots[j]? = slots[j]?.map fun slot =>
      slot.reused.or ((answerTo completed j).bind fun a =>
        kit.fetchedConfig authData slot.item a.1 a.2) := by
  induction completed using reverseRecOn with
  | nil =>
    show (slots.map Slot.reused)[j]? = _
    rw [getElem?_map]
    exact congrArg (Option.map · slots[j]?) (funext fun slot => or_none.symm)
  | append_singleton completed p ih =>
    obtain ⟨hbefore, hnew, slot, hslot, hreused⟩ := h.of_concat
    have hlt : p.1 < (kit.resultsAfter authData slots completed).configSlots.length := by
      rw [length_configSlots]
      exact (List.getElem?_eq_some_iff.mp hslot).1
    rw [resultsAfter_concat kit authData hslot, answerTo_concat]
    by_cases hj : p.1 = j
    · subst hj
      rw [answerTo_eq_none hnew, hslot, if_pos rfl]
      cases hfetched : kit.fetchedConfig authData slot.item p.2.1 p.2.2 with
      | some config =>
        rw [getElem?_set_self hlt]
        simp [hreused, hfetched]
      | none =>
        rw [ih hbefore, answerTo_eq_none hnew, hslot]
        simp [hreused, hfetched]
    · rw [if_neg hj, or_none, ← ih hbefore]
      cases kit.fetchedConfig authData slot.item p.2.1 p.2.2 with
      | some config => exact getElem?_set_ne hj
      | none => rfl

/-- A request succeeded, or something is reused, if there is a config. -/
theorem anySuccess_eq (h : Answers slots completed) :
    (kit.resultsAfter authData slots completed).anySuccess =
      (kit.resultsAfter authData slots completed).configSlots.any isSome := by
  induction completed using reverseRecOn with
  | nil =>
    show (slots.any fun slot => slot.reused.isSome) = (slots.map Slot.reused).any isSome
    rw [List.any_map]
    rfl
  | append_singleton completed p ih =>
    obtain ⟨hbefore, -, slot, hslot, -⟩ := h.of_concat
    have hlt : p.1 < (kit.resultsAfter authData slots completed).configSlots.length := by
      rw [length_configSlots]
      exact (List.getElem?_eq_some_iff.mp hslot).1
    rw [resultsAfter_concat kit authData hslot]
    cases kit.fetchedConfig authData slot.item p.2.1 p.2.2 with
    | some config => exact (any_eq_true.mpr ⟨some config, mem_set hlt _, rfl⟩).symm
    | none => exact ih hbefore

/-- The failures are the keys of the items for which no config came, if they have a connection. -/
theorem mem_failures (h : Answers slots completed) {key : String} :
    key ∈ (kit.resultsAfter authData slots completed).failures ↔
      ∃ p ∈ completed, ∃ slot, slots[p.1]? = some slot ∧
        kit.fetchedConfig authData slot.item p.2.1 p.2.2 = none ∧
        slot.item.connectionUuid ≠ "" ∧ slot.item.key = key := by
  induction completed using reverseRecOn with
  | nil => simp [resultsAfter, firstResults]
  | append_singleton completed p ih =>
    obtain ⟨hbefore, -, slot, hslot, -⟩ := h.of_concat
    rw [resultsAfter_concat kit authData hslot]
    simp only [mem_append, mem_singleton, or_and_right, exists_or, exists_eq_left, hslot,
      some.injEq, exists_eq_left']
    rw [← ih hbefore]
    cases kit.fetchedConfig authData slot.item p.2.1 p.2.2 with
    | some config => simp
    | none => simp [mem_noteFailure]

/-! ## The end of the pump -/

/-- If all that is not reused was answered, the slots have what `closeFeed` has for these answers.
-/
theorem configSlots_eq (h : Answers slots completed)
    (hanswers : ∀ p ∈ completed, answers p.1 = p.2)
    (hall : ∀ i slot, slots[i]? = some slot → slot.reused = none → i ∈ completed.map Prod.fst) :
    (kit.resultsAfter authData slots completed).configSlots =
      slots.zipIdx.map fun q => kit.slotConfig authData q.1 (answers q.2) := by
  refine ext_getElem? fun j => ?_
  rw [getElem?_configSlots h, getElem?_map, getElem?_zipIdx, Option.map_map]
  cases hslot : slots[j]? with
  | none => rfl
  | some slot =>
    refine congrArg some ?_
    show slot.reused.or _ = slot.reused.or (kit.fetchedConfig authData slot.item (answers _).1 _)
    cases hreused : slot.reused with
    | some config => rfl
    | none =>
      obtain ⟨p, hp, rfl⟩ := mem_map.mp (hall j slot hslot hreused)
      rw [answerTo_eq_some h.nodup hp, Nat.zero_add, hanswers p hp]
      rfl

/-- A feed has its configs in the order of the items. -/
theorem closeFeed_configs (answers : ℕ → ProtocolData × Response) :
    (kit.closeFeed authData slots answers).configs =
      slots.zipIdx.filterMap fun q => kit.slotConfig authData q.1 (answers q.2) := by
  rw [closeFeed, filterMap_map]
  rfl

/-- What is delivered then. -/
theorem deliver_eq (kit : Toolkit) (authData : QJsonObject) (items : List WorkItem)
    (h : Answers slots completed) (hanswers : ∀ p ∈ completed, answers p.1 = p.2)
    (hall : ∀ i slot, slots[i]? = some slot → slot.reused = none → i ∈ completed.map Prod.fst) :
    let feed := (kit.fetchPump authData items).deliver (kit.resultsAfter authData slots completed)
    let closed := kit.closeFeed authData slots answers
    feed.configs = closed.configs ∧ feed.success = closed.success ∧
      ∀ key, key ∈ feed.failures ↔ key ∈ closed.failures := by
  refine ⟨?_, ?_, fun key => ?_⟩
  · show (kit.resultsAfter authData slots completed).configSlots.filterMap id = _
    rw [configSlots_eq h hanswers hall, filterMap_map, closeFeed_configs]
    rfl
  · show (kit.resultsAfter authData slots completed).anySuccess = _
    rw [anySuccess_eq h, configSlots_eq h hanswers hall, List.any_map, closeFeed, List.any_map]
    rfl
  · refine (mem_failures h).trans (Iff.trans ?_ mem_closeFeed_failures.symm)
    constructor
    · rintro ⟨p, hp, slot, hslot, hnone, hkey⟩
      obtain ⟨slot', hslot', hreused⟩ := h.isOpen p hp
      obtain rfl : slot' = slot := some.inj (hslot'.symm.trans hslot)
      refine ⟨p.1, slot', hslot, ?_, hkey⟩
      rw [slotConfig, hreused, hanswers p hp, none_or, hnone]
    · rintro ⟨i, slot, hslot, hnone, hkey⟩
      obtain ⟨hreused, hfetched⟩ := or_eq_none_iff.mp hnone
      obtain ⟨p, hp, rfl⟩ := mem_map.mp (hall i slot hslot hreused)
      rw [hanswers p hp] at hfetched
      exact ⟨p, hp, slot, hslot, hfetched, hkey⟩

end Results

/-- An index is left to request if its config is not reused. -/
theorem mem_todo_firstResults {slots : List Slot} {i : ℕ} :
    i ∈ (kit.fetchPump authData (slots.map Slot.item)).todo (firstResults slots) slots.length ↔
      ∃ slot, slots[i]? = some slot ∧ slot.reused = none := by
  have hok : (kit.fetchPump authData (slots.map Slot.item)).ok (firstResults slots) i =
      ((slots[i]?.map Slot.reused).join).isSome :=
    congrArg (fun o : Option (Option QJsonObject) => o.join.isSome) getElem?_map
  rw [Pump.Spec.mem_todo, hok]
  constructor
  · rintro ⟨hlt, hnone⟩
    rw [getElem?_eq_getElem hlt] at hnone ⊢
    exact ⟨_, rfl, not_isSome_iff_eq_none.mp (ne_true_of_eq_false hnone)⟩
  · rintro ⟨slot, hslot, hnone⟩
    refine ⟨(List.getElem?_eq_some_iff.mp hslot).1, ?_⟩
    rw [hslot, map_some, hnone]
    rfl

/-- The feed of a list of work items, for all answers, also those that come while a request is sent
(`now`), in all orders. What is not reused is requested once, at most four requests are in flight,
and the feed is delivered once, when all are answered. It has the configs in the order of the items,
and each item with a connection is among the configs or the failures. -/
theorem fetch_pump (kit : Toolkit) (subscriptionId : String) (shared : Bool)
    (servers : List QJsonObject) (items : List WorkItem)
    (now : ℕ → Option (ProtocolData × Response)) (depth : ℕ)
    (answers : List (ℕ × (ProtocolData × Response))) :
    let authData := feedAuthData subscriptionId shared
    let slots := items.map (kit.slotOf subscriptionId shared servers)
    let p := (kit.fetchPump authData items).run now (depth + 1) (firstResults slots) answers
    p.requested.Nodup ∧
    (∀ i ∈ p.requested, ∃ slot, slots[i]? = some slot ∧ slot.reused = none) ∧
    p.peak ≤ 4 ∧
    p.delivered.length ≤ 1 ∧
    (p.delivered ≠ [] ↔ ∀ i ∈ p.requested, i ∈ p.completed.map Prod.fst) ∧
    ∀ feed ∈ p.delivered,
      (∀ i slot, slots[i]? = some slot → slot.reused = none →
        i ∈ p.requested ∧ i ∈ p.completed.map Prod.fst) ∧
      (∃ answer : ℕ → ProtocolData × Response,
        (∀ q ∈ p.completed, answer q.1 = q.2) ∧
        feed.configs = (slots.zipIdx.filterMap fun q => kit.slotConfig authData q.1 (answer q.2)) ∧
        feed.configs = (kit.closeFeed authData slots answer).configs ∧
        feed.success = (kit.closeFeed authData slots answer).success ∧
        ∀ key, key ∈ feed.failures ↔ key ∈ (kit.closeFeed authData slots answer).failures) ∧
      ∀ item ∈ items, item.connectionUuid ≠ "" →
        item.key ∈ feed.configs.map serverKey ∨ item.key ∈ feed.failures := by
  intro authData slots p
  have hrest : (kit.fetchPump authData items).AtRest (firstResults slots) p :=
    Pump.Spec.atRest_run fetchPump_local (Nat.zero_lt_succ 3) depth (firstResults slots) answers
  have hitems : slots.map Slot.item = items := by
    rw [List.map_map]
    exact (map_congr_left fun item _ => slotOf_item ..).trans (map_id items)
  have hsize : (kit.fetchPump authData items).size = slots.length := (length_map _).symm
  have htodo : ∀ i, i ∈ (kit.fetchPump authData items).todo (firstResults slots) slots.length ↔
      ∃ slot, slots[i]? = some slot ∧ slot.reused = none := by
    intro i
    rw [← mem_todo_firstResults, hitems]
  have hopen : ∀ i ∈ p.requested, ∃ slot, slots[i]? = some slot ∧ slot.reused = none := by
    intro i hi
    rw [hrest.requested_eq, Pump.Spec.mem_todo] at hi
    exact (htodo i).mp (Pump.Spec.mem_todo.mpr ⟨hi.1.trans_le (hsize ▸ hrest.next_le), hi.2⟩)
  have hanswers : Answers slots p.completed :=
    ⟨hrest.completed_nodup, fun q hq => hopen q.1 (hrest.completed_mem q hq)⟩
  refine ⟨hrest.requested_eq ▸ Pump.Spec.todo_nodup .., hopen, hrest.peak_le, ?_⟩
  rcases hrest.outcome with ⟨-, hnone, hless, -⟩ | ⟨-, hone, hend, hall⟩
  · -- a request is not answered yet
    refine ⟨hnone ▸ Nat.zero_le 1, ⟨fun h => absurd hnone h, fun h => ?_⟩,
      fun feed hfeed => absurd (hnone ▸ hfeed) not_mem_nil⟩
    have hsubperm : p.requested.Subperm (p.completed.map Prod.fst) :=
      subperm_of_subset (hrest.requested_eq ▸ Pump.Spec.todo_nodup ..) h
    have hle := hsubperm.length_le
    rw [length_map] at hle
    exact absurd hle (Nat.not_le.mpr hless)
  · have hdone : ∀ i ∈ p.requested, i ∈ p.completed.map Prod.fst :=
      fun i hi => hrest.toCounts.mem_completed hall hi
    have hreq : ∀ i slot, slots[i]? = some slot → slot.reused = none → i ∈ p.requested := by
      intro i slot hslot hreused
      rw [hrest.requested_eq, hend, hsize]
      exact (htodo i).mpr ⟨slot, hslot, hreused⟩
    refine ⟨(congrArg length hone).le, iff_of_true ?_ hdone, fun feed hfeed => ?_⟩
    · rw [hone]
      exact cons_ne_nil _ _
    · let answer : ℕ → ProtocolData × Response := fun i =>
        (answerTo p.completed i).getD (⟨"", "", ""⟩, .ok "")
      have hanswer : ∀ q ∈ p.completed, answer q.1 = q.2 := fun q hq =>
        congrArg (Option.getD · _) (answerTo_eq_some hanswers.nodup hq)
      have hresults : p.results = kit.resultsAfter authData slots p.completed := by
        rw [hrest.results_eq, resultsAfter, hitems]
        rfl
      obtain ⟨hconfigs, hsuccess, hfailures⟩ := deliver_eq kit authData items hanswers hanswer
        fun i slot hslot hreused => hdone i (hreq i slot hslot hreused)
      rw [hone, mem_singleton, hresults] at hfeed
      subst hfeed
      refine ⟨fun i slot hslot hreused => ⟨hreq i slot hslot hreused, hdone i ?_⟩,
        ⟨answer, hanswer, hconfigs.trans (closeFeed_configs answer), hconfigs, hsuccess, hfailures⟩,
        fun item hitem huuid => ?_⟩
      · exact hreq i slot hslot hreused
      · rw [hconfigs, hfailures]
        exact key_mem_closeFeed hitem huuid

end Toolkit

end Dopamine.Client
