import Dopamine.Client.Controller

/-!
# The server of an update

An update captures a row when it is prepared and writes to that row when its response is there. Rows
move up when servers before them are removed, by the user or by a reload, so that the row can hold
another server by then, or none.
-/

namespace Dopamine.Client.Controller

open QJsonObject Option

variable (kit : Toolkit) (s : Controller) (e : Event)

/-- The response to an update changes no server but the one that the update was prepared for, and it
does not write outside of the list. -/
def WritesOwn : Prop :=
  ∀ k response p, e = .respond k response → s.updates[k]? = some p →
    ∃ m, s.model.finishGatewayConfigUpdate kit p.update response = some m ∧
      (s.step kit e).model = m ∧ m.servers.map Row.tag = s.model.servers.map Row.tag ∧
      ∀ r ∈ s.model.servers, ∀ r' ∈ m.servers, r'.tag = r.tag → r' ≠ r → p.tag = some r.tag

/-- The row of an update that writes holds the server that it was prepared for, or a server with the
config that is written. -/
def RowIsOwn : Prop :=
  ∀ k body p new, e = .respond k (.ok body) → s.updates[k]? = some p →
    p.update.Writes kit body new →
    ∃ r, s.model.servers[p.update.serverIndex]? = some r ∧
      (p.tag = some r.tag ∨ r.config = p.update.updated kit body new)

theorem writesOwn_iff_rowIsOwn :
    WritesOwn kit s e ↔ RowIsOwn kit s e := by
  constructor
  · intro h k body p new hevent hp hwrites
    obtain ⟨m, hfinish, -, -, hown⟩ := h k (.ok body) p hevent hp
    rw [ServersModel.finishGatewayConfigUpdate,
      GatewayConfigUpdate.finish_write_iff.mpr ⟨body, new, rfl, hwrites, rfl⟩] at hfinish
    simp only [ServersModel.editServer] at hfinish
    split_ifs at hfinish with hlt
    obtain ⟨r, hr⟩ : ∃ r, s.model.servers[p.update.serverIndex]? = some r :=
      ⟨_, List.getElem?_eq_getElem hlt⟩
    refine ⟨r, hr, or_iff_not_imp_right.mpr fun hne => ?_⟩
    -- the server in the row is changed
    have hedited : (⟨r.tag, p.update.updated kit body new⟩ : Row) ∈ m.servers := by
      obtain rfl := some.inj hfinish
      refine List.mem_of_getElem? (i := p.update.serverIndex) ?_
      show (s.model.servers.modify _ _)[_]? = _
      rw [List.getElem?_modify, hr, map_eq_map, map_some, if_pos rfl]
    refine hown r (List.mem_of_getElem? hr) _ hedited rfl fun heq => hne ?_
    exact (congrArg Row.config heq).symm
  · intro h k response p hevent hp
    have hmodel : (s.step kit e).model =
        (s.model.finishGatewayConfigUpdate kit p.update response).getD s.model := by
      rw [hevent]
      simp only [step, finishUpdate, hp]
    cases hwrite : (p.update.finish kit (s.model.getServerConfig p.update.serverIndex)
        response).write with
    | none =>
      have hfinish : s.model.finishGatewayConfigUpdate kit p.update response = some s.model := by
        rw [ServersModel.finishGatewayConfigUpdate, hwrite]
      refine ⟨s.model, hfinish, by rw [hmodel, hfinish, getD_some], rfl, ?_⟩
      intro r hr r' hr' htag hne
      exact absurd (s.model.eq_of_tag hr' hr htag) hne
    | some server =>
      obtain ⟨body, new, rfl, hwrites, rfl⟩ := GatewayConfigUpdate.finish_write_iff.mp hwrite
      obtain ⟨q, hq, hown⟩ := h k body p new hevent hp hwrites
      have hlt := (List.getElem?_eq_some_iff.mp hq).1
      have hfinish : s.model.finishGatewayConfigUpdate kit p.update (.ok body) =
          some (s.model.edit ⟨p.update.serverIndex, hlt⟩ (p.update.updated kit body new)) := by
        rw [ServersModel.finishGatewayConfigUpdate, hwrite]
        exact dif_pos hlt
      refine ⟨_, hfinish, by rw [hmodel, hfinish, getD_some], ServersModel.map_tag_modify .., ?_⟩
      intro r hr r' hr' htag hne
      have hconfig := ServersModel.config_edit hr hr' htag
      split_ifs at hconfig with hrow
      · obtain rfl : q = r :=
          some.inj (hq.symm.trans ((ServersModel.getElem?_eq_some_iff_fin hlt).mpr hrow))
        refine hown.resolve_right fun hsame => hne ?_
        exact congrArg₂ Row.mk htag (hconfig.trans hsame.symm)
      · exact absurd (congrArg₂ Row.mk htag hconfig) hne

/-- In a run, every response to an update changes at most its own server, exactly if the row of
every update that writes holds that server when the response is there. -/
theorem update_writes_own_iff (kit : Toolkit) (s : Controller) (events : List Event) :
    (∀ before e, before ++ [e] <+: events → WritesOwn kit (s.run kit before) e) ↔
      Trace.Meets (fun s e => s.step kit e) (RowIsOwn kit) s events := by
  rw [Trace.meets_iff_forall_before]
  exact forall₃_congr fun before e _ => writesOwn_iff_rowIsOwn kit _ e

/-- The server in front of another one is removed while an update of it is in flight: the config of
the removed server is written to the other one. -/
theorem update_writes_other :
    let kit := namelessKit
    let s := idle (.resetModel [subscriptionServer "a" "u" "n" [("name", .string "first")],
      subscriptionServer "b" "v" "m" [("name", .string "second")]] 0)
    let later := s.run kit [.prepare 0 "" "" false true ⟨"", "", ""⟩, .remove 0]
    (later.updates.map fun p => p.tag) = [some 0] ∧
      (later.model.servers.map fun r => (r.tag, r.config.textAt "name")) = [(1, "second")] ∧
      ((later.step kit (.respond 0 (.ok "r"))).model.servers.map fun r =>
        (r.tag, r.config.textAt "name")) = [(1, "first")] := by
  decide +kernel

end Dopamine.Client.Controller
