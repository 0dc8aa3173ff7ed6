import Dopamine.Client.Controller

/-!
# Usable servers

A server is usable if its default container is one of its containers and has a protocol config. An
update from the gateway writes containers and the name of the default container together, a reload
writes containers only. Neither looks at whether the server is usable afterwards, so a usable server
stays usable exactly if the configs that are written to it are (`usable_stays_iff`).
-/

namespace Dopamine.Client

open QJsonObject Option ServersModel

/-! ## What is written -/

/-- An update makes a server usable if the config in the response is. -/
theorem usable_updated (update : GatewayConfigUpdate) (kit : Toolkit) (body : String)
    (new : QJsonObject) : serverHasUsableConfig (update.updated kit body new) =
      containersUsable (new.textAt "defaultContainer") (new.arrayAt "containers") := by
  have hdefault : (update.updated kit body new).textAt "defaultContainer" =
      new.textAt "defaultContainer" := by
    rw [textAt, GatewayConfigUpdate.updated, value_newServerConfig_of_ne (by decide),
      (filled _ new).defaultContainer, text_string]
  rw [serverHasUsableConfig, hdefault, GatewayConfigUpdate.containers_updated]

/-- A config of a feed makes a server usable if it has the default container of the server. -/
theorem usable_updatedServer (config existing : QJsonObject) :
    serverHasUsableConfig (updatedServer config existing) =
      containersUsable (existing.textAt "defaultContainer") (config.arrayAt "containers") := by
  rw [serverHasUsableConfig, textAt_congr (value_updatedServer_of_ne (by decide)),
    arrayAt_congr (value_updatedServer_copied (by decide))]

theorem usable_renamed (server : QJsonObject) (name : String) :
    serverHasUsableConfig (ServersModel.renamed server name) = serverHasUsableConfig server := by
  have hkeep : ∀ {key}, key ≠ "name" → key ≠ "description" → key ≠ "nameOverriddenByUser" →
      (ServersModel.renamed server name).value key = server.value key := by
    intro key hname hdescription hflag
    simp only [ServersModel.renamed, value_ite, value_insert, hname, hdescription, hflag, if_false,
      ite_self]
  rw [serverHasUsableConfig, serverHasUsableConfig,
    textAt_congr (hkeep (by decide) (by decide) (by decide)),
    arrayAt_congr (hkeep (by decide) (by decide) (by decide))]

namespace Controller

/-! ## Steps -/

/-- What an event writes to a usable server is usable: the config in the response to an update has
the default container that it names, and the config of a feed has the one that the server has. -/
def KeepsUsable (kit : Toolkit) (s : Controller) (e : Event) : Prop :=
  ∀ r ∈ s.model.servers, serverHasUsableConfig r.config = true →
    (∀ k body p new, e = .respond k (.ok body) → s.updates[k]? = some p →
      s.model.servers[p.update.serverIndex]? = some r → p.update.Writes kit body new →
      containersUsable (new.textAt "defaultContainer") (new.arrayAt "containers") = true) ∧
    ∀ rl feed c, s.delivered kit e = some (rl, feed) → feed.success = true →
      s.model.firstWithId (serverId r.config) = some r →
      installScheme.lastOf (serverId r.config) (kit.applyDisplayIndexAndSort feed.configs) = some c →
      containersUsable (r.config.textAt "defaultContainer") (c.arrayAt "containers") = true

variable {s : Controller} {kit : Toolkit}

/-- Usable servers that are there before and after are usable after. -/
def UsableStays (m m' : ServersModel) : Prop :=
  ∀ r ∈ m.servers, ∀ r' ∈ m'.servers, r'.tag = r.tag →
    serverHasUsableConfig r.config = true → serverHasUsableConfig r'.config = true

variable (e : Event)

theorem usableStays_iff_written :
    UsableStays s.model (s.step kit e).model ↔
      ∀ r ∈ s.model.servers, serverHasUsableConfig r.config = true →
        ∀ w, s.written kit e r = some w → serverHasUsableConfig w = true := by
  constructor
  · intro h r hr husable w hw
    obtain ⟨r', hr', htag, rfl⟩ := exists_of_written hr hw
    exact h r hr r' hr' htag husable
  · intro h r hr r' hr' htag husable
    rw [config_step hr hr' htag]
    cases hw : s.written kit e r with
    | none => exact husable
    | some w => exact h r hr husable w hw

/-- A step keeps usable servers usable exactly if what it writes to them is usable. -/
theorem usableStays_step_iff : UsableStays s.model (s.step kit e).model ↔ KeepsUsable kit s e := by
  rw [usableStays_iff_written]
  refine forall₂_congr fun r hr => forall_congr' fun husable => ?_
  constructor
  · refine fun h => ⟨fun k body p new hevent hp hrow hwrites => ?_,
      fun rl feed c hdelivered hsuccess hfirst hlast => ?_⟩
    · refine (usable_updated p.update kit body new).symm.trans (h _ ?_)
      exact written_eq_some_iff.mpr (.inr (.inl ⟨k, body, p, new, hevent, hp, hrow, hwrites, rfl⟩))
    · refine (usable_updatedServer c r.config).symm.trans (h _ ?_)
      rw [written_of_delivered hdelivered, if_pos hsuccess]
      exact installed_eq_some.mpr ⟨hfirst, c, hlast, rfl⟩
  · rintro ⟨hrespond, hdeliver⟩ w hw
    rcases written_eq_some_iff.mp hw with ⟨row, name, -, -, rfl⟩ |
      ⟨k, body, p, new, hevent, hp, hrow, hwrites, rfl⟩ |
      ⟨rl, feed, hdelivered, hsuccess, hinstalled⟩
    · exact (usable_renamed r.config name).trans husable
    · rw [usable_updated]
      exact hrespond k body p new hevent hp hrow hwrites
    · obtain ⟨hfirst, c, hlast, rfl⟩ := installed_eq_some.mp hinstalled
      rw [usable_updatedServer]
      exact hdeliver rl feed c hdelivered hsuccess hfirst hlast

/-! ## Runs -/

theorem usableStays_trans {a b c : ServersModel} (hbc : b.Evolves c) (hab : a.Evolves b)
    (h : UsableStays a b) (h' : UsableStays b c) : UsableStays a c := by
  intro r hr r'' hr'' htag husable
  have hlt : r''.tag < b.nextTag := htag ▸ (a.tags_lt r hr).trans_le hab.nextTag_le
  obtain ⟨r', hr', htag'⟩ := hbc.tag_mem r'' hr'' hlt
  exact h' r' hr' r'' hr'' htag'.symm (h r hr r' hr' (htag'.trans htag) husable)

/-- In a run, a usable server stays usable while it is there, exactly if every step writes usable
configs to usable servers. -/
theorem usable_stays_iff (kit : Toolkit) (s : Controller) (events : List Event) :
    (∀ earlier later, earlier <+: later → later <+: events →
      ∀ r ∈ (s.run kit earlier).model.servers, ∀ r' ∈ (s.run kit later).model.servers,
        r'.tag = r.tag → serverHasUsableConfig r.config = true →
        serverHasUsableConfig r'.config = true) ↔
      Trace.Meets (fun s e => s.step kit e) (KeepsUsable kit) s events := by
  refine Iff.trans ⟨?_, ?_⟩ (Trace.forall_pair_iff_meets
    (R := fun a b : Controller => a.model.Evolves b.model ∧ UsableStays a.model b.model)
    (fun a => ⟨.refl _, fun r hr r' hr' htag husable => a.model.eq_of_tag hr' hr htag ▸ husable⟩)
    (fun a b c hab hbc => ⟨hab.1.trans hbc.1, usableStays_trans hbc.1 hab.1 hab.2 hbc.2⟩)
    (fun a e => (and_iff_right (a.evolves_step kit e)).trans (usableStays_step_iff e)))
  · exact fun h earlier later he hl => ⟨s.evolves_run kit he, h earlier later he hl⟩
  · exact fun h earlier later he hl => (h earlier later he hl).2

/-- An update whose response names no default container. -/
theorem usable_server_lost :
    let server := subscriptionServer "a" "u" "n" [("hostName", .string "h"),
      ("defaultContainer", .string "amnezia-xray"),
      ("containers", .array [.object [("container", .string "amnezia-xray"),
        ("xray", .object [("last_config", .string "x")])]])]
    let kit := Toolkit.plain fun _ => ofMembers [("config", .string "c"), ("hostName", .string "h"),
      ("containers", .array [.object [("container", .string "amnezia-xray"),
        ("xray", .object [("last_config", .string "x")])]])]
    let s := idle (.resetModel [server] 0)
    let later := s.run kit [.prepare 0 "" "" false true ⟨"", "", ""⟩, .respond 0 (.ok "r")]
    (s.model.servers.map fun r => (r.tag, serverHasUsableConfig r.config)) = [(0, true)] ∧
      (later.model.servers.map fun r => (r.tag, serverHasUsableConfig r.config)) = [(0, false)] := by
  decide +kernel

end Controller

end Dopamine.Client
