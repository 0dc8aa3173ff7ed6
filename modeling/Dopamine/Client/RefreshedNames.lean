import Dopamine.Client.GatewayUpdate

/-!
# What a refresh keeps of a server

A config of the gateway takes the place of the one that a server has, and
`finishGatewayConfigUpdate` copies to it what the user sees of the server. If the user has renamed
the server, the description is not copied: it is lost (`refresh_keeps_presentation_iff`).
-/

namespace Dopamine.Client

open QJsonObject Option

/-- The flag of a server that the user has renamed. -/
def isRenamed (server : QJsonObject) : Bool := Json.boolValue (server.value "nameOverriddenByUser")

/-- What the user sees of a server is the same. -/
structure SamePresentation (server server' : QJsonObject) : Prop where
  name : server'.value "name" = server.value "name"
  description : server'.value "description" = server.value "description"
  displayInfo : server'.value "displayInfo" = server.value "displayInfo"
  renamed : isRenamed server' = isRenamed server

/-- What is written of this: a renamed server gets the description of the response, one that was
not renamed the flag of the response. -/
theorem values_newServerConfig (update : GatewayConfigUpdate) (response filled : QJsonObject) :
    (update.newServerConfig response filled).value "name" = update.serverConfig.value "name" ∧
      (update.newServerConfig response filled).value "description" =
        (if isRenamed update.serverConfig then filled.value "description"
          else update.serverConfig.value "description") ∧
      (update.newServerConfig response filled).value "displayInfo" =
        (update.serverConfig.value "displayInfo").or (filled.value "displayInfo") ∧
      (update.newServerConfig response filled).value "nameOverriddenByUser" =
        if isRenamed update.serverConfig then some (.bool true)
          else filled.value "nameOverriddenByUser" := by
  simp only [GatewayConfigUpdate.newServerConfig, isRenamed]
  by_cases hinfo : update.serverConfig.contains "displayInfo" = true
  · rw [if_pos hinfo, or_of_isSome hinfo]
    split_ifs with hold <;> simp [value_insert, hold]
  · rw [if_neg hinfo, not_isSome_iff_eq_none.mp hinfo]
    split_ifs with hold <;> simp [value_insert, hold]

/-- The description is copied unless the server was renamed, and everything else always. -/
theorem samePresentation_iff (update : GatewayConfigUpdate) {response new : QJsonObject}
    (hnew : new.value "description" = none) :
    SamePresentation update.serverConfig
        (update.newServerConfig response (fillFrom response new empty)) ↔
      isRenamed update.serverConfig = false ∨ update.serverConfig.value "description" = none := by
  have hdescription : (fillFrom response new empty).value "description" = none := by
    simp only [fillFrom, value_insert, String.reduceEq, if_false, fillVersion]
    split_ifs <;> simp [value_insert, value_insertMissing, hnew]
  have hinfo : (fillFrom response new empty).value "displayInfo" = none := by
    simp [fillFrom, value_insert, value_fillVersion_of_ne]
  obtain ⟨hname, htext, hdisplay, hflag⟩ :=
    values_newServerConfig update response (fillFrom response new empty)
  rw [hdescription] at htext
  rw [hinfo, or_none] at hdisplay
  rw [(filled response new).nameOverridden] at hflag
  have hrenamed : isRenamed (update.newServerConfig response (fillFrom response new empty)) =
      isRenamed update.serverConfig := by
    rw [isRenamed, hflag]
    cases isRenamed update.serverConfig <;> rfl
  refine ⟨fun h => ?_, fun h => ⟨hname, ?_, hdisplay, hrenamed⟩⟩
  · have hsame := htext.symm.trans h.description
    cases hold : isRenamed update.serverConfig with
    | false => exact .inl rfl
    | true => exact .inr (by rw [← hsame, hold, if_pos rfl])
  · rw [htext]
    rcases h with hold | hnone
    · rw [hold, if_neg Bool.false_ne_true]
    · rw [hnone, ite_self]

section Refresh

variable {kit : Toolkit} {m m' : ServersModel} {row : ℕ} {update : GatewayConfigUpdate}
  {newCountryCode newCountryName body : String} {reload silent : Bool} {fresh : ProtocolData}

/-- A refresh with a response that has no name, description or display info keeps what the user
sees exactly if nothing is written, the server was not renamed or it has no description. -/
theorem refresh_keeps_presentation_iff
    (hupdate : update = kit.prepareGatewayConfigUpdate (m.getServerConfig row) row newCountryCode
      newCountryName reload silent fresh)
    (hbody : ∀ new, kit.responseConfig update.serviceProtocol update.protocolData body = .ok new →
      new.value "name" = none ∧ new.value "description" = none ∧ new.value "displayInfo" = none)
    (hfinish : m.finishGatewayConfigUpdate kit update (.ok body) = some m') :
    SamePresentation (m.getServerConfig row) (m'.getServerConfig row) ↔
      (∀ new, ¬update.Writes kit body new) ∨
        isRenamed (m.getServerConfig row) = false ∨
        (m.getServerConfig row).value "description" = none := by
  have hindex : update.serverIndex = row := by rw [hupdate]; rfl
  have hserver : update.serverConfig = m.getServerConfig row := by rw [hupdate]; rfl
  rw [ServersModel.finishGatewayConfigUpdate, hindex] at hfinish
  cases hwrite : (update.finish kit (m.getServerConfig row) (.ok body)).write with
  | none =>
    rw [hwrite] at hfinish
    obtain rfl := some.inj hfinish
    refine iff_of_true ⟨rfl, rfl, rfl, rfl⟩ (.inl fun new hwrites => ?_)
    cases hwrite.symm.trans
      (GatewayConfigUpdate.finish_write_iff.mpr ⟨body, new, rfl, hwrites, rfl⟩)
  | some server =>
    rw [hwrite] at hfinish
    obtain ⟨body', new, hbody', hwrites, rfl⟩ := GatewayConfigUpdate.finish_write_iff.mp hwrite
    obtain rfl := Except.ok.inj hbody'
    simp only [ServersModel.editServer] at hfinish
    split_ifs at hfinish with hlt
    have hedited : m'.getServerConfig row = update.updated kit body new := by
      rw [← some.inj hfinish, ServersModel.getServerConfig]
      simp [ServersModel.edit, List.getElem?_eq_getElem hlt]
    rw [hedited, ← hserver, or_iff_right fun h => h new hwrites]
    exact samePresentation_iff update (hbody new hwrites.read).2.1

end Refresh

/-- A server of the gateway with a name and a description, in a list. -/
def namedList (renamed : Bool) : ServersModel :=
  .resetModel [ofMembers [("config_version", .double 2), ("name", .string "mine"),
    ("description", .string "d"), ("nameOverriddenByUser", .bool renamed)]] 0

/-- A refresh of the server. -/
def namedUpdate (renamed : Bool) : GatewayConfigUpdate :=
  namelessKit.prepareGatewayConfigUpdate ((namedList renamed).getServerConfig 0) 0 "" "" false true
    ⟨"", "", ""⟩

/-- A server that was not renamed keeps its description. -/
theorem refresh_keeps_presentation_plain : ∃ m',
    (namedList false).finishGatewayConfigUpdate namelessKit (namedUpdate false) (.ok "r") =
      some m' ∧ SamePresentation ((namedList false).getServerConfig 0) (m'.getServerConfig 0) := by
  obtain ⟨m', hm'⟩ := isSome_iff_exists.mp (show ((namedList false).finishGatewayConfigUpdate
    namelessKit (namedUpdate false) (.ok "r")).isSome = true by decide +kernel)
  refine ⟨m', hm', (refresh_keeps_presentation_iff rfl (fun new hnew => ?_) hm').mpr
    (.inr (.inl (by decide +kernel)))⟩
  obtain rfl := Except.ok.inj hnew
  exact ⟨by decide +kernel, by decide +kernel, by decide +kernel⟩

/-- The description of a renamed server is lost. -/
theorem refresh_loses_description :
    isRenamed ((namedList true).getServerConfig 0) = true ∧
      ((namedList true).getServerConfig 0).textAt "description" = "d" ∧
      ((namedList true).finishGatewayConfigUpdate namelessKit (namedUpdate true) (.ok "r")).map
        (fun m' => ((m'.getServerConfig 0).textAt "name",
          (m'.getServerConfig 0).contains "description")) = some ("mine", false) := by
  decide +kernel

end Dopamine.Client
