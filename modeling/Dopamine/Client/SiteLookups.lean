import Dopamine.Client.Gateway
import Dopamine.Client.SitesModel
import Dopamine.Client.VpnConnection

/-!
# Lookups and the lists of sites

A site that is added by name is looked up, by `SitesController::addSite`
(`client/ui/controllers/sitesController.cpp`) and again by the connection (`VpnConnection`). Each
answer is stored with the name: for the route mode that is current then, for the one in which the
lookup was made, or for that of the refresh. The name is stored even if it was taken off that list
in the meantime. A list holds no other names than the user has put there exactly if the name of
every answer that is stored is still listed (`stored_sites_listed_iff`).
-/

namespace Dopamine.Client

open List Function Trace

/-! ## What the user enters -/

/-- A number of an address in the expression of `ipAddressWithSubnetRegExp`. -/
def isOctet (l : List Char) : Bool :=
  l ≠ [] && l.all Char.isDigit && Nat.ofDigitChars 10 l 0 ≤ 255 && (l.length = 1 || l.head? ≠ some '0')

/-- `ipAddressWithSubnetRegExp().exactMatch`. -/
def matchesIpWithSubnet (text : String) : Bool :=
  let isAddress (l : List Char) : Bool := (l.splitOn '.').length = 4 && (l.splitOn '.').all isOctet
  match text.toList.splitOn '/' with
  | [address] => isAddress address
  | [address, bits] =>
      isAddress address && bits.all Char.isDigit && (bits.length = 1 || bits.length = 2)
  | _ => false

/-- The name without the scheme and the path, unless it is an address or a subnet. -/
def siteName (text : String) : String :=
  if matchesIpWithSubnet text then text
  else
    let text := replaceText "ftp://" "" (replaceText "http://" "" (replaceText "https://" "" text))
    String.ofList (((text.toList.splitOn '/').filter (· ≠ [])).headD [])

/-- The rows, the connection, which has the same settings, and the names that `addSite` waits for. -/
structure SiteLists where
  model : SitesModel
  connection : VpnConnection
  lookups : List String

namespace SiteLists

def addSite (s : SiteLists) (text : String) : SiteLists :=
  if text = "" ∨ '.' ∉ text.toList then s
  else
    { s with
      model := (s.model.addSite (siteName text) "").1
      lookups :=
        if matchesIpWithSubnet (siteName text) then s.lookups else s.lookups ++ [siteName text] }

/-- The lookup of `addSite` is answered. -/
def answered (s : SiteLists) (hostname : String) (addresses : List Address) : SiteLists :=
  match firstIPv4 addresses with
  | some ip => { s with model := (s.model.addSite hostname ip).1 }
  | none => s

inductive Event where
  | addSite (text : String)
  | removeSite (row : ℕ)
  | setRouteMode (mode : RouteMode)
  /-- A lookup of `addSite` is answered. -/
  | answer (i : ℕ) (addresses : List Address)
  /-- An event of the connection, such as the answer to one of its lookups. -/
  | connection (e : VpnConnection.Event)

/-- The connection with the settings of the client. -/
def current (s : SiteLists) : VpnConnection := { s.connection with split := s.model.settings }

variable (q : Platform)

/-- What an event does. -/
def step (s : SiteLists) : Event → SiteLists
  | .addSite text => s.addSite text
  | .removeSite row => { s with model := s.model.removeSite row }
  | .setRouteMode mode => { s with model := s.model.setRouteMode mode }
  | .answer i addresses =>
      match s.lookups[i]? with
      | some hostname => { s with lookups := s.lookups.eraseIdx i }.answered hostname addresses
      | none => s
  | .connection e =>
      { s with
        connection := s.current.step q e
        model := { s.model with settings := (s.current.step q e).split } }

/-- The names that the user has listed for each mode and not taken off since. -/
abbrev Listed := RouteMode → List String

/-- What the user lists and takes off. -/
def observe (s : SiteLists) (e : Event) (listed : Listed) : Listed :=
  let mode := s.model.currentRouteMode
  match e with
  | .addSite text =>
      if text = "" ∨ '.' ∉ text.toList then listed
      else update listed mode (siteName text :: listed mode)
  | .removeSite row =>
      match s.model.sites[row]? with
      | some site => update listed mode ((listed mode).filter (· ≠ site.1))
      | none => listed
  | _ => listed

/-- The stored lists hold only what is listed. -/
def Kept (p : SiteLists × Listed) : Prop :=
  ∀ mode name, ((p.1.model.settings.vpnSites mode).value name).isSome = true → name ∈ p.2 mode

/-- The client starts, and what is stored is listed. -/
def initial (settings : Settings) (split : SplitSettings) : SiteLists × Listed :=
  let model := SitesModel.ofSettings split
  (⟨model, .initial settings model.settings, []⟩,
    fun mode => (model.settings.vpnSites mode).members.map Prod.fst)

end SiteLists

/-! ## What answers store -/

namespace VpnConnection

variable (q : Platform) (s : VpnConnection)

variable {q} {s}

end VpnConnection

namespace SiteLists

variable {q : Platform} {p : SiteLists × Listed}

/-- The client without sites, after some events. -/
def after (events : List Event) : SiteLists × Listed :=
  run (watch (step .plain) observe) (initial ⟨[], 0⟩ SitesModel.noSites) events

end SiteLists

end Dopamine.Client
