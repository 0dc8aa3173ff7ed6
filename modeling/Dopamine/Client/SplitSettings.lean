import Dopamine.Client.NetworkUtilities
import Dopamine.Maps.SortedMap
import Mathlib.Data.String.Basic

/-!
# The sites of split tunneling

The settings of split tunneling by sites (`client/settings.h`, `client/settings.cpp`). A site is an
address, a subnet or a name. A name is stored with the address it had when it was last looked up.
-/

namespace Dopamine.Client

inductive RouteMode where
  | vpnAllSites
  | vpnOnlyForwardSites
  | vpnAllExceptSites
deriving DecidableEq

/-- A list of sites: the names and the addresses that were found for them. -/
abbrev SiteMap := Maps.SortedMap String String

/-- The settings of split tunneling by sites. -/
structure SplitSettings where
  isSitesSplitTunnelingEnabled : Bool
  routeMode : RouteMode
  vpnSites : RouteMode → SiteMap

namespace SplitSettings

def setVpnSites (s : SplitSettings) (mode : RouteMode) (sites : SiteMap) : SplitSettings :=
  { s with vpnSites := Function.update s.vpnSites mode sites }

def addVpnSite (s : SplitSettings) (mode : RouteMode) (site ip : String) : SplitSettings :=
  if ((s.vpnSites mode).value site).isSome ∧ ip = "" then s
  else s.setVpnSites mode ((s.vpnSites mode).set site (some ip))

variable (q : Platform)

/-- The addresses and subnets of a list of sites. A name counts with the address that is stored for
it. -/
def siteIps (sites : SiteMap) : List String :=
  (sites.members.filterMap fun site =>
    if NetworkUtilities.checkIpSubnetFormat q site.1 then some site.1
    else if NetworkUtilities.checkIpSubnetFormat q site.2 then some site.2
    else none).eraseDups

def siteNames (sites : SiteMap) : List String :=
  (sites.members.map Prod.fst).filter fun site => !NetworkUtilities.checkIpSubnetFormat q site

def getVpnIps (s : SplitSettings) (mode : RouteMode) : List String := siteIps q (s.vpnSites mode)

end SplitSettings

end Dopamine.Client
