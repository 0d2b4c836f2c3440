import EnetTsn.Library.Loop
import EnetTsn.Library.Run
import Mathlib.Algebra.Ring.Nat
import Mathlib.Logic.Function.Basic

/-!
`asCapable` and the disjunction of it that a domain keeps, `asCapableOrAll`, in the handlers
of `gptpman.c`. What the machines of a port leave in the variables that decide on
`asCapable` is whatever an event says.
-/

namespace EnetTsn.Daemon

open EnetTsn.Library

structure DomainPort where
  asCapable : Bool
  neighborGptpCapable : Bool
  deriving DecidableEq, Repr

structure PortLink where
  asCapableAcrossDomains : Bool
  /-- `is2011BackwardCompatible` of the requesting and of the responding machine. -/
  reqIs2011 : Bool
  respIs2011 : Bool
  deriving DecidableEq, Repr

/-- `CB_DUPLEX`. -/
inductive Duplex where
  | full
  | half
  | unknown
  deriving DecidableEq, Repr

structure Domain where
  asCapableOrAll : Bool
  ports : Nat → DomainPort

/-- The domains and ports of `gptpman_data`, and what each run of `gm_stable_sm` so far found:
the kept disjunction, and the disjunction at that moment. -/
structure Gptpman where
  maxDomains : Nat
  maxPorts : Nat
  domains : Nat → Domain
  links : Nat → PortLink
  gmStableRuns : List (Bool × Bool)

def isRxPdelayMsgAre2011Compatible (di : Nat) (link : PortLink) : Bool :=
  di == 0 && (link.reqIs2011 && link.respIs2011)

/-- The condition of `set_asCapable`. -/
def capable (di : Nat) (link : PortLink) (port : DomainPort) : Bool :=
  link.asCapableAcrossDomains &&
    (port.neighborGptpCapable || isRxPdelayMsgAre2011Compatible di link)

def portIndices (maxPorts : Nat) : List Nat := List.range' 1 (maxPorts - 1)

def Domain.setPort (pi : Nat) (port : DomainPort) (domain : Domain) : Domain :=
  { domain with ports := Function.update domain.ports pi port }

/-- `set_asCapable`, and the disjunction with the kept one that follows it. -/
def Domain.setAsCapable (di pi : Nat) (link : PortLink) (domain : Domain) : Domain :=
  let port := { domain.ports pi with asCapable := capable di link (domain.ports pi) }
  { domain.setPort pi port with asCapableOrAll := domain.asCapableOrAll || port.asCapable }

def Domain.anyCapable (maxPorts : Nat) (domain : Domain) : Bool :=
  (portIndices maxPorts).any fun pi => (domain.ports pi).asCapable

namespace Gptpman

/-- What `gptpman_domain_init` leaves; a port that has received nothing counts as one of the
2011 edition. -/
def init (maxDomains maxPorts : Nat) : Gptpman where
  maxDomains := maxDomains
  maxPorts := maxPorts
  domains _ :=
    { asCapableOrAll := false
      ports := fun _ => { asCapable := false, neighborGptpCapable := false } }
  links _ := { asCapableAcrossDomains := false, reqIs2011 := true, respIs2011 := true }
  gmStableRuns := []

def setDomain (di : Nat) (domain : Domain) (gpmand : Gptpman) : Gptpman :=
  { gpmand with domains := Function.update gpmand.domains di domain }

/-- `gm_stable_sm` finds the flag as it is. -/
def gmStableSm (di : Nat) (gpmand : Gptpman) : Gptpman :=
  let domain := gpmand.domains di
  { gpmand with gmStableRuns :=
      gpmand.gmStableRuns ++ [(domain.asCapableOrAll, domain.anyCapable gpmand.maxPorts)] }

/-- `sm_bmcs_perform`: after a change of the grandmaster `gm_stable_gm_change` runs the
machine. -/
def smBmcsPerform (gmChange : Bool) (di : Nat) (gpmand : Gptpman) : Gptpman :=
  if gmChange then gpmand.gmStableSm di else gpmand

def forAllDomains (change : Nat → Domain → Domain) (gpmand : Gptpman) : Gptpman :=
  { gpmand with
    domains := fun di =>
      if di < gpmand.maxDomains then change di (gpmand.domains di) else gpmand.domains di }

/-- `update_asCapable_for_all`: only the flag of one domain is cleared before. -/
def updateAsCapableForAll (domainIndex pi : Nat) (gpmand : Gptpman) : Gptpman :=
  gpmand.forAllDomains fun di domain =>
    (if di = domainIndex then { domain with asCapableOrAll := false } else domain).setAsCapable
      di pi (gpmand.links pi)

/-- One domain in `gptpnet_cb_devup`; the index in it is not 0 for any other domain. -/
def devupDomain (pi : Nat) (gmChange : Nat → Bool) (gpmand : Gptpman) (di : Nat) : Gptpman :=
  (gpmand.updateAsCapableForAll di pi).smBmcsPerform (gmChange di) di

def gptpnetCbDevup (pi : Nat) (duplex : Duplex) (speed : UInt32) (gmChange : Nat → Bool)
    (gpmand : Gptpman) : Gptpman :=
  if duplex = .full ∧ 100 ≤ speed then
    (List.range gpmand.maxDomains).foldl (devupDomain pi gmChange) gpmand
  else gpmand

def setLink (pi : Nat) (link : PortLink) (gpmand : Gptpman) : Gptpman :=
  { gpmand with links := Function.update gpmand.links pi link }

/-- `gptpnet_cb_devdown`: the flags stay as they are. -/
def gptpnetCbDevdown (pi : Nat) (gpmand : Gptpman) : Gptpman :=
  (gpmand.setLink pi { gpmand.links pi with asCapableAcrossDomains := false }).forAllDomains
    fun _ domain => domain.setPort pi { domain.ports pi with asCapable := false }

/-- What the machines leave in a tick: the pdelay machines of all ports run first. -/
structure Tick where
  links : Nat → PortLink
  neighborGptpCapable : Nat → Nat → Bool
  gmChange : Nat → Nat → Bool

/-- One port of a domain in `gptpnet_cb_timeout`. -/
def timeoutPort (tick : Tick) (di : Nat) (gpmand : Gptpman) (pi : Nat) : Gptpman :=
  let domain := (gpmand.domains di).setAsCapable di pi (gpmand.links pi)
  let received := domain.setPort pi
    { domain.ports pi with neighborGptpCapable := tick.neighborGptpCapable di pi }
  (gpmand.setDomain di received).smBmcsPerform (tick.gmChange di pi) di

/-- One domain in `gptpnet_cb_timeout`. -/
def timeoutDomain (tick : Tick) (gpmand : Gptpman) (di : Nat) : Gptpman :=
  ((portIndices gpmand.maxPorts).foldl (timeoutPort tick di)
    (gpmand.setDomain di { gpmand.domains di with asCapableOrAll := false })).gmStableSm di

def gptpnetCbTimeout (tick : Tick) (gpmand : Gptpman) : Gptpman :=
  (List.range gpmand.maxDomains).foldl (timeoutDomain tick) { gpmand with links := tick.links }

/-- `gptpnet_cb_recv` of a Pdelay_Resp or a Pdelay_Resp_Follow_Up. -/
def recvPdelayResp (pi : Nat) (link : PortLink) (gpmand : Gptpman) : Gptpman :=
  (gpmand.setLink pi link).updateAsCapableForAll 0 pi

/-- Any other message, and a transmit timestamp: the machines change their variables and
nothing is updated. -/
def recvOther (di pi : Nat) (link : PortLink) (neighborGptpCapable gmChange : Bool)
    (gpmand : Gptpman) : Gptpman :=
  let domain := gpmand.domains di
  ((gpmand.setLink pi link).setDomain di
    (domain.setPort pi { domain.ports pi with
      neighborGptpCapable := neighborGptpCapable })).smBmcsPerform gmChange di

end Gptpman

end EnetTsn.Daemon
