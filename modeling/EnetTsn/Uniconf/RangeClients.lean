import EnetTsn.Uniconf.Ranges
import EnetTsn.Uniconf.SimpledbRuns

namespace EnetTsn.Uniconf

open EnetTsn.Library

structure SimpledbRange (ν : Type) where
  n1 : Option ν
  n2 : Option ν
  np : Option ν
  deriving DecidableEq

/-- `UC_DBAL_FORWARD`, `UC_DBAL_NOMOVE` and `UC_DBAL_BACKWARD`. -/
inductive Direction where
  | forward
  | nomove
  | backward
  deriving DecidableEq

variable {ν : Type} [DecidableEq ν]

namespace Simpledb

/-- `simpledb_get_range`, with memory for the range or without. -/
def simpledbGetRange (db : Simpledb ν) (krange : KeyRange) (granted : Bool) :
    Option (Option (SimpledbRange ν)) :=
  if granted = false then some none
  else (db.getRange krange).map fun ends => ends.map fun (n1, n2) =>
    { n1 := some n1, n2 := some n2, np := some n1 }

def moveInRange (db : Simpledb ν) (rangedp : SimpledbRange ν) (np : ν) (direction : Direction) :
    Option (SimpledbRange ν) :=
  match direction with
  | .forward =>
    if rangedp.n2 = some np then some { rangedp with np := none }
    else (db.heap np).map fun links => { rangedp with np := links.next }
  | .backward =>
    if rangedp.n1 = some np then some { rangedp with np := none }
    else (db.heap np).map fun links => { rangedp with np := links.prev }
  | .nomove => some rangedp

/-- `simpledb_get_from_range`: the item at the node of the range, and the range after its move. -/
def simpledbGetFromRange (db : Simpledb ν) (rangedp : Option (SimpledbRange ν))
    (direction : Direction) : Option (Option (SimpledbRange ν × Dbdata)) :=
  match rangedp with
  | none => some none
  | some range =>
    match range.np with
    | none => some none
    | some np => do
      let dbd ← db.data np
      let moved ← db.moveInRange range np direction
      some (some (moved, dbd))

/-- The range of `simpledb_del_in_range` when the node it stands on goes. -/
def rangeWithout (rangedp : SimpledbRange ν) (dnp : ν) (links : Links ν) (direction : Direction) :
    SimpledbRange ν :=
  if rangedp.n1 = some dnp ∧ rangedp.n2 = some dnp then { n1 := none, n2 := none, np := none }
  else if rangedp.n2 = some dnp then { rangedp with
    n2 := links.prev
    np := if direction = .forward then none else links.prev }
  else if rangedp.n1 = some dnp then { rangedp with
    n1 := links.next
    np := if direction = .forward then links.next else none }
  else { rangedp with np := if direction = .forward then links.next else links.prev }

def simpledbDelInRange (db : Simpledb ν) (rangedp : SimpledbRange ν) (direction : Direction) :
    Option (Simpledb ν × SimpledbRange ν × Int) :=
  if direction = .nomove then some (db, rangedp, -1)
  else
    match rangedp.np with
    | none => some (db, rangedp, -1)
    | some dnp => do
      let dbd ← db.data dnp
      if 0 < dbd.refcounter then some (db, rangedp, -1)
      else
        let links ← db.heap dnp
        let unlinked ← db.dblist.unlink db.heap dnp
        some (db.without dnp unlinked, rangeWithout rangedp dnp links direction, 0)

def keys (db : Simpledb ν) : List (List UInt8) := db.nodes.map db.key

end Simpledb

/-- A range that a client goes through, the keys that it was given, and the keys of the range
that have been present all the time. -/
structure Iteration (ν : Type) where
  keyrange : KeyRange
  rangedp : Option (SimpledbRange ν)
  returned : List (List UInt8)
  throughout : List (List UInt8)

def Iteration.np (iteration : Iteration ν) : Option ν := iteration.rangedp.bind SimpledbRange.np

structure Clients (ν : Type) where
  db : Simpledb ν
  iteration : Option (Iteration ν)
  other : Option (SimpledbRange ν)

inductive Sharing (ν : Type) where
  | intact (clients : Clients ν)
  | corrupted

/-- What the clients do: one starts an iteration and takes its next item, and the other one has
a range of its own and moves, deletes and ends in it. Either one may make the calls for single
keys. -/
inductive ClientEvent (ν : Type) where
  | getRange (krange : KeyRange) (granted : Bool)
  | getFromRange
  | call (event : DbEvent ν)
  | otherGetRange (krange : KeyRange) (granted : Bool)
  | otherGetFromRange (direction : Direction)
  | delInRange (direction : Direction)
  | otherGetRangeRelease

namespace Clients

def withDb (clients : Clients ν) (db : Simpledb ν) : Clients ν :=
  { clients with
    db := db
    iteration := clients.iteration.map fun iteration => { iteration with
      throughout := iteration.throughout.filter fun kd => kd ∈ db.keys } }

def started (clients : Clients ν) (krange : KeyRange) (granted : Bool) : Option (Clients ν) :=
  (clients.db.simpledbGetRange krange granted).map fun rangedp => { clients with
    iteration :=
      if granted then some {
        keyrange := krange
        rangedp := rangedp
        returned := []
        throughout := clients.db.keys.filter krange.contains }
      else none }

def advanced (clients : Clients ν) (iteration : Iteration ν) : Option (Clients ν) :=
  (clients.db.simpledbGetFromRange iteration.rangedp .forward).map fun
    | none => clients
    | some (moved, dbd) => { clients with
      iteration := some { iteration with
        rangedp := some moved
        returned := iteration.returned ++ [dbd.kd] } }

def after (clients : Clients ν) : ClientEvent ν → Option (Clients ν)
  | .getRange krange granted => clients.started krange granted
  | .getFromRange =>
    match clients.iteration with
    | none => some clients
    | some iteration => clients.advanced iteration
  | .call event => (clients.db.call event).map fun (db, _) => clients.withDb db
  | .otherGetRange krange granted => (clients.db.simpledbGetRange krange granted).map fun rangedp =>
      { clients with other := rangedp }
  | .otherGetFromRange direction =>
      (clients.db.simpledbGetFromRange clients.other direction).map fun
        | none => clients
        | some (moved, _) => { clients with other := some moved }
  | .delInRange direction =>
    match clients.other with
    | none => some clients
    | some rangedp => (clients.db.simpledbDelInRange rangedp direction).map fun (db, moved, _) =>
        { clients.withDb db with other := some moved }
  | .otherGetRangeRelease => some { clients with other := none }

def fresh (clients : Clients ν) : ClientEvent ν → Bool
  | .call event => clients.db.fresh event
  | _ => true

end Clients

def rangeSystem : System (Sharing ν) (ClientEvent ν) where
  start := .intact { db := emptyDb, iteration := none, other := none }
  step outcome event :=
    match outcome with
    | .corrupted => none
    | .intact clients =>
      if clients.fresh event then some ((clients.after event).elim .corrupted .intact) else none

end EnetTsn.Uniconf
