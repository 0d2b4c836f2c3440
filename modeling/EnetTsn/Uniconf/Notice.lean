import EnetTsn.Library.SortedMap
import EnetTsn.Uniconf.KeyCodec
import EnetTsn.Uniconf.KeySearch
import EnetTsn.Uniconf.YangValue

/-!
Notices from uniconf to its clients: `uc_notice.c`. Registrations and pending notices are items
of the database, and the name of a semaphore stands at the end of their keys.
-/

namespace EnetTsn.Uniconf

open EnetTsn.Library

def xl4DataRo : UInt8 := 0x80

def ucAskactionReg : UInt8 := 2

def ucNoticeReg : UInt8 := 3

def ucNoticeAct : UInt8 := 4

def ucStaticWork : UInt8 := 14

def ucStaticActregDeleting : UInt8 := 1

def ucAskactionNohw : UInt8 := 1

def ucNoticeDbvalAdd : UInt8 := 0

def ucNoticeDbvalDel : UInt8 := 1

def keyBefore (kd1 kd2 : List UInt8) : Prop := keycmp kd1 kd2 < 0

instance : DecidableRel keyBefore :=
  fun kd1 kd2 => inferInstanceAs (Decidable (keycmp kd1 kd2 < 0))

instance : IsStrictTotalOrder (List UInt8) keyBefore where
  trichotomous kd1 kd2 notBelow notAbove := by
    apply keycmp_eq_zero.mp
    have above := mt keycmp_swap.mp notAbove
    rw [keyBefore] at notBelow
    omega
  irrefl kd below := by
    rw [keyBefore, keycmp_eq_zero.mpr rfl] at below
    omega
  trans _ _ _ := keycmp_trans

abbrev NoticeDb := SortedMap keyBefore (List UInt8)

structure NodePath where
  nodes : List UInt8
  clean : apter ∉ nodes
  deriving DecidableEq

/-- What there is room for during a call: the range, the copy of a key, an item with a new key,
and a semaphore with a name, which is opened and has a place in the list. -/
structure NoticeRoom where
  range : Bool
  copy : Bool
  item : List UInt8 → Bool
  semaphore : List UInt8 → Bool

structure PutnoticeData where
  semname : List UInt8
  actcounter : Int
  refcounter : Int
  deriving DecidableEq

/-- The actions of `putnotice_action_t` that change the list. -/
inductive PutnoticeAction where
  | incAdd
  | decDelete
  | forceDelete
  deriving DecidableEq

inductive NoticeRegisterValue where
  | add
  | del
  deriving DecidableEq

def NoticeRegisterValue.octet : NoticeRegisterValue → UInt8
  | .add => ucNoticeDbvalAdd
  | .del => ucNoticeDbvalDel

structure UcNoticeData where
  db : NoticeDb
  putnoticeList : List PutnoticeData

/-- What a call returns: its result, the key of a notice, and the semaphores that are posted. -/
structure NoticeAnswer where
  res : Int
  key : List UInt8 := []
  posted : List (List UInt8) := []

section Semaphores

variable (action : PutnoticeAction) (semname : List UInt8)

/-- The loop of `find_semname_in_putnoticelist`. The element behind one that is deleted takes its
place, and is not compared. -/
def findSemnameLoop : Bool → List PutnoticeData → Int × List PutnoticeData
  | _, [] => (1, [])
  | true, skipped :: rest =>
    let (res, others) := findSemnameLoop false rest
    (res, skipped :: others)
  | false, pnd :: rest =>
    if pnd.semname = semname then
      let counted : PutnoticeData := { pnd with
        refcounter := if action = .incAdd then pnd.refcounter + 1 else pnd.refcounter - 1 }
      if action = .forceDelete ∨ action = .decDelete ∧ counted.refcounter = 0 then
        (0, (findSemnameLoop true rest).2)
      else (0, counted :: (findSemnameLoop false rest).2)
    else
      let (res, others) := findSemnameLoop false rest
      (res, pnd :: others)

def findSemnameInPutnoticelist (list : List PutnoticeData) : Int × List PutnoticeData :=
  let (res, after) := findSemnameLoop action semname false list
  (if res = 1 ∧ action = .incAdd then 2 else res, after)

def changeFirst (change : PutnoticeData → PutnoticeData) :
    List PutnoticeData → List PutnoticeData
  | [] => []
  | pnd :: rest => if pnd.semname = semname then change pnd :: rest else pnd :: changeFirst change rest

def incremantActcounter (fromthread : Bool) (room : NoticeRoom) (list : List PutnoticeData) :
    Int × List PutnoticeData :=
  if ∃ pnd ∈ list, pnd.semname = semname then
    (0, changeFirst semname (fun pnd => { pnd with actcounter := pnd.actcounter + 1 }) list)
  else if fromthread then (-1, list)
  else if room.semaphore semname then
    (0, list ++ [{ semname := semname, actcounter := 1, refcounter := 1 }])
  else (-2, list)

def nuIncrementRefcounter (list : List PutnoticeData) : List PutnoticeData :=
  changeFirst semname (fun pnd => { pnd with refcounter := pnd.refcounter + 1 }) list

def nuClearRefcounter (list : List PutnoticeData) : List PutnoticeData :=
  list.map fun pnd => { pnd with refcounter := 0 }

/-- `proc_refactcounter`, with the semaphores that it posts. -/
def procRefactcounter (list : List PutnoticeData) : List PutnoticeData × List (List UInt8) :=
  let kept := list.filter fun pnd => pnd.refcounter ≠ 0
  (kept.map fun pnd => { pnd with actcounter := 0 },
    (kept.filter fun pnd => pnd.actcounter ≠ 0).map PutnoticeData.semname)

end Semaphores

section Database

variable (room : NoticeRoom) (db : NoticeDb)

namespace NoticeRoom

/-- `uc_get_range` from an area of the store to the next one. -/
def ucGetRange (area : UInt8) : Option (Cursor (List UInt8)) :=
  if room.range then db.openRange [xl4DataRo, area] [xl4DataRo, area + 1] else none

/-- `uc_dbal_create`. A value that keeps its size needs no memory. -/
def ucDbalCreate (key value : List UInt8) : Int × NoticeDb :=
  if (db.find key).any (fun old => old.length = value.length) || room.item key then
    (0, db.put key value)
  else (-1, db)

/-- `yang_db_action` when it creates an item in an area. -/
def yangDbActionCreate (area : UInt8) (aps : NodePath) (kvs : List ValueKey) (value : List UInt8) :
    Option (Int × NoticeDb) := do
  let key ← yangDbCreateKey (some [xl4DataRo, area, apter]) (some (aps.nodes ++ [apter])) kvs
  if key = [] then some (-1, db) else some (room.ucDbalCreate db key value)

end NoticeRoom

def deletingKey : List UInt8 := [xl4DataRo, ucStaticWork, ucStaticActregDeleting]

def noticeKsize (nkey : List UInt8) (size : UInt8) : Nat :=
  (((nkey.length : Int) - 2 - size.toNat - 1) % 2 ^ 32).toNat

end Database

section Clients

variable (room : NoticeRoom)

def semnameOf (kvs : List ValueKey) : Option (List UInt8) := do
  let last ← kvs.getLast?
  let semname := last.octets.takeWhile (· ≠ 0)
  if semname.length + 1 = last.octets.length then some semname else none

def ucNcNoticeRegister (ucntd : UcNoticeData) (aps : NodePath) (kvs : List ValueKey)
    (regval : NoticeRegisterValue) : Option (NoticeAnswer × UcNoticeData) :=
  match semnameOf kvs with
  | none => some ({ res := -1 }, ucntd)
  | some semname => do
    let action := match regval with
      | .add => PutnoticeAction.incAdd
      | .del => PutnoticeAction.decDelete
    let (res, list) := findSemnameInPutnoticelist action semname ucntd.putnoticeList
    if res ≠ 0 ∧ res ≠ 2 then some ({ res := -1 }, { ucntd with putnoticeList := list })
    else
      let (_, db) ← room.yangDbActionCreate ucntd.db ucNoticeReg aps kvs [regval.octet]
      match regval with
      | .add =>
        let created := if res = 2 ∧ room.semaphore semname then
          [{ semname := semname, actcounter := 0, refcounter := 1 : PutnoticeData }] else []
        some ({ res := 0 }, { db := db, putnoticeList := list ++ created })
      | .del =>
        let (_, asked) ← room.yangDbActionCreate db ucAskactionReg aps kvs [ucAskactionNohw]
        some ({ res := 0 }, { db := asked, putnoticeList := list })

def endsWithSemname (semname nkey : List UInt8) : Bool :=
  decide (semname.length + 2 < nkey.length) &&
    decide ((nkey[nkey.length - (semname.length + 2)]?).map UInt8.toNat =
      some (semname.length + 1)) &&
    decide ((nkey.drop (nkey.length - (semname.length + 1))).take semname.length = semname)

/-- The loop of `find_delete_semname_in_db`: its result and the database; none if it does not
end. -/
def deleteSemnameLoop (semname : List UInt8) :
    Nat → NoticeDb → Cursor (List UInt8) → Bool → Int → Option (Int × NoticeDb)
  | 0, _, _, _, _ => none
  | fuel + 1, db, range, firstDel, count =>
    match db.item range with
    | none => some (count, db)
    | some (nkey, vdata) =>
      if endsWithSemname semname nkey ∧ vdata = [ucNoticeDbvalAdd] then
        let (_, marked) := room.ucDbalCreate db nkey [ucNoticeDbvalDel]
        if firstDel = false then
          deleteSemnameLoop semname fuel marked (db.forward range) false (count + 1)
        else if room.copy = false then some (-1, marked)
        else
          -- the first one that is deleted asks uniconf for an action
          let (_, deleting) := room.ucDbalCreate marked deletingKey [0]
          let (_, asked) := room.ucDbalCreate deleting (nkey.set 1 ucAskactionReg) [ucAskactionNohw]
          deleteSemnameLoop semname fuel asked (db.forward range) false (count + 1)
      else deleteSemnameLoop semname fuel db (db.forward range) firstDel count

/-- `find_delete_semname_in_db`, when it deletes. -/
def findDeleteSemnameInDb (db : NoticeDb) (semname : List UInt8) : Option (Int × NoticeDb) :=
  match room.ucGetRange db ucNoticeReg with
  | none => some (-1, db)
  | some range => deleteSemnameLoop room semname (db.entries.length + 1) db range true 0

def ucNcNoticeDeregisterAll (ucntd : UcNoticeData) (semname : List UInt8) :
    Option (NoticeAnswer × UcNoticeData) := do
  let (_, list) := findSemnameInPutnoticelist .forceDelete semname ucntd.putnoticeList
  let (_, db) ← findDeleteSemnameInDb room ucntd.db semname
  some ({ res := 0 }, { db := db, putnoticeList := list })

/-- The loop of `uc_nc_get_notice_act`: the key that it finds, and where the name is in it; none
if it does not end or reads behind a key. -/
def getNoticeActLoop (semname : List UInt8) :
    Nat → NoticeDb → Cursor (List UInt8) → Option (Option (List UInt8 × Nat))
  | 0, _, _ => none
  | fuel + 1, db, range =>
    match db.item range with
    | none => some none
    | some (nkey, _) => do
      match ← yangDbKeyBottomp nkey with
      | none => getNoticeActLoop semname fuel db (db.forward range)
      | some place =>
        if (← cString (nkey.drop (place + 1))) = semname then some (some (nkey, place))
        else getNoticeActLoop semname fuel db (db.forward range)

def ucNcGetNoticeAct (db : NoticeDb) (semname : List UInt8) : Option (NoticeAnswer × NoticeDb) :=
  match room.ucGetRange db ucNoticeAct with
  | none => some ({ res := 1 }, db)
  | some range => do
    match ← getNoticeActLoop semname (db.entries.length + 1) db range with
    | none => some ({ res := -1 }, db)
    | some (nkey, place) =>
      let ksize := noticeKsize nkey (nkey.getD place 0)
      if ucMaxKeysize < ksize then some ({ res := -1 }, db)
      else some ({ res := 0, key := (nkey.drop 2).take ksize }, db.erase nkey)

end Clients

section Push

variable (fromthread : Bool) (room : NoticeRoom) (actkey : List UInt8)

/-- The variables of the loop of `uc_nu_putnotice_push`. -/
structure Pushing where
  db : NoticeDb
  list : List PutnoticeData
  range : Cursor (List UInt8)
  action : UInt8
  delhappen : Bool
  res : Int

def pushItem (pushing : Pushing) (nkey : List UInt8) (place : Nat) : Option (Pushing × Bool) := do
  let csize := noticeKsize nkey (nkey.getD place 0)
  if ucMaxKeysize < nkey.length then some (pushing, true)
  else
    let semname ← cString (nkey.drop (place + 1))
    let counted := { pushing with list := nuIncrementRefcounter semname pushing.list }
    if csize ≤ actkey.length ∧ (nkey.drop 2).take csize = actkey.take csize then
      let (_, db) := room.ucDbalCreate counted.db (nkey.set 1 ucNoticeAct) [0]
      let (res, list) := incremantActcounter semname fromthread room counted.list
      if res = -2 then
        some ({ counted with
          db := db.erase nkey
          list := list
          range := db.forward counted.range
          action := 0xff
          res := res }, false)
      else some ({ counted with db := db, list := list, res := res }, false)
    else some (counted, false)

/-- The loop of `uc_nu_putnotice_push`, and whether it is left by the error exit; none if it does
not end or reads behind a key. -/
def pushLoop : Nat → Pushing → Option (Pushing × Bool)
  | 0, _ => none
  | fuel + 1, pushing =>
    let range := if pushing.action ≠ 0xff then pushing.db.forward pushing.range else pushing.range
    let moved := { pushing with range := range }
    match moved.db.item range with
    | none => some (moved, false)
    | some (nkey, vdata) =>
      match vdata with
      | [action] => do
        match ← yangDbKeyBottomp nkey with
        | none => pushLoop fuel { moved with action := action }
        | some place =>
          if action = ucNoticeDbvalDel then
            pushLoop fuel { moved with
              db := moved.db.erase nkey
              range := moved.db.forward range
              action := 0xff
              delhappen := true }
          else
            let (next, failed) ← pushItem fromthread room actkey { moved with action := action }
              nkey place
            if failed then some (next, true) else pushLoop fuel next
      | _ => some (moved, false)

def ucNuPutnoticePush (ucntd : UcNoticeData) (aps : NodePath) (kvs : List ValueKey) :
    Option (NoticeAnswer × UcNoticeData) :=
  match room.ucGetRange ucntd.db ucNoticeReg with
  | none => some ({ res := 0 }, ucntd)
  | some range => do
    let actkey ← yangDbCreateKey none (some (aps.nodes ++ [apter])) kvs
    let start : Pushing :=
      { db := ucntd.db
        list := nuClearRefcounter ucntd.putnoticeList
        range := range
        action := 0xff
        delhappen := false
        res := -1 }
    let (pushed, failed) ← if actkey = [] then some (start, false)
      else pushLoop fromthread room actkey (ucntd.db.entries.length + 1) start
    let db := if pushed.delhappen then pushed.db.erase deletingKey else pushed.db
    if failed then some ({ res := pushed.res }, { db := db, putnoticeList := pushed.list })
    else
      let (list, posted) := procRefactcounter pushed.list
      some ({ res := 0, posted := posted }, { db := db, putnoticeList := list })

end Push

end EnetTsn.Uniconf
