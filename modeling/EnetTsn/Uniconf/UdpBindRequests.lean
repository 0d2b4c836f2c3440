import EnetTsn.Uniconf.BinconfRoundTrip
import EnetTsn.Uniconf.BinconfSafety
import EnetTsn.Uniconf.UdpBind

namespace EnetTsn.Uniconf

open EnetTsn.Library

def Header.write (head : Header) (key value : List UInt8) : Write :=
  if head.vsize = 0 then .del key
  else if vsizeAppend head.vsize then .append key value
  else .create key value

def Header.value (head : Header) (octets : List UInt8) : List UInt8 :=
  (octets.drop head.valueAt).take (vsizeSize head.vsize)

def Header.Whole (head : Header) (lkey octets : List UInt8) : Prop :=
  head.pb ≤ lkey.length ∧ head.keyLength lkey.length ≤ ucMaxKeysize ∧ head.size ≤ octets.length

instance : Decidable (Header.Whole head lkey octets) :=
  inferInstanceAs (Decidable (_ ∧ _ ∧ _))

/-- The writes for items that stand one after the other in some octets; none if these are not
whole items. The octets are less than the fuel. -/
def decodeItems : Nat → List UInt8 → List UInt8 → Option (List Write)
  | 0, _, _ => none
  | fuel + 1, lkey, octets =>
    if octets = [] then some []
    else (readHeader octets).bind fun head =>
      if head.Whole lkey octets then
        (decodeItems fuel (head.newKey lkey octets) (octets.drop head.size)).map fun rest =>
          head.write (head.newKey lkey octets) (head.value octets) :: rest
      else none

def applyWrites (dbal : Dbal σ) (writes : List Write) (db : σ) : σ :=
  writes.foldl (fun db write => (dbal db write).1) db

def takesAll (dbal : Dbal σ) : List Write → σ → Bool
  | [], _ => true
  | write :: rest, db => (dbal db write).2 && takesAll dbal rest (dbal db write).1

/-- What a datagram asks for; a push with its first key and whether it is the last one. -/
inductive Request where
  | pull (key : List UInt8)
  | pullWcard (key : List UInt8)
  | push (writes : List Write) (key : List UInt8) (last : Bool)
  | malformed
  deriving DecidableEq

def readRequest (rdata : List UInt8) : Request :=
  let ksize := datagramKsize rdata
  let key := (rdata.drop 5).take ksize
  let writes := (decodeItems (rdata.tail.length + 1) [] rdata.tail).getD []
  if rdata.length < 6 ∨ rdata.length < ksize + 5 then .malformed
  else if rdata.head? = some ucBinconfudpPull then .pull key
  else if rdata.head? = some ucBinconfudpPullWcard then .pullWcard key
  else if writes = [] then .malformed
  else if rdata.head? = some ucBinconfudpPushc then .push writes key false
  else if rdata.head? = some ucBinconfudpPushe then .push writes key true
  else .malformed

section Answers

variable {σ : Type} (uc : UcDbald σ)

/-- The answer to a request, which depends on the database and the datagram alone: a pull
sends what the database has, and a push writes its items. The last push asks for an action
if its key is registered for that. -/
def answer (db : σ) (datagram : Datagram) : σ × List (List UInt8) :=
  match readRequest datagram.rdata with
  | .pull key =>
    match uc.get db key with
    | (held, none) => (held, [pullngres datagram.rdata])
    | (held, some value) => (uc.getRelease held key,
        [if ucudpbinPlsize < value.length + key.length + 9 then pullngres datagram.rdata
          else pullokres key.length key value])
  | .pullWcard key =>
    match uc.firstInRange db key (wildcardEnd key) with
    | none => (db, [pullngres datagram.rdata])
    | some (ekey, value) => (db, [if datagram.keysGranted && datagram.written
        then pullokres ekey.length ekey value else pullngres datagram.rdata])
  | .push writes key last =>
    let pushed := applyWrites uc.write writes db
    if last then (if uc.keyNeedaction pushed key then uc.askaction pushed key else pushed,
      [[ucBinconfudpPushokres]])
    else (pushed, [])
  | .malformed => (db, [])

def answered (start : σ) : List (Datagram × List (List UInt8)) → σ
  | [] => start
  | call :: earlier => (answer uc (answered start earlier) call.1).1

/-- The database is changed by what the datagrams ask for alone, and each reply depends on
the database before its datagram alone. -/
structure UdpServer.AnswersAlone (start : σ) (server : UdpServer σ) : Prop where
  database : server.db = answered uc start server.history
  replies : ∀ later datagram replies earlier,
    server.history = later ++ (datagram, replies) :: earlier →
      replies = (answer uc (answered uc start earlier) datagram).2

end Answers

section Decode

variable {σ : Type} {dbal : Dbal σ} {db : σ} {bc : BcData} {head : Header} {lkey octets : List UInt8}
  {rpt fuel : Nat} {writes : List Write}

private theorem whole_of_decodeItems (some_ : octets ≠ [])
    (decoded : decodeItems (fuel + 1) lkey octets = some writes) :
    ∃ head rest, readHeader octets = some head ∧ head.Whole lkey octets ∧
      decodeItems fuel (head.newKey lkey octets) (octets.drop head.size) = some rest ∧
      writes = head.write (head.newKey lkey octets) (head.value octets) :: rest := by
  rw [decodeItems, if_neg some_] at decoded
  obtain ⟨head, found, decoded⟩ := Option.bind_eq_some_iff.mp decoded
  obtain ⟨whole, decoded⟩ := Option.ite_none_right_eq_some.mp decoded
  obtain ⟨rest, later, same⟩ := Option.map_eq_some_iff.mp decoded
  exact ⟨head, rest, found, whole, later, same.symm⟩

theorem writeItems_item (items last : Nat) (whole : bc.apdsize = 0)
    (found : readHeader (bc.chunk.drop rpt) = some head)
    (complete : head.Whole bc.lkey (bc.chunk.drop rpt)) (more : rpt < bc.chunk.length)
    (accepted : (dbal db (head.write (head.newKey bc.lkey (bc.chunk.drop rpt))
      (head.value (bc.chunk.drop rpt)))).2 = true) :
    writeItems dbal (fuel + 1) bc db rpt last items = writeItems dbal fuel (bc.taken head rpt)
        (dbal db (head.write (head.newKey bc.lkey (bc.chunk.drop rpt))
          (head.value (bc.chunk.drop rpt)))).1 (rpt + head.size) (rpt + head.size) (items + 1) := by
  obtain ⟨fits, short, enough⟩ := complete
  rw [List.length_drop] at enough
  have size : head.size = head.valueAt + vsizeSize head.vsize := rfl
  have ends : ¬ bc.chunk.length < rpt + head.size := by omega
  have read : setDbitem bc rpt = some (bc.taken head rpt, rpt + head.size, 0) := by
    rw [setDbitem_found found, if_neg (Nat.not_lt.mpr fits), if_neg (fun waits => ends waits.1),
      if_pos (inLkey_of_keyLength found short), Nat.min_eq_right (Nat.le_of_not_lt ends)]
  have nothing : (bc.taken head rpt).apdsize = 0 := (if_neg ends).trans whole
  have value : slice (bc.taken head rpt).chunk (bc.taken head rpt).vdata
      (sub32 (vsizeSize (bc.taken head rpt).vsize) (bc.taken head rpt).apdsize.toNat) =
      some (head.value (bc.chunk.drop rpt)) := by
    rw [nothing, Header.value, List.drop_drop]
    refine slice_of_le ?_
    change rpt + head.valueAt + (vsizeSize head.vsize - 0) ≤ bc.chunk.length
    omega
  exact writeItems_turn fuel rpt items more read value (Prod.ext rfl accepted)

theorem writeItems_whole (fuel items : Nat) (whole : bc.apdsize = 0)
    (decoded : decodeItems fuel bc.lkey (bc.chunk.drop rpt) = some writes)
    (below : rpt ≤ bc.chunk.length) (accepted : takesAll dbal writes db = true) :
    ∃ after, writeItems dbal fuel bc db rpt rpt items =
        some (after, applyWrites dbal writes db, bc.chunk.length, .ok (items + writes.length)) ∧
      after.chunk = bc.chunk ∧ after.apdsize = 0 ∧ after.chunkSize = bc.chunkSize := by
  induction fuel generalizing bc db rpt items writes with
  | zero => cases decoded
  | succ fuel ih =>
    by_cases ended : bc.chunk.length ≤ rpt
    · rw [List.drop_eq_nil_of_le ended] at decoded
      cases decoded
      rw [writeItems, if_neg (Nat.not_lt.mpr ended), Nat.le_antisymm below ended]
      exact ⟨bc, rfl, rfl, whole, rfl⟩
    · have some_ : bc.chunk.drop rpt ≠ [] := fun none => ended (List.drop_eq_nil_iff.mp none)
      obtain ⟨head, rest, found, complete, later, rfl⟩ := whole_of_decodeItems some_ decoded
      obtain ⟨first, others⟩ := Bool.and_eq_true_iff.mp accepted
      rw [writeItems_item items rpt whole found complete (Nat.lt_of_not_le ended) first]
      have enough := complete.2.2
      rw [List.length_drop] at enough
      have ends : ¬ bc.chunk.length < rpt + head.size := by omega
      rw [List.drop_drop] at later
      have nothing : (bc.taken head rpt).apdsize = 0 := (if_neg ends).trans whole
      obtain ⟨after, ran, chunk, apdsize, chunkSize⟩ := ih (items + 1) nothing later
        (Nat.le_of_not_lt ends) others
      refine ⟨after, ?_, chunk, apdsize, chunkSize⟩
      rw [ran, List.length_cons, Nat.add_assoc items 1, Nat.add_comm 1]
      rfl

end Decode

end EnetTsn.Uniconf
