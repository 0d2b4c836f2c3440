import EnetTsn.Uniconf.NoticeHistory
import EnetTsn.Uniconf.NoticeLoops

namespace EnetTsn.Uniconf

open EnetTsn.Library

section Shapes

variable {room : NoticeRoom} {db after : NoticeDb} {registration : Registration} {kd : List UInt8}
  {value : List UInt8}

def Shape (kd value : List UInt8) : Prop :=
  (∃ (registration : Registration) (regval : NoticeRegisterValue), registration.Fits ∧
    kd = registration.key ucNoticeReg ∧ value = [regval.octet]) ∨
  ∃ registration : Registration, registration.Fits ∧ kd = registration.key ucNoticeAct ∧
    value = [0]

theorem not_inArea_behind (area : UInt8) (registration : Registration) (rest : List UInt8)
    (same : registration.key area = xl4DataRo :: (ucNoticeAct + 1) :: rest) :
    area = ucNoticeAct + 1 :=
  (registration.inArea area).unique ⟨rest, same⟩

variable (shaped : Shaped db)
include shaped

theorem Shaped.shape (notice : NoticeKey kd)
    (notBehind : ¬ InArea (ucNoticeAct + 1) kd) (found : db.find kd = some value) :
    Shape kd value := by
  have member := SortedMap.find_eq_some.mp found
  rcases notice with registered | pending | behind
  · obtain ⟨registration, regval, fits, same⟩ := shaped.registered _ member registered
    obtain ⟨rfl, rfl⟩ := Prod.mk.inj same
    exact .inl ⟨registration, regval, fits, rfl, rfl⟩
  · obtain ⟨registration, fits, same⟩ := shaped.pending _ member pending
    obtain ⟨rfl, rfl⟩ := Prod.mk.inj same
    exact .inr ⟨registration, fits, rfl, rfl⟩
  · exact absurd behind notBehind

theorem Shaped.of_found (found : ∀ kd value, NoticeKey kd → after.find kd = some value →
      db.find kd = some value ∨ Shape kd value) : Shaped after := by
  have shape (kd value : List UInt8) (notice : NoticeKey kd)
      (notBehind : ¬ InArea (ucNoticeAct + 1) kd) (member : (kd, value) ∈ after.entries) :
      Shape kd value := by
    rcases found kd value notice (SortedMap.find_eq_some.mpr member) with old | new
    · exact shaped.shape notice notBehind old
    · exact new
  refine ⟨?_, ?_, ?_⟩
  · intro entry member area
    have notBehind : ¬ InArea (ucNoticeAct + 1) entry.1 :=
      fun behind => absurd (area.unique behind) (by decide)
    rcases shape entry.1 entry.2 (.inl area) notBehind member with
      ⟨registration, regval, fits, key, octet⟩ | ⟨registration, _, key, _⟩
    · exact ⟨registration, regval, fits, Prod.ext key octet⟩
    · rw [key] at area
      exact absurd (area.unique (registration.inArea ucNoticeAct)) (by decide)
  · intro entry member area
    have notBehind : ¬ InArea (ucNoticeAct + 1) entry.1 :=
      fun behind => absurd (area.unique behind) (by decide)
    rcases shape entry.1 entry.2 (.inr (.inl area)) notBehind member with
      ⟨registration, _, _, key, _⟩ | ⟨registration, fits, key, octet⟩
    · rw [key] at area
      exact absurd (area.unique (registration.inArea ucNoticeReg)) (by decide)
    · exact ⟨registration, fits, Prod.ext key octet⟩
  · rintro ⟨_, value⟩ member rfl
    rcases found _ value (.inr (.inr ⟨[], rfl⟩)) (SortedMap.find_eq_some.mpr member) with
      old | ⟨registration, _, _, key, _⟩ | ⟨registration, _, key, _⟩
    · exact shaped.bounded _ (SortedMap.find_eq_some.mp old) rfl
    · exact absurd (not_inArea_behind _ registration [] key.symm) (by decide)
    · exact absurd (not_inArea_behind _ registration [] key.symm) (by decide)

theorem Shaped.ready (area : UInt8) (notice : area = ucNoticeReg ∨ area = ucNoticeAct)
    (place : HasPlace room db (registration.key area)) : Ready room db (registration.key area) := by
  rcases place with granted | there
  · exact .inl granted
  · right
    obtain ⟨value, found⟩ := Option.isSome_iff_exists.mp there
    have placed := registration.inArea area
    rw [found]
    rcases notice with rfl | rfl
    · rcases shaped.shape (.inl placed) (fun behind => absurd (placed.unique behind) (by decide))
        found with ⟨_, _, _, _, rfl⟩ | ⟨_, _, _, rfl⟩
      · rfl
      · rfl
    · rcases shaped.shape (.inr (.inl placed))
        (fun behind => absurd (placed.unique behind) (by decide)) found with
        ⟨_, _, _, _, rfl⟩ | ⟨_, _, _, rfl⟩
      · rfl
      · rfl

theorem Shaped.fits
    (found : db.find (registration.key ucNoticeReg) = some value) : registration.Fits := by
  obtain ⟨other, _, fits, same⟩ := shaped.registered _ (SortedMap.find_eq_some.mp found)
    (registration.inArea ucNoticeReg)
  rw [Registration.key_injective (Prod.mk.inj same).1]
  exact fits

theorem Shaped.mem_registered :
    entry ∈ db.within [xl4DataRo, ucNoticeReg] [xl4DataRo, ucNoticeReg + 1] ↔
      entry ∈ db.entries ∧ InArea ucNoticeReg entry.1 := by
  apply within_area (by decide)
  rintro ⟨_, value⟩ member rfl
  obtain ⟨registration, _, same⟩ := shaped.pending _ member ⟨[], rfl⟩
  have length := congrArg List.length (Prod.mk.inj same).1
  rw [Registration.length_key] at length
  simp at length

theorem Shaped.mem_pending :
    entry ∈ db.within [xl4DataRo, ucNoticeAct] [xl4DataRo, ucNoticeAct + 1] ↔
      entry ∈ db.entries ∧ InArea ucNoticeAct entry.1 :=
  within_area (by decide) shaped.bounded

end Shapes

section Effects

variable {fromthread : Bool} {room : NoticeRoom} {db : NoticeDb} {ucntd : UcNoticeData}
  {aps : NodePath} {kvs : List ValueKey} {registration : Registration} {semname : List UInt8}

theorem yangDbActionCreate_registration (notEnd : area ≠ apter)
    (given : registrationOf aps kvs = some registration) :
    room.yangDbActionCreate db area aps kvs value =
      some (if registration.Fits then room.ucDbalCreate db (registration.key area) value
        else (-1, db)) := by
  obtain ⟨rfl, rfl⟩ := registrationOf_eq_some given
  have whole := registration.key_eq area
  have size : (pushedKey registration.aps (registration.kvs ++ [registration.semname.kv])).length
      + 2 ≤ ucMaxKeysize ↔ registration.Fits := by
    rw [Registration.Fits, registration.key_eq ucNoticeReg, List.length_cons, List.length_cons]
  rw [NoticeRoom.yangDbActionCreate, yangDbCreateKey_area notEnd, Option.bind_eq_bind,
    Option.bind_some]
  by_cases fits : registration.Fits
  · rw [if_pos (size.mpr fits), if_pos fits, if_neg (List.cons_ne_nil _ _), whole]
  · rw [if_neg (fun small => fits (size.mp small)), if_neg fits, if_pos rfl]

private theorem findSemnameLoop_res (action : PutnoticeAction) (semname : List UInt8) (skip : Bool)
    (list : List PutnoticeData) : (findSemnameLoop action semname skip list).1 = 0 ∨
      (findSemnameLoop action semname skip list).1 = 1 := by
  induction list generalizing skip with
  | nil =>
    cases skip with
    | false => exact .inr rfl
    | true => exact .inr rfl
  | cons pnd rest ih =>
    cases skip with
    | true => exact ih false
    | false =>
      rw [findSemnameLoop]
      by_cases same : pnd.semname = semname
      · left
        dsimp only
        split_ifs <;> rfl
      · rw [if_neg same]
        exact ih false

theorem register_adds (ucntd : UcNoticeData) (given : registrationOf aps kvs = some registration)
    (fits : registration.Fits) (ready : Ready room ucntd.db (registration.key ucNoticeReg)) :
    ∃ list, ucNcNoticeRegister room ucntd aps kvs .add = some ({ res := 0 },
      ⟨ucntd.db.put (registration.key ucNoticeReg) [ucNoticeDbvalAdd], list⟩) := by
  have name := semnameOf_registrationOf aps kvs
  rw [given] at name
  have found : ∃ res list, findSemnameInPutnoticelist .incAdd registration.semname.text
      ucntd.putnoticeList = (res, list) ∧ ¬ (res ≠ 0 ∧ res ≠ 2) := by
    refine ⟨_, _, rfl, ?_⟩
    rcases findSemnameLoop_res .incAdd registration.semname.text false
        ucntd.putnoticeList with
      zero | one
    · simp [zero]
    · simp [one]
  obtain ⟨res, list, search, accepted⟩ := found
  simp only [ucNcNoticeRegister, name, Option.map_some, search, if_neg accepted,
    yangDbActionCreate_registration (show ucNoticeReg ≠ apter by decide) given, if_pos fits,
    Option.bind_eq_bind, Option.bind_some, NoticeRegisterValue.octet, create_ready _ ready]
  exact ⟨_, rfl⟩

private theorem register_refused (given : registrationOf aps kvs = none) (regval : NoticeRegisterValue) :
    ucNcNoticeRegister room ucntd aps kvs regval = some ({ res := -1 }, ucntd) := by
  have name := semnameOf_registrationOf aps kvs
  rw [given, Option.map_none] at name
  simp only [ucNcNoticeRegister, name]

structure Unregisters (registration : Registration) (before after : NoticeDb) : Prop where
  others : ∀ kd, NoticeKey kd → kd ≠ registration.key ucNoticeReg → after.find kd = before.find kd
  gone : after.find (registration.key ucNoticeReg) ≠ some [ucNoticeDbvalAdd]
  marked : ∀ value, after.find (registration.key ucNoticeReg) = some value →
    before.find (registration.key ucNoticeReg) = some value ∨
      registration.Fits ∧ value = [ucNoticeDbvalDel]

theorem unregisters_created (fits : registration.Fits) : Unregisters registration db
      (room.ucDbalCreate (room.ucDbalCreate db (registration.key ucNoticeReg)
        [ucNoticeDbvalDel]).2 (registration.key ucAskactionReg) [ucAskactionNohw]).2 := by
  have asked {kd : List UInt8} (notice : NoticeKey kd) :
      (room.ucDbalCreate (room.ucDbalCreate db (registration.key ucNoticeReg)
        [ucNoticeDbvalDel]).2 (registration.key ucAskactionReg) [ucAskactionNohw]).2.find kd =
      (room.ucDbalCreate db (registration.key ucNoticeReg) [ucNoticeDbvalDel]).2.find kd :=
    find_create_area notice (registration.inArea ucAskactionReg) (by decide)
  have here : NoticeKey (registration.key ucNoticeReg) := .inl (registration.inArea ucNoticeReg)
  refine ⟨?_, ?_, ?_⟩
  · intro kd notice different
    rw [asked notice, find_create_other different]
  · rw [asked here]
    intro alive
    rcases create_cases room db (registration.key ucNoticeReg) [ucNoticeDbvalDel] with put | same
    · rw [put, SortedMap.find_put, if_pos rfl] at alive
      exact absurd alive (by decide)
    · -- an item that is there takes the mark
      rw [same] at alive
      have ready : Ready room db (registration.key ucNoticeReg) := by
        right
        rw [alive]
        rfl
      have put := congrArg (fun map => map.find (registration.key ucNoticeReg))
        (create_ready ucNoticeDbvalDel ready)
      rw [same, SortedMap.find_put, if_pos rfl, alive] at put
      exact absurd put (by decide)
  · intro value found
    rw [asked here] at found
    rcases create_cases room db (registration.key ucNoticeReg) [ucNoticeDbvalDel] with put | same
    · rw [put, SortedMap.find_put, if_pos rfl] at found
      exact .inr ⟨fits, (Option.some.inj found).symm⟩
    · rw [same] at found
      exact .inl found

theorem register_deletes (room : NoticeRoom) (ucntd : UcNoticeData) (shaped : Shaped ucntd.db)
    (given : registrationOf aps kvs = some registration) :
    ∃ answer after, ucNcNoticeRegister room ucntd aps kvs .del = some (answer, after) ∧
      (answer.res ≠ 0 ∧ after.db = ucntd.db ∨
        answer.res = 0 ∧ Unregisters registration ucntd.db after.db) := by
  have name := semnameOf_registrationOf aps kvs
  rw [given] at name
  obtain ⟨res, list, search⟩ : ∃ res list, findSemnameInPutnoticelist .decDelete
      registration.semname.text ucntd.putnoticeList = (res, list) := ⟨_, _, rfl⟩
  simp only [ucNcNoticeRegister, name, Option.map_some, search,
    yangDbActionCreate_registration (show ucNoticeReg ≠ apter by decide) given,
    yangDbActionCreate_registration (show ucAskactionReg ≠ apter by decide) given,
    Option.bind_eq_bind, Option.bind_some]
  by_cases refused : res ≠ 0 ∧ res ≠ 2
  · rw [if_pos refused]
    exact ⟨_, _, rfl, .inl ⟨by decide, rfl⟩⟩
  · rw [if_neg refused]
    refine ⟨_, _, rfl, .inr ⟨rfl, ?_⟩⟩
    by_cases fits : registration.Fits
    · simp only [if_pos fits]
      exact unregisters_created fits
    · simp only [if_neg fits]
      refine ⟨fun _ _ _ => rfl, ?_, fun _ found => .inl found⟩
      exact fun alive => fits (shaped.fits alive)

theorem within_length (db : NoticeDb) (low high : List UInt8) :
    (db.within low high).length < db.entries.length + 1 :=
  Nat.lt_succ_of_le (List.length_filter_le _ _)

theorem deregisterAll_marks (ucntd : UcNoticeData) (semname : List UInt8) (shaped : Shaped ucntd.db) (ranged : room.range = true)
    (copied : room.copy = true) :
    ∃ answer after, ucNcNoticeDeregisterAll room ucntd semname = some (answer, after) ∧
      ∀ kd, NoticeKey kd → after.db.find kd =
        if ucntd.db.find kd = some [ucNoticeDbvalAdd] ∧ InArea ucNoticeReg kd ∧
            endsWithSemname semname kd = true then some [ucNoticeDbvalDel]
          else ucntd.db.find kd := by
  have members (kd : List UInt8) : (kd, [ucNoticeDbvalAdd]) ∈
      ucntd.db.within [xl4DataRo, ucNoticeReg] [xl4DataRo, ucNoticeReg + 1] ↔
      ucntd.db.find kd = some [ucNoticeDbvalAdd] ∧ InArea ucNoticeReg kd := by
    rw [shaped.mem_registered, SortedMap.find_eq_some]
  rw [ucNcNoticeDeregisterAll, findDeleteSemnameInDb, NoticeRoom.ucGetRange, if_pos ranged]
  cases opened : ucntd.db.openRange [xl4DataRo, ucNoticeReg] [xl4DataRo, ucNoticeReg + 1] with
  | none =>
    refine ⟨_, _, rfl, ?_⟩
    intro kd _
    have empty := SortedMap.openRange_eq_none.mp opened
    have absent : ¬ (ucntd.db.find kd = some [ucNoticeDbvalAdd] ∧ InArea ucNoticeReg kd) := by
      rw [← members kd, empty]
      exact List.not_mem_nil
    rw [if_neg fun all => absent ⟨all.1, all.2.1⟩]
  | some range =>
    obtain ⟨result, after, run, found⟩ := deleteSemnameLoop_marks semname copied
      (ucntd.db.entries.length + 1) true 0 (within_length _ _ _)
      (SortedMap.ahead_openRange opened) fun entry member => (shaped.mem_registered.mp member).2
    simp only [run, Option.bind_eq_bind, Option.bind_some]
    refine ⟨_, _, rfl, ?_⟩
    intro kd notice
    rw [found kd notice]
    simp only [members kd, and_assoc]

theorem getNoticeAct_takes (semname : List UInt8) (shaped : Shaped db) (ranged : room.range = true) :
    (∃ answer, ucNcGetNoticeAct room db semname = some (answer, db) ∧ answer.res ≠ 0 ∧
      ∀ registration : Registration, (db.find (registration.key ucNoticeAct)).isSome = true →
        registration.semname.text ≠ semname) ∨
    ∃ registration : Registration, registration.semname.text = semname ∧
      (db.find (registration.key ucNoticeAct)).isSome = true ∧
      ucNcGetNoticeAct room db semname = some ({ res := 0, key := registration.part },
        db.erase (registration.key ucNoticeAct)) := by
  have members (registration : Registration) :
      (db.find (registration.key ucNoticeAct)).isSome = true ↔
        (registration.key ucNoticeAct, [0]) ∈
          db.within [xl4DataRo, ucNoticeAct] [xl4DataRo, ucNoticeAct + 1] := by
    rw [shaped.mem_pending, ← SortedMap.find_eq_some, Option.isSome_iff_exists]
    constructor
    · rintro ⟨value, found⟩
      obtain ⟨other, _, same⟩ := shaped.pending _ (SortedMap.find_eq_some.mp found)
        (registration.inArea ucNoticeAct)
      rw [(Prod.mk.inj same).2] at found
      exact ⟨found, registration.inArea ucNoticeAct⟩
    · exact fun both => ⟨_, both.1⟩
  rw [ucNcGetNoticeAct, NoticeRoom.ucGetRange, if_pos ranged]
  cases opened : db.openRange [xl4DataRo, ucNoticeAct] [xl4DataRo, ucNoticeAct + 1] with
  | none =>
    left
    refine ⟨_, rfl, by decide, ?_⟩
    intro registration there
    rw [members, SortedMap.openRange_eq_none.mp opened] at there
    exact absurd there List.not_mem_nil
  | some range =>
    rcases getNoticeActLoop_finds semname (db.entries.length + 1)
      (within_length _ _ _) (SortedMap.ahead_openRange opened)
      (fun entry member => shaped.pending entry (shaped.mem_pending.mp member).1
        (shaped.mem_pending.mp member).2) with
      ⟨run, nobody⟩ | ⟨registration, fits, named, member, run⟩
    · left
      simp only [run, Option.bind_eq_bind, Option.bind_some]
      refine ⟨_, rfl, by decide, ?_⟩
      intro registration there
      exact nobody registration ((members registration).mp there)
    · right
      refine ⟨registration, named, (members registration).mpr member, ?_⟩
      have small : ¬ ucMaxKeysize < registration.part.length := by
        have fitting := fits
        rw [Registration.Fits, Registration.length_key] at fitting
        omega
      simp only [run, Option.bind_eq_bind, Option.bind_some, Registration.getD_part,
        Registration.noticeKsize_key fits, if_neg small, Registration.take_part]

structure Pushed (actkey : List UInt8) (before after : NoticeDb) : Prop where
  registered : ∀ kd, InArea ucNoticeReg kd → after.find kd =
    if before.find kd = some [ucNoticeDbvalDel] then none else before.find kd
  pending : ∀ registration : Registration, after.find (registration.key ucNoticeAct) =
    if before.find (registration.key ucNoticeReg) = some [ucNoticeDbvalAdd] ∧
        registration.part <+: actkey
      then some [0] else before.find (registration.key ucNoticeAct)
  others : ∀ kd, InArea ucNoticeAct kd →
    (∀ registration : Registration, registration.Fits → kd ≠ registration.key ucNoticeAct) →
    after.find kd = before.find kd
  behind : ∀ kd, InArea (ucNoticeAct + 1) kd → after.find kd = before.find kd

theorem push_delivers (fromthread : Bool) (ucntd : UcNoticeData) (shaped : Shaped ucntd.db) (ranged : room.range = true)
    (fits : (pushedKey aps kvs).length ≤ ucMaxKeysize) (ready : ∀ registration : Registration,
      ucntd.db.find (registration.key ucNoticeReg) = some [ucNoticeDbvalAdd] →
      registration.part <+: pushedKey aps kvs → Ready room ucntd.db (registration.key ucNoticeAct) ∧
        Signals fromthread room ucntd.putnoticeList registration.semname.text) :
    ∃ answer after, ucNuPutnoticePush fromthread room ucntd aps kvs = some (answer, after) ∧
      Pushed (pushedKey aps kvs) ucntd.db after.db := by
  have members {kd : List UInt8} {value : List UInt8} (area : InArea ucNoticeReg kd) :
      (kd, value) ∈ ucntd.db.within [xl4DataRo, ucNoticeReg] [xl4DataRo, ucNoticeReg + 1] ↔
      ucntd.db.find kd = some value := by
    rw [shaped.mem_registered, SortedMap.find_eq_some]
    exact ⟨fun both => both.1, fun member => ⟨member, area⟩⟩
  rw [ucNuPutnoticePush, NoticeRoom.ucGetRange, if_pos ranged]
  cases opened : ucntd.db.openRange [xl4DataRo, ucNoticeReg] [xl4DataRo, ucNoticeReg + 1] with
  | none =>
    have empty := SortedMap.openRange_eq_none.mp opened
    have absent {kd value : List UInt8} (area : InArea ucNoticeReg kd) :
        ¬ ucntd.db.find kd = some value := by
      rw [← members area, empty]
      exact List.not_mem_nil
    refine ⟨_, _, rfl, ?_, ?_, fun _ _ _ => rfl, fun _ _ => rfl⟩
    · exact fun kd area => (if_neg (absent area)).symm
    · intro registration
      rw [if_neg fun both => absent (registration.inArea ucNoticeReg) both.1]
  | some range =>
    have filled : ¬ pushedKey aps kvs = [] := by
      exact List.append_ne_nil_of_right_ne_nil _ (List.cons_ne_nil _ _)
    obtain ⟨next, run, delivers⟩ := pushLoop_delivers fromthread room
      (pushedKey aps kvs) (ucntd.db.entries.length + 1)
      { db := ucntd.db
        list := nuClearRefcounter ucntd.putnoticeList
        range := range
        action := 0xff
        delhappen := false
        res := -1 } (within_length _ _ _) (SortedMap.ahead_openRange opened) (by
          refine ⟨?_, ?_⟩
          · intro entry member
            obtain ⟨inside, area⟩ := shaped.mem_registered.mp member
            exact shaped.registered entry inside area
          · intro registration member front
            rw [members (registration.inArea ucNoticeReg)] at member
            obtain ⟨there, signals⟩ := ready registration member front
            refine ⟨there, ?_⟩
            rw [Signals, nuClearRefcounter, semnames, List.map_map]
            exact signals)
    have kept (kd : List UInt8) (notice : NoticeKey kd) :
        (if next.delhappen then next.db.erase deletingKey else next.db).find kd =
          next.db.find kd := by
      split_ifs
      · rw [SortedMap.find_erase, if_neg]
        rintro rfl
        rcases notice with area | area | area
        · exact absurd (area.unique inArea_deletingKey) (by decide)
        · exact absurd (area.unique inArea_deletingKey) (by decide)
        · exact absurd (area.unique inArea_deletingKey) (by decide)
      · rfl
    simp only [yangDbCreateKey_pushed, if_pos fits, if_neg filled, run, Option.bind_eq_bind,
      Option.bind_some]
    refine ⟨_, _, rfl, ?_, ?_, ?_, ?_⟩
    · intro kd area
      rw [kept kd (.inl area), delivers.registered kd area]
      simp only [members area]
    · intro registration
      rw [kept _ (.inr (.inl (registration.inArea ucNoticeAct))), delivers.pending registration]
      simp only [members (registration.inArea ucNoticeReg)]
    · intro kd area nobody
      rw [kept kd (.inr (.inl area)), delivers.others kd area nobody]
    · intro kd area
      rw [kept kd (.inr (.inr area)), delivers.elsewhere kd
        (fun registered => absurd (area.unique registered) (by decide))
        (fun pending => absurd (area.unique pending) (by decide))]

end Effects

section Runs

variable {ι : Type} {notices : Notices ι}

structure Notices.Standing (notices : Notices ι) : Prop extends notices.Delivered where
  shaped : Shaped notices.db

section

variable (standing : notices.Standing)
include standing

theorem Notices.Standing.after {db : NoticeDb} {lists : ι → List PutnoticeData}
    {answer : NoticeAnswer} (live : ∀ registration : Registration,
      db.find (registration.key ucNoticeReg) = some [ucNoticeDbvalAdd] ↔
        registration ∈ liveOf ((event, answer) :: notices.history))
    (pending : ∀ registration : Registration,
      (db.find (registration.key ucNoticeAct)).isSome = true ↔
        registration ∈ pendingOf ((event, answer) :: notices.history))
    (right : match event.call with
      | .getNoticeAct semname => AnswerRight semname answer (pendingOf notices.history)
      | _ => True) (found : ∀ kd value, NoticeKey kd → db.find kd = some value →
      notices.db.find kd = some value ∨ Shape kd value) :
    (Notices.mk db lists ((event, answer) :: notices.history)).Standing where
  live := live
  pending := pending
  answers := ⟨standing.answers, right⟩
  shaped := standing.shaped.of_found found

theorem Notices.Standing.registerAdd {lists : ι → List PutnoticeData} {who : ι} {aps : NodePath}
    {kvs : List ValueKey}
    (given : registrationOf aps kvs = some registration) (fits : registration.Fits) :
    (Notices.mk (notices.db.put (registration.key ucNoticeReg) [ucNoticeDbvalAdd]) lists
      ((⟨.register who aps kvs .add, room⟩, { res := 0 }) :: notices.history)).Standing := by
  apply standing.after
  · intro other
    rw [SortedMap.find_put, liveOf]
    simp only [given, Registration.key_inj, if_true, List.mem_cons, ← standing.live other]
    by_cases same : other = registration
    · simp [same]
    · simp [same]
  · intro other
    have different : ¬ other.key ucNoticeAct = registration.key ucNoticeReg :=
      fun same => absurd (Registration.key_area same) (by decide)
    rw [SortedMap.find_put, if_neg different, standing.pending other, pendingOf]
  · trivial
  · intro kd value _ found
    rw [SortedMap.find_put] at found
    by_cases same : kd = registration.key ucNoticeReg
    · rw [if_pos same] at found
      exact .inr (.inl ⟨registration, .add, fits, same, (Option.some.inj found).symm⟩)
    · rw [if_neg same] at found
      exact .inl found

theorem Notices.Standing.refused {room : NoticeRoom} {lists : ι → List PutnoticeData}
    {answer : NoticeAnswer} {who : ι} {aps : NodePath} {kvs : List ValueKey}
    {regval : NoticeRegisterValue} (refused : registrationOf aps kvs = none ∨ answer.res ≠ 0) :
    (Notices.mk notices.db lists
      ((⟨.register who aps kvs regval, room⟩, answer) :: notices.history)).Standing := by
  apply standing.after
  · intro other
    have same : liveOf ((⟨.register who aps kvs regval, room⟩, answer) :: notices.history) =
        liveOf notices.history := by
      rw [liveOf]
      rcases refused with given | res
      · simp only [given]
      · cases given : registrationOf aps kvs with
        | none => simp only [given]
        | some registration =>
          cases regval with
          | add => simp only [given, if_neg res]
          | del => simp only [given, if_neg res]
    rw [same]
    exact standing.live other
  · intro other
    rw [standing.pending other, pendingOf]
  · trivial
  · exact fun _ _ _ found => .inl found

theorem Notices.Standing.registerDel {lists : ι → List PutnoticeData} {db : NoticeDb}
    {answer : NoticeAnswer} {registration : Registration} {who : ι} {aps : NodePath}
    {kvs : List ValueKey}
    (given : registrationOf aps kvs = some registration) (done : answer.res = 0)
    (unregisters : Unregisters registration notices.db db) : (Notices.mk db lists
      ((⟨.register who aps kvs .del, room⟩, answer) :: notices.history)).Standing := by
  apply standing.after
  · intro other
    rw [liveOf]
    simp only [given, if_pos done, List.mem_filter, decide_eq_true_eq, ← standing.live other]
    by_cases same : other = registration
    · rw [same]
      constructor
      · exact fun alive => absurd alive unregisters.gone
      · exact fun both => absurd rfl both.2
    · rw [unregisters.others _ (.inl (other.inArea ucNoticeReg))
        fun equal => same (Registration.key_injective equal)]
      exact ⟨fun alive => ⟨alive, same⟩, fun both => both.1⟩
  · intro other
    rw [unregisters.others _ (.inr (.inl (other.inArea ucNoticeAct)))
      fun same => absurd (Registration.key_area same) (by decide), standing.pending other, pendingOf]
  · trivial
  · intro kd value notice found
    by_cases same : kd = registration.key ucNoticeReg
    · rw [same] at found
      rcases unregisters.marked value found with old | ⟨fits, mark⟩
      · rw [same]
        exact .inl old
      · exact .inr (.inl ⟨registration, .del, fits, same, mark⟩)
    · rw [unregisters.others kd notice same] at found
      exact .inl found

theorem Notices.Standing.deregisterAll {lists : ι → List PutnoticeData} {db : NoticeDb}
    {answer : NoticeAnswer} {who : ι} {semname : List UInt8}
    (alone : ∀ registration ∈ liveOf notices.history,
      endsWithSemname semname (registration.key ucNoticeReg) = true →
        registration.semname.text = semname) (marks : ∀ kd, NoticeKey kd → db.find kd =
      if notices.db.find kd = some [ucNoticeDbvalAdd] ∧ InArea ucNoticeReg kd ∧
          endsWithSemname semname kd = true then some [ucNoticeDbvalDel]
        else notices.db.find kd) :
    (Notices.mk db lists
      ((⟨.deregisterAll who semname, room⟩, answer) :: notices.history)).Standing := by
  apply standing.after
  · intro other
    rw [marks _ (.inl (other.inArea ucNoticeReg)), liveOf, List.mem_filter, decide_eq_true_iff]
    by_cases named : other.semname.text = semname
    · have ends : endsWithSemname semname (other.key ucNoticeReg) = true := by
        rw [← named]
        exact other.endsWithSemname_self ucNoticeReg
      constructor
      · intro alive
        split_ifs at alive with chosen
        · exact absurd alive (by decide)
        · exact absurd ⟨alive, other.inArea ucNoticeReg, ends⟩ chosen
      · exact fun both => absurd named both.2
    · rw [if_neg]
      · rw [standing.live other]
        exact ⟨fun alive => ⟨alive, named⟩, fun both => both.1⟩
      · rintro ⟨alive, _, ends⟩
        exact named (alone other ((standing.live other).mp alive) ends)
  · intro other
    have notChosen : ¬ (notices.db.find (other.key ucNoticeAct) = some [ucNoticeDbvalAdd] ∧
        InArea ucNoticeReg (other.key ucNoticeAct) ∧
        endsWithSemname semname (other.key ucNoticeAct) = true) :=
      fun all => absurd (all.2.1.unique (other.inArea ucNoticeAct)) (by decide)
    rw [marks _ (.inr (.inl (other.inArea ucNoticeAct))), if_neg notChosen, standing.pending other,
      pendingOf]
  · trivial
  · intro kd value notice found
    rw [marks kd notice] at found
    split_ifs at found with chosen
    · obtain ⟨alive, area, _⟩ := chosen
      obtain ⟨registration, _, fits, same⟩ := standing.shaped.registered _
        (SortedMap.find_eq_some.mp alive) area
      exact .inr (.inl ⟨registration, .del, fits, (Prod.mk.inj same).1,
        (Option.some.inj found).symm⟩)
    · exact .inl found

theorem Notices.Standing.push {lists : ι → List PutnoticeData} {db : NoticeDb}
    {answer : NoticeAnswer} {aps : NodePath} {kvs : List ValueKey}
    (pushed : Pushed (pushedKey aps kvs) notices.db db) :
    (Notices.mk db lists ((⟨.push aps kvs, room⟩, answer) :: notices.history)).Standing := by
  apply standing.after
  · intro other
    rw [pushed.registered _ (other.inArea ucNoticeReg), liveOf, ← standing.live other]
    split_ifs with marked
    · rw [marked]
      constructor
      · simp
      · exact fun impossible => absurd impossible (by decide)
    · exact Iff.rfl
  · intro other
    rw [pushed.pending other, pendingOf, List.mem_append, List.mem_filter, decide_eq_true_iff,
      ← standing.pending other, ← standing.live other]
    split_ifs with chosen
    · exact ⟨fun _ => .inr chosen, fun _ => rfl⟩
    · constructor
      · exact .inl
      · rintro (old | new)
        · exact old
        · exact absurd new chosen
  · trivial
  · intro kd value notice found
    rcases notice with registered | waiting | behind
    · rw [pushed.registered kd registered] at found
      split_ifs at found
      exact .inl found
    · by_cases known : ∃ registration : Registration, registration.Fits ∧
        kd = registration.key ucNoticeAct
      · obtain ⟨registration, fits, rfl⟩ := known
        rw [pushed.pending registration] at found
        split_ifs at found
        · exact .inr (.inr ⟨registration, fits, rfl, (Option.some.inj found).symm⟩)
        · exact .inl found
      · rw [pushed.others kd waiting fun registration fits same =>
          known ⟨registration, fits, same⟩] at found
        exact .inl found
    · rw [pushed.behind kd behind] at found
      exact .inl found

theorem Notices.Standing.none {room : NoticeRoom} {lists : ι → List PutnoticeData}
    {answer : NoticeAnswer} {semname : List UInt8}
    (refused : answer.res ≠ 0) (nobody : ∀ registration : Registration,
      (notices.db.find (registration.key ucNoticeAct)).isSome = true →
        registration.semname.text ≠ semname) : (Notices.mk notices.db lists
      ((⟨.getNoticeAct semname, room⟩, answer) :: notices.history)).Standing := by
  apply standing.after
  · intro other
    rw [standing.live other, liveOf]
  · intro other
    rw [standing.pending other, pendingOf]
    simp only [if_neg refused]
  · change AnswerRight semname answer (pendingOf notices.history)
    rw [AnswerRight, if_neg refused]
    intro registration waiting
    exact nobody registration ((standing.pending registration).mpr waiting)
  · exact fun _ _ _ found => .inl found

theorem Notices.Standing.taken {lists : ι → List PutnoticeData} {registration : Registration}
    {semname : List UInt8} (named : registration.semname.text = semname)
    (there : (notices.db.find (registration.key ucNoticeAct)).isSome = true) :
    (Notices.mk (notices.db.erase (registration.key ucNoticeAct)) lists
      ((⟨.getNoticeAct semname, room⟩, { res := 0, key := registration.part }) ::
        notices.history)).Standing := by
  apply standing.after
  · intro other
    have different : ¬ other.key ucNoticeReg = registration.key ucNoticeAct :=
      fun same => absurd (Registration.key_area same) (by decide)
    rw [SortedMap.find_erase, if_neg different, standing.live other, liveOf]
  · intro other
    rw [SortedMap.find_erase, pendingOf]
    simp only [if_true, List.mem_filter, decide_eq_true_eq, Registration.key_inj,
      ← standing.pending other]
    have same : other = registration ↔
        other.semname.text = semname ∧ other.part = registration.part := by
      constructor
      · rintro rfl
        exact ⟨named, rfl⟩
      · rintro ⟨text, part⟩
        exact Registration.ext_part part (text.trans named.symm)
    by_cases equal : other = registration
    · simp [equal, named]
    · rw [if_neg equal]
      exact ⟨fun waiting => ⟨waiting, fun both => equal (same.mpr both)⟩, fun both => both.1⟩
  · exact ⟨registration, (standing.pending registration).mp there, named, rfl⟩
  · intro kd value _ found
    rw [SortedMap.find_erase] at found
    split_ifs at found
    exact .inl found

end

variable [DecidableEq ι] {fromthread : Bool} {uniconf : ι}

theorem Notices.Standing.called {event : NoticeEvent ι} (standing : notices.Standing)
    (granted : NoticeGranted fromthread uniconf notices event) :
    ∃ next, notices.called fromthread uniconf event = some next ∧ next.Standing := by
  obtain ⟨call, room⟩ := event
  cases call with
  | register who aps kvs regval =>
    rw [Notices.called]
    dsimp only
    cases given : registrationOf aps kvs with
    | none =>
      rw [register_refused given]
      exact ⟨_, rfl, standing.refused (.inl given)⟩
    | some registration =>
      cases regval with
      | add =>
        obtain ⟨fits, place⟩ := granted registration given
        have ready := standing.shaped.ready ucNoticeReg (.inl rfl) place
        obtain ⟨list, added⟩ := register_adds (notices.data (listOwner fromthread uniconf who))
          given fits ready
        rw [added]
        exact ⟨_, rfl, standing.registerAdd given fits⟩
      | del =>
        obtain ⟨answer, ⟨db, list⟩, done, same⟩ := register_deletes room
          (notices.data (listOwner fromthread uniconf who)) standing.shaped given
        rw [done]
        refine ⟨_, rfl, ?_⟩
        rcases same with ⟨refused, unchanged⟩ | ⟨marked, unregisters⟩
        · subst unchanged
          exact standing.refused (.inr refused)
        · exact standing.registerDel given marked unregisters
  | deregisterAll who semname =>
    obtain ⟨ranged, copied, alone⟩ := granted
    obtain ⟨answer, data, done, marks⟩ := deregisterAll_marks
      (notices.data (listOwner fromthread uniconf who)) semname standing.shaped ranged copied
    rw [Notices.called]
    dsimp only
    rw [done]
    exact ⟨_, rfl, standing.deregisterAll alone marks⟩
  | push aps kvs =>
    obtain ⟨ranged, fits, needs⟩ := granted
    obtain ⟨answer, data, done, pushed⟩ := push_delivers fromthread
      (notices.data uniconf) standing.shaped ranged fits (by
        intro registration alive front
        obtain ⟨place, signals⟩ := needs registration ((standing.live registration).mp alive) front
        exact ⟨standing.shaped.ready ucNoticeAct (.inr rfl) place, signals⟩)
    rw [Notices.called]
    dsimp only
    rw [done]
    exact ⟨_, rfl, standing.push pushed⟩
  | getNoticeAct semname =>
    rw [Notices.called]
    dsimp only
    rcases getNoticeAct_takes semname standing.shaped granted with
      ⟨answer, done, refused, nobody⟩ | ⟨registration, named, there, done⟩
    · rw [done]
      exact ⟨_, rfl, standing.none refused nobody⟩
    · rw [done]
      exact ⟨_, rfl, standing.taken named there⟩

omit [DecidableEq ι] in
theorem Quiet.standing (quiet : Quiet db) : (Notices.mk db (fun _ : ι => []) []).Standing := by
  have absent (area : UInt8) (registration : Registration) (value : List UInt8)
      (notice : area = ucNoticeReg ∨ area = ucNoticeAct) :
      db.find (registration.key area) ≠ some value := by
    intro found
    obtain ⟨notRegistered, notPending, _⟩ := quiet _ (SortedMap.find_eq_some.mp found)
    rw [prefix_iff_inArea] at notRegistered notPending
    rcases notice with rfl | rfl
    · exact notRegistered (registration.inArea ucNoticeReg)
    · exact notPending (registration.inArea ucNoticeAct)
  refine ⟨⟨?_, ?_, trivial⟩, ?_, ?_, ?_⟩
  · intro registration
    constructor
    · exact fun found => absurd found (absent _ registration _ (.inl rfl))
    · exact fun member => absurd member List.not_mem_nil
  · intro registration
    constructor
    · intro there
      obtain ⟨value, found⟩ := Option.isSome_iff_exists.mp there
      exact absurd found (absent _ registration value (.inr rfl))
    · exact fun member => absurd member List.not_mem_nil
  · intro entry member area
    exact absurd (prefix_iff_inArea.mpr area) (quiet entry member).1
  · intro entry member area
    exact absurd (prefix_iff_inArea.mpr area) (quiet entry member).2.1
  · exact fun entry member => (quiet entry member).2.2

/-- **A push makes notices pending for exactly the registrations that live and whose key is a
prefix of its key, each notice is given to its own client once, and no call of another client takes
a registration or a notice away.** -/
theorem notice_delivery {db : NoticeDb} {noticing : Noticing ι} (quiet : Quiet db)
    (reachable : (noticeSystem fromthread uniconf db).Reachable
      (NoticePermitted fromthread uniconf) noticing) :
    ∃ notices, noticing = .intact notices ∧ notices.Delivered := by
  have invariant : ∃ notices, noticing = .intact notices ∧ notices.Standing := by
    apply reachable.invariant (fun noticing : Noticing ι => ∃ notices,
      noticing = .intact notices ∧ notices.Standing)
    · exact ⟨_, rfl, quiet.standing⟩
    · rintro _ event next ⟨notices, rfl, standing⟩ permitted taken
      obtain ⟨after, done, kept⟩ := standing.called permitted
      have same : some ((notices.called fromthread uniconf event).elim Noticing.corrupted
        Noticing.intact) = some next := taken
      rw [done] at same
      cases same
      exact ⟨after, rfl, kept⟩
  obtain ⟨notices, same, standing⟩ := invariant
  exact ⟨notices, same, standing.toDelivered⟩

end Runs

section Examples

def emptyNotices : NoticeDb := .empty

def ample : NoticeRoom := ⟨true, true, fun _ => true, fun _ => true⟩

def oneNode (node : UInt8) (clean : node ≠ apter) : NodePath :=
  ⟨[node], fun member => clean (List.mem_singleton.mp member).symm⟩

def named (text : List UInt8) (short : (text ++ [0]).length < 256) : ValueKey := ⟨text ++ [0], short⟩

def oneOctet (octet : UInt8) : ValueKey := ⟨[octet], show 1 < 256 by decide⟩

/-- Two clients register for a node, and one of them for one of its entries; a change of the entry
is pushed, both are given their notices, and the second one has deregistered when the next change
is pushed. -/
def noticeEvents : List (NoticeEvent Nat) :=
  [⟨.register 1 (oneNode 9 (by decide)) [named [97] (by decide)] .add, ample⟩,
    ⟨.register 2 (oneNode 9 (by decide)) [oneOctet 5, named [98] (by decide)] .add, ample⟩,
    ⟨.push (oneNode 9 (by decide)) [oneOctet 5], ample⟩,
    ⟨.getNoticeAct [97], ample⟩, ⟨.getNoticeAct [98], ample⟩, ⟨.getNoticeAct [98], ample⟩,
    ⟨.deregisterAll 2 [98], ample⟩, ⟨.push (oneNode 9 (by decide)) [oneOctet 5], ample⟩,
    ⟨.getNoticeAct [98], ample⟩, ⟨.getNoticeAct [97], ample⟩]

def Noticing.answers {ι : Type} : Noticing ι → Option (List (Int × List UInt8))
  | .intact notices => some (notices.history.map fun (_, answer) => (answer.res, answer.key))
  | .corrupted => none

theorem notice_delivery_two : ∃ notices : Notices Nat,
    (Noticing.intact notices).answers = some [(0, [9, 255]), (-1, []), (0, []), (0, []), (1, []),
      (0, [9, 255, 1, 5]), (0, [9, 255]), (0, []), (0, []), (0, [])] ∧ notices.Delivered := by
  have quiet : Quiet emptyNotices := nofun
  have evaluated : (((noticeSystem false 0 emptyNotices).restrict fun noticing event =>
      decide (NoticePermitted false 0 noticing event)).run
        (noticeSystem false 0 emptyNotices).start noticeEvents).map Noticing.answers =
      some (some [(0, [9, 255]), (-1, []), (0, []), (0, []), (1, []),
        (0, [9, 255, 1, 5]), (0, [9, 255]), (0, []), (0, []), (0, [])]) := by decide +kernel
  obtain ⟨noticing, finished, answers⟩ := Option.map_eq_some_iff.mp evaluated
  obtain ⟨notices, rfl, delivered⟩ := notice_delivery quiet
    ((System.reachable_of_run finished).of_restrict fun _ _ => of_decide_eq_true)
  exact ⟨notices, answers, delivered⟩

def shorterName : List UInt8 := List.replicate 46 97

def longerKey : ValueKey := named (47 :: shorterName) (by decide)

/-- A client registers under the longer name, and another one takes back all registrations
under the shorter one; then a change is pushed. -/
def takenEvents : List (NoticeEvent Nat) :=
  [⟨.register 1 (oneNode 9 (by decide)) [longerKey] .add, ample⟩,
    ⟨.deregisterAll 2 shorterName, ample⟩, ⟨.push (oneNode 9 (by decide)) [], ample⟩,
    ⟨.getNoticeAct (47 :: shorterName), ample⟩]

def Noticing.missed : Noticing Nat → Bool
  | .intact ⟨_, _, (⟨.getNoticeAct semname, _⟩, answer) :: earlier⟩ =>
    decide (answer.res ≠ 0) &&
      (pendingOf earlier).any fun registration => registration.semname.text = semname
  | _ => false

theorem registration_taken : ¬ ∀ noticing : Noticing Nat,
    (noticeSystem false 0 emptyNotices).Reachable System.anyStep noticing →
      ∃ notices, noticing = .intact notices ∧ notices.Delivered := by
  intro always
  have evaluated : ((noticeSystem false 0 emptyNotices).run
      (noticeSystem false 0 emptyNotices).start takenEvents).map Noticing.missed =
        some true := by decide +kernel
  obtain ⟨noticing, finished, observed⟩ := Option.map_eq_some_iff.mp evaluated
  obtain ⟨⟨db, lists, history⟩, rfl, delivered⟩ :=
    always noticing (System.reachable_of_run finished)
  have answers := delivered.answers
  unfold Noticing.missed at observed
  split at observed
  · rename_i semname _ answer earlier stopped
    cases stopped
    rw [Bool.and_eq_true, decide_eq_true_iff, List.any_eq_true] at observed
    obtain ⟨refused, registration, waiting, same⟩ := observed
    have right : AnswerRight semname answer (pendingOf earlier) := answers.2
    rw [AnswerRight, if_neg refused] at right
    exact right registration waiting (of_decide_eq_true same)
  · cases observed

end Examples

end EnetTsn.Uniconf
