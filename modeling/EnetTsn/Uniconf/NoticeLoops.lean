import EnetTsn.Uniconf.NoticeKeys

namespace EnetTsn.Uniconf

open EnetTsn.Library

def InArea (area : UInt8) (kd : List UInt8) : Prop := ∃ rest, kd = xl4DataRo :: area :: rest

theorem prefix_iff_inArea : [xl4DataRo, area] <+: kd ↔ InArea area kd :=
  ⟨fun ⟨rest, same⟩ => ⟨rest, same.symm⟩, fun ⟨rest, same⟩ => ⟨rest, same.symm⟩⟩

instance (area : UInt8) (kd : List UInt8) : Decidable (InArea area kd) :=
  decidable_of_iff _ prefix_iff_inArea

section Areas

variable {area other : UInt8} {kd kd' : List UInt8}

theorem keyBefore_cons_cons (first second : UInt8) (rest others : List UInt8) :
    keyBefore (first :: rest) (second :: others) ↔
      first < second ∨ first = second ∧ keyBefore rest others := by
  rw [keyBefore, keycmp_cons_cons]
  by_cases same : first = second
  · rw [if_pos same, same]
    simp [keyBefore]
  · split_ifs with less
    · simp [less]
    · simp [same, less]

theorem keyBefore_areas (first : InArea area kd) (second : InArea other kd')
    (less : area < other) : keyBefore kd kd' := by
  obtain ⟨rest, rfl⟩ := first
  obtain ⟨rest', rfl⟩ := second
  rw [keyBefore_cons_cons, keyBefore_cons_cons]
  exact .inr ⟨rfl, .inl less⟩

theorem InArea.unique (first : InArea area kd) (second : InArea other kd) : area = other := by
  obtain ⟨rest, rfl⟩ := first
  obtain ⟨rest', same⟩ := second
  exact (List.cons.inj (List.cons.inj same).2).1

private theorem keyBefore_nil (kd : List UInt8) : ¬ keyBefore kd [] := by
  cases kd with
  | nil => exact irrefl_of keyBefore []
  | cons octet rest =>
    rw [keyBefore, keycmp_cons_nil]
    omega

theorem between_areas (notLast : area < apter) : (¬ keyBefore kd [xl4DataRo, area] ∧
    ¬ keyBefore [xl4DataRo, area + 1] kd) ↔ InArea area kd ∨ kd = [xl4DataRo, area + 1] := by
  have next : (area + 1).toNat = area.toNat + 1 := by
    have bound : area.toNat < 255 := UInt8.lt_iff_toNat_lt.mp notLast
    exact Nat.mod_eq_of_lt (Nat.succ_lt_succ bound)
  have nilBefore (octet : UInt8) (rest : List UInt8) : keyBefore [] (octet :: rest) := by
    rw [keyBefore, keycmp_nil_cons]
    omega
  cases kd with
  | nil =>
    constructor
    · exact fun bounds => absurd (nilBefore _ _) bounds.1
    · rintro (⟨rest, same⟩ | same)
      · exact absurd same.symm (List.cons_ne_nil _ _)
      · exact absurd same.symm (List.cons_ne_nil _ _)
  | cons first rest =>
    cases rest with
    | nil =>
      rw [keyBefore_cons_cons, keyBefore_cons_cons]
      constructor
      · rintro ⟨notLow, notHigh⟩
        have below : ¬ first < xl4DataRo := fun less => notLow (.inl less)
        have above : ¬ xl4DataRo < first := fun less => notHigh (.inl less)
        rw [UInt8.lt_iff_toNat_lt] at below above
        have equal : first = xl4DataRo := UInt8.toNat_inj.mp (by omega)
        exact absurd (.inr ⟨equal, nilBefore _ _⟩) notLow
      · rintro (⟨more, same⟩ | same)
        · exact absurd (List.cons.inj same).2.symm (List.cons_ne_nil _ _)
        · exact absurd (List.cons.inj same).2.symm (List.cons_ne_nil _ _)
    | cons second more =>
      simp only [keyBefore_cons_cons, UInt8.lt_iff_toNat_lt, InArea, List.cons.injEq, next,
        ← UInt8.toNat_inj]
      have nil := keyBefore_nil more
      constructor
      · rintro ⟨notLow, notHigh⟩
        have firstSame : first.toNat = xl4DataRo.toNat := by omega
        by_cases secondSame : second.toNat = area.toNat
        · exact .inl ⟨more, firstSame, secondSame, rfl⟩
        · refine .inr ⟨firstSame, by omega, ?_⟩
          cases more with
          | nil => rfl
          | cons third last =>
            exact absurd (.inr ⟨firstSame.symm, .inr ⟨by omega, nilBefore _ _⟩⟩) notHigh
      · rintro (⟨_, firstSame, secondSame, _⟩ | ⟨firstSame, secondSame, rfl⟩)
        · constructor
          · rintro (less | ⟨_, less | ⟨_, below⟩⟩)
            · omega
            · omega
            · exact nil below
          · rintro (less | ⟨_, less | ⟨same, _⟩⟩) <;> omega
        · constructor
          · rintro (less | ⟨_, less | ⟨_, below⟩⟩)
            · omega
            · omega
            · exact nil below
          · rintro (less | ⟨_, less | ⟨_, below⟩⟩)
            · omega
            · omega
            · exact nil below

theorem within_area {db : NoticeDb} (notLast : area < apter)
    (bounded : ∀ entry ∈ db.entries, entry.1 ≠ [xl4DataRo, area + 1]) :
    entry ∈ db.within [xl4DataRo, area] [xl4DataRo, area + 1] ↔
      entry ∈ db.entries ∧ InArea area entry.1 := by
  rw [SortedMap.mem_within, between_areas notLast]
  constructor
  · rintro ⟨member, inside | bound⟩
    · exact ⟨member, inside⟩
    · exact absurd bound (bounded entry member)
  · exact fun ⟨member, inside⟩ => ⟨member, .inl inside⟩

end Areas

structure Shaped (db : NoticeDb) : Prop where
  registered : ∀ entry ∈ db.entries, InArea ucNoticeReg entry.1 →
    ∃ (registration : Registration) (regval : NoticeRegisterValue), registration.Fits ∧
      entry = (registration.key ucNoticeReg, [regval.octet])
  pending : ∀ entry ∈ db.entries, InArea ucNoticeAct entry.1 →
    ∃ registration : Registration, registration.Fits ∧
      entry = (registration.key ucNoticeAct, [0])
  bounded : ∀ entry ∈ db.entries, entry.1 ≠ [xl4DataRo, ucNoticeAct + 1]

/-- The keys of registrations and of pending notices, and the ones of the area behind them, where
a range of pending notices ends. -/
def NoticeKey (kd : List UInt8) : Prop :=
  InArea ucNoticeReg kd ∨ InArea ucNoticeAct kd ∨ InArea (ucNoticeAct + 1) kd

theorem Registration.inArea (area : UInt8) (registration : Registration) :
    InArea area (registration.key area) := ⟨_, rfl⟩

theorem inArea_deletingKey : InArea ucStaticWork deletingKey := ⟨_, rfl⟩

section Create

variable {room : NoticeRoom} {db : NoticeDb} {key other value : List UInt8}
  {range : Cursor (List UInt8)} {ahead : List (List UInt8 × List UInt8)}

def Ready (room : NoticeRoom) (db : NoticeDb) (key : List UInt8) : Prop :=
  room.item key = true ∨ (db.find key).any (fun old => old.length = 1) = true

theorem create_cases (room : NoticeRoom) (db : NoticeDb) (key value : List UInt8) :
    (room.ucDbalCreate db key value).2 = db.put key value ∨
      (room.ucDbalCreate db key value).2 = db := by
  rw [NoticeRoom.ucDbalCreate]
  split_ifs
  · exact .inl rfl
  · exact .inr rfl

theorem create_ready (octet : UInt8) (ready : Ready room db key) :
    (room.ucDbalCreate db key [octet]).2 = db.put key [octet] := by
  have taken : ((db.find key).any (fun old => old.length = 1) || room.item key) = true := by
    rw [Bool.or_eq_true]
    exact ready.symm
  exact congrArg Prod.snd (if_pos taken)

theorem find_create_other (different : other ≠ key) :
    (room.ucDbalCreate db key value).2.find other = db.find other := by
  rcases create_cases room db key value with put | same
  · rw [put, SortedMap.find_put, if_neg different]
  · rw [same]

private theorem ahead_create (stands : db.Ahead range ahead)
    (outside : (∀ entry ∈ ahead, keyBefore entry.1 key) ∨ ∀ entry ∈ ahead, keyBefore key entry.1) :
    (room.ucDbalCreate db key value).2.Ahead range ahead := by
  rcases create_cases room db key value with put | same
  · rw [put]
    exact stands.put outside
  · rw [same]
    exact stands

theorem ahead_create_area (room : NoticeRoom) (value : List UInt8) (stands : db.Ahead range ahead)
    (inside : ∀ entry ∈ ahead, InArea home entry.1) (placed : InArea area key)
    (elsewhere : area ≠ home) : (room.ucDbalCreate db key value).2.Ahead range ahead := by
  apply ahead_create stands
  have apart : area.toNat ≠ home.toNat := fun same => elsewhere (UInt8.toNat_inj.mp same)
  rcases Nat.lt_or_gt_of_ne apart with below | above
  · right
    intro entry member
    exact keyBefore_areas placed (inside entry member) (UInt8.lt_iff_toNat_lt.mpr below)
  · left
    intro entry member
    exact keyBefore_areas (inside entry member) placed (UInt8.lt_iff_toNat_lt.mpr above)

theorem find_create_area (notice : NoticeKey other) (placed : InArea area key)
    (elsewhere : area ≠ ucNoticeReg ∧ area ≠ ucNoticeAct ∧ area ≠ ucNoticeAct + 1) :
    (room.ucDbalCreate db key value).2.find other = db.find other := by
  apply find_create_other
  rintro rfl
  rcases notice with registered | pending | behind
  · exact elsewhere.1 (placed.unique registered)
  · exact elsewhere.2.1 (placed.unique pending)
  · exact elsewhere.2.2 (placed.unique behind)

end Create

section Deregister

variable {room : NoticeRoom} {semname : List UInt8} {db : NoticeDb} {range : Cursor (List UInt8)}
  {ahead : List (List UInt8 × List UInt8)} {entry : List UInt8 × List UInt8}

private theorem deleted_step (room : NoticeRoom) (stands : db.Ahead range (entry :: ahead)) (marked : entry.2 = [ucNoticeDbvalAdd]) :
    let after := (room.ucDbalCreate db entry.1 [ucNoticeDbvalDel]).2
    after.Ahead (db.forward range) ahead ∧ ∀ kd, after.find kd =
      if kd = entry.1 then some [ucNoticeDbvalDel] else db.find kd := by
  have present : Ready room db entry.1 := by
    right
    rw [stands.found, marked]
    rfl
  intro after
  have put : after = db.put entry.1 [ucNoticeDbvalDel] := create_ready _ present
  rw [put]
  refine ⟨stands.forward.put (.inr stands.order), ?_⟩
  intro kd
  exact SortedMap.find_put

theorem deleteSemnameLoop_marks (semname : List UInt8) (copied : room.copy = true) (fuel : Nat) (firstDel : Bool)
    (count : Int) (enough : ahead.length < fuel) (stands : db.Ahead range ahead)
    (inside : ∀ entry ∈ ahead, InArea ucNoticeReg entry.1) :
    ∃ result after, deleteSemnameLoop room semname fuel db range firstDel count =
        some (result, after) ∧ ∀ kd, NoticeKey kd → after.find kd =
      if (kd, [ucNoticeDbvalAdd]) ∈ ahead ∧ endsWithSemname semname kd = true
        then some [ucNoticeDbvalDel] else db.find kd := by
  induction ahead generalizing fuel db range firstDel count with
  | nil =>
    obtain ⟨fuel, rfl⟩ : ∃ rest, fuel = rest + 1 := Nat.exists_eq_succ_of_ne_zero (by omega)
    refine ⟨count, db, ?_, ?_⟩
    · rw [deleteSemnameLoop, stands.item_nil]
    · intro kd _
      rw [if_neg fun both => List.not_mem_nil both.1]
  | cons entry ahead ih =>
    obtain ⟨fuel, rfl⟩ : ∃ rest, fuel = rest + 1 := Nat.exists_eq_succ_of_ne_zero (by omega)
    have shorter : ahead.length < fuel := Nat.lt_of_succ_lt_succ enough
    have rest : ∀ other ∈ ahead, InArea ucNoticeReg other.1 :=
      fun other member => inside other (List.mem_cons_of_mem entry member)
    rw [deleteSemnameLoop, stands.item]
    by_cases chosen : endsWithSemname semname entry.1 = true ∧ entry.2 = [ucNoticeDbvalAdd]
    · obtain ⟨marked, found₁⟩ := deleted_step room stands chosen.2
      have whole (kd : List UInt8) : ((kd, [ucNoticeDbvalAdd]) ∈ entry :: ahead ∧
          endsWithSemname semname kd = true) ↔ kd = entry.1 ∨
            (kd, [ucNoticeDbvalAdd]) ∈ ahead ∧ endsWithSemname semname kd = true := by
        rw [List.mem_cons]
        constructor
        · rintro ⟨same | later, ends⟩
          · exact .inl (congrArg Prod.fst same)
          · exact .inr ⟨later, ends⟩
        · rintro (rfl | ⟨later, ends⟩)
          · refine ⟨.inl ?_, chosen.1⟩
            rw [← chosen.2]
          · exact ⟨.inr later, ends⟩
      -- the marks that the rest of the loop makes are added to this one
      have both {after next : NoticeDb} (same : ∀ kd, NoticeKey kd → next.find kd =
            (room.ucDbalCreate db entry.1 [ucNoticeDbvalDel]).2.find kd)
          (found : ∀ kd, NoticeKey kd → after.find kd =
            if (kd, [ucNoticeDbvalAdd]) ∈ ahead ∧ endsWithSemname semname kd = true
              then some [ucNoticeDbvalDel] else next.find kd) (kd : List UInt8)
          (notice : NoticeKey kd) : after.find kd =
            if (kd, [ucNoticeDbvalAdd]) ∈ entry :: ahead ∧ endsWithSemname semname kd = true
              then some [ucNoticeDbvalDel] else db.find kd := by
        rw [found kd notice, same kd notice, found₁ kd]
        simp only [whole kd]
        split_ifs <;> tauto
      simp only [if_pos chosen]
      by_cases notFirst : firstDel = false
      · rw [if_pos notFirst]
        obtain ⟨result, after, run, found⟩ := ih fuel false (count + 1) shorter marked rest
        exact ⟨result, after, run, both (fun _ _ => rfl) found⟩
      · have copies : ¬ room.copy = false := by
          rw [copied]
          exact Bool.noConfusion
        rw [if_neg notFirst, if_neg copies]
        have asking : InArea ucAskactionReg (entry.1.set 1 ucAskactionReg) := by
          obtain ⟨more, same⟩ := inside entry List.mem_cons_self
          rw [same]
          exact ⟨more, rfl⟩
        have deleting := ahead_create_area room [0] marked rest inArea_deletingKey (by decide)
        have asked := ahead_create_area room [ucAskactionNohw] deleting rest asking (by decide)
        obtain ⟨result, after, run, found⟩ := ih fuel false (count + 1) shorter asked rest
        refine ⟨result, after, run, both (fun kd notice => ?_) found⟩
        rw [find_create_area notice asking (by decide),
          find_create_area notice inArea_deletingKey (by decide)]
    · simp only [if_neg chosen]
      obtain ⟨result, after, run, found⟩ := ih fuel firstDel count shorter stands.forward rest
      refine ⟨result, after, run, ?_⟩
      intro kd notice
      rw [found kd notice]
      have whole : ((kd, [ucNoticeDbvalAdd]) ∈ entry :: ahead ∧ endsWithSemname semname kd = true) ↔
          (kd, [ucNoticeDbvalAdd]) ∈ ahead ∧ endsWithSemname semname kd = true := by
        rw [List.mem_cons]
        constructor
        · rintro ⟨rfl | later, ends⟩
          · exact absurd ⟨ends, rfl⟩ chosen
          · exact ⟨later, ends⟩
        · rintro ⟨later, ends⟩
          exact ⟨.inr later, ends⟩
      simp only [whole]

end Deregister

section Deliver

variable {semname : List UInt8} {db : NoticeDb} {range : Cursor (List UInt8)}
  {ahead : List (List UInt8 × List UInt8)}

theorem getNoticeActLoop_finds (semname : List UInt8) (fuel : Nat) (enough : ahead.length < fuel)
    (stands : db.Ahead range ahead)
    (shaped : ∀ entry ∈ ahead, ∃ registration : Registration, registration.Fits ∧
      entry = (registration.key ucNoticeAct, [0])) :
    (getNoticeActLoop semname fuel db range = some none ∧ ∀ registration : Registration,
      (registration.key ucNoticeAct, [0]) ∈ ahead → registration.semname.text ≠ semname) ∨
    ∃ registration : Registration, registration.Fits ∧ registration.semname.text = semname ∧
      (registration.key ucNoticeAct, [0]) ∈ ahead ∧ getNoticeActLoop semname fuel db range =
        some (some (registration.key ucNoticeAct, registration.part.length + 2)) := by
  induction ahead generalizing fuel range with
  | nil =>
    obtain ⟨fuel, rfl⟩ : ∃ rest, fuel = rest + 1 := Nat.exists_eq_succ_of_ne_zero (by omega)
    left
    refine ⟨?_, fun _ member => absurd member List.not_mem_nil⟩
    rw [getNoticeActLoop, stands.item_nil]
  | cons entry ahead ih =>
    obtain ⟨fuel, rfl⟩ : ∃ rest, fuel = rest + 1 := Nat.exists_eq_succ_of_ne_zero (by omega)
    obtain ⟨here, fits, rfl⟩ := shaped entry List.mem_cons_self
    have run : getNoticeActLoop semname (fuel + 1) db range = if here.semname.text = semname
          then some (some (here.key ucNoticeAct, here.part.length + 2))
          else getNoticeActLoop semname fuel db (db.forward range) := by
      rw [getNoticeActLoop, stands.item]
      simp only [Registration.bottomp (show ucNoticeAct ≠ apter by decide), Option.bind_eq_bind,
        Option.bind_some, Registration.cString_name]
    rw [run]
    by_cases same : here.semname.text = semname
    · rw [if_pos same]
      exact .inr ⟨here, fits, same, List.mem_cons_self, rfl⟩
    · rw [if_neg same]
      have later : ∀ other ∈ ahead, ∃ registration : Registration, registration.Fits ∧
          other = (registration.key ucNoticeAct, [0]) :=
        fun other member => shaped other (List.mem_cons_of_mem _ member)
      rcases ih fuel (Nat.lt_of_succ_lt_succ enough) stands.forward later with
        ⟨ended, nobody⟩ | ⟨found, fitting, named, member, ended⟩
      · refine .inl ⟨ended, ?_⟩
        intro registration member
        rcases List.mem_cons.mp member with first | behind
        · rw [Registration.key_injective (Prod.mk.inj first).1]
          exact same
        · exact nobody registration behind
      · exact .inr ⟨found, fitting, named, List.mem_cons_of_mem _ member, ended⟩

end Deliver

section Push

def semnames (list : List PutnoticeData) : List (List UInt8) := list.map PutnoticeData.semname

def Signals (fromthread : Bool) (room : NoticeRoom) (list : List PutnoticeData)
    (semname : List UInt8) : Prop :=
  fromthread = true ∨ semname ∈ semnames list ∨ room.semaphore semname = true

variable {fromthread : Bool} {room : NoticeRoom} {actkey semname : List UInt8}
  {list : List PutnoticeData} {pushing : Pushing} {ahead : List (List UInt8 × List UInt8)}
  {entry : List UInt8 × List UInt8} {registration : Registration}

theorem semnames_changeFirst (keeps : ∀ pnd, (change pnd).semname = pnd.semname)
    (list : List PutnoticeData) : semnames (changeFirst semname change list) = semnames list := by
  induction list with
  | nil => rfl
  | cons pnd rest ih =>
    rw [changeFirst]
    split_ifs
    · exact congrArg (· :: semnames rest) (keeps pnd)
    · exact congrArg (pnd.semname :: ·) ih

theorem incremantActcounter_signals (signals : Signals fromthread room list semname) :
    (incremantActcounter semname fromthread room list).1 ≠ -2 ∧
      ∀ name ∈ semnames list, name ∈ semnames (incremantActcounter semname fromthread room list).2 := by
  rw [incremantActcounter]
  by_cases there : ∃ pnd ∈ list, pnd.semname = semname
  · rw [if_pos there]
    refine ⟨show (0 : Int) ≠ -2 by decide, ?_⟩
    intro name member
    rw [semnames_changeFirst (by exact fun _ => rfl)]
    exact member
  · split_ifs with thread opened
    · exact ⟨show (-1 : Int) ≠ -2 by decide, fun _ member => member⟩
    · refine ⟨show (0 : Int) ≠ -2 by decide, ?_⟩
      intro name member
      rw [semnames, List.map_append]
      exact List.mem_append_left _ member
    · rcases signals with threads | member | opens
      · exact absurd threads thread
      · obtain ⟨pnd, inside, same⟩ := List.mem_map.mp member
        exact absurd ⟨pnd, inside, same⟩ there
      · exact absurd opens opened

def Pushing.Upcoming (pushing : Pushing) (ahead : List (List UInt8 × List UInt8)) : Prop :=
  if pushing.action = 0xff then pushing.db.Ahead pushing.range ahead
  else ∃ entry, pushing.db.Ahead pushing.range (entry :: ahead)

theorem Pushing.Upcoming.moved (upcoming : pushing.Upcoming ahead) : pushing.db.Ahead
    (if pushing.action ≠ 0xff then pushing.db.forward pushing.range else pushing.range) ahead := by
  rw [Pushing.Upcoming] at upcoming
  by_cases fresh : pushing.action = 0xff
  · rw [if_pos fresh] at upcoming
    rw [if_neg (not_not.mpr fresh)]
    exact upcoming
  · rw [if_neg fresh] at upcoming
    obtain ⟨entry, stands⟩ := upcoming
    rw [if_pos fresh]
    exact stands.forward

theorem part_prefix (registration : Registration) (fits : registration.Fits) :
    (noticeKsize (registration.key ucNoticeReg)
        ((registration.key ucNoticeReg).getD (registration.part.length + 2) 0) ≤ actkey.length ∧
      ((registration.key ucNoticeReg).drop 2).take (noticeKsize (registration.key ucNoticeReg)
        ((registration.key ucNoticeReg).getD (registration.part.length + 2) 0)) =
      actkey.take (noticeKsize (registration.key ucNoticeReg)
        ((registration.key ucNoticeReg).getD (registration.part.length + 2) 0))) ↔
      registration.part <+: actkey := by
  rw [Registration.getD_part, Registration.noticeKsize_key fits, Registration.take_part]
  constructor
  · exact fun both => List.prefix_iff_eq_take.mpr both.2
  · exact fun front => ⟨front.length_le, List.prefix_iff_eq_take.mp front⟩

/-- What a loop leaves for the next turns: the places and the names that they need. -/
structure Prepared (fromthread : Bool) (room : NoticeRoom) (actkey : List UInt8) (pushing : Pushing)
    (ahead : List (List UInt8 × List UInt8)) : Prop where
  shaped : ∀ entry ∈ ahead, ∃ (registration : Registration) (regval : NoticeRegisterValue),
    registration.Fits ∧ entry = (registration.key ucNoticeReg, [regval.octet])
  ready : ∀ registration : Registration,
    (registration.key ucNoticeReg, [ucNoticeDbvalAdd]) ∈ ahead → registration.part <+: actkey →
      Ready room pushing.db (registration.key ucNoticeAct) ∧
        Signals fromthread room pushing.list registration.semname.text

theorem pushItem_delivers (fromthread : Bool) (room : NoticeRoom) (actkey : List UInt8)
    (pushing : Pushing) (fits : registration.Fits)
    (stands : pushing.db.Ahead pushing.range (entry :: ahead))
    (inside : ∀ other ∈ entry :: ahead, InArea ucNoticeReg other.1)
    (needs : registration.part <+: actkey → Ready room pushing.db (registration.key ucNoticeAct) ∧
        Signals fromthread room pushing.list registration.semname.text) :
    ∃ next, pushItem fromthread room actkey pushing (registration.key ucNoticeReg)
        (registration.part.length + 2) = some (next, false) ∧ next.action = pushing.action ∧
      next.db.Ahead next.range (entry :: ahead) ∧
      (∀ kd, next.db.find kd = if registration.part <+: actkey ∧ kd = registration.key ucNoticeAct
        then some [0] else pushing.db.find kd) ∧
      ∀ name ∈ semnames pushing.list, name ∈ semnames next.list := by
  have small : ¬ ucMaxKeysize < (registration.key ucNoticeReg).length := Nat.not_lt.mpr fits
  have counted : ∀ name ∈ semnames pushing.list,
      name ∈ semnames (nuIncrementRefcounter registration.semname.text pushing.list) := by
    intro name member
    rw [nuIncrementRefcounter, semnames_changeFirst (by exact fun _ => rfl)]
    exact member
  simp only [pushItem, if_neg small, Registration.cString_name, Option.bind_eq_bind,
    Option.bind_some, part_prefix registration fits]
  by_cases front : registration.part <+: actkey
  · obtain ⟨ready, signals⟩ := needs front
    have present : Signals fromthread room
        (nuIncrementRefcounter registration.semname.text pushing.list)
        registration.semname.text := by
      rcases signals with thread | member | opens
      · exact .inl thread
      · exact .inr (.inl (counted _ member))
      · exact .inr (.inr opens)
    obtain ⟨posted, kept⟩ := incremantActcounter_signals present
    rw [if_pos front, if_neg posted]
    refine ⟨_, rfl, rfl, ?_, ?_, fun name member => kept name (counted name member)⟩
    · exact ahead_create_area room [0] stands inside (registration.inArea ucNoticeAct) (by decide)
    · intro kd
      change (room.ucDbalCreate pushing.db (registration.key ucNoticeAct) [0]).2.find kd = _
      rw [create_ready 0 ready, SortedMap.find_put]
      simp only [front, true_and]
  · rw [if_neg front]
    refine ⟨_, rfl, rfl, stands, ?_, counted⟩
    intro kd
    rw [if_neg fun both => front both.1]

structure Delivers (actkey : List UInt8) (ahead : List (List UInt8 × List UInt8))
    (before after : NoticeDb) : Prop where
  registered : ∀ kd, InArea ucNoticeReg kd → after.find kd =
    if (kd, [ucNoticeDbvalDel]) ∈ ahead then none else before.find kd
  pending : ∀ registration : Registration, after.find (registration.key ucNoticeAct) =
    if (registration.key ucNoticeReg, [ucNoticeDbvalAdd]) ∈ ahead ∧ registration.part <+: actkey
      then some [0] else before.find (registration.key ucNoticeAct)
  others : ∀ kd, InArea ucNoticeAct kd →
    (∀ registration : Registration, registration.Fits → kd ≠ registration.key ucNoticeAct) →
    after.find kd = before.find kd
  elsewhere : ∀ kd, ¬ InArea ucNoticeReg kd → ¬ InArea ucNoticeAct kd →
    after.find kd = before.find kd

theorem Registration.key_area {first second : Registration}
    (same : first.key area = second.key other) : area = other :=
  (first.inArea area).unique (same ▸ second.inArea other)

section Turns

variable {here : Registration} {before item after : NoticeDb}

theorem Delivers.erased (delivers : Delivers actkey ahead (before.erase (here.key ucNoticeReg)) after) :
    Delivers actkey ((here.key ucNoticeReg, [ucNoticeDbvalDel]) :: ahead) before after where
  registered kd area := by
    rw [delivers.registered kd area, SortedMap.find_erase]
    by_cases same : kd = here.key ucNoticeReg <;> simp [same]
  pending registration := by
    have differ : ¬ (registration.key ucNoticeReg, [ucNoticeDbvalAdd]) =
        (here.key ucNoticeReg, [ucNoticeDbvalDel]) :=
      fun same => absurd (Prod.mk.inj same).2 (by decide)
    have other : registration.key ucNoticeAct ≠ here.key ucNoticeReg :=
      fun same => absurd (Registration.key_area same) (by decide)
    rw [delivers.pending registration, SortedMap.find_erase, if_neg other]
    simp only [List.mem_cons, differ, false_or]
  others kd area nobody := by
    have different : kd ≠ here.key ucNoticeReg := by
      rintro rfl
      exact absurd (area.unique (here.inArea ucNoticeReg)) (by decide)
    rw [delivers.others kd area nobody, SortedMap.find_erase, if_neg different]
  elsewhere kd notRegistered notPending := by
    have different : kd ≠ here.key ucNoticeReg := by
      rintro rfl
      exact notRegistered (here.inArea ucNoticeReg)
    rw [delivers.elsewhere kd notRegistered notPending, SortedMap.find_erase, if_neg different]

variable (found : ∀ kd, item.find kd = if here.part <+: actkey ∧ kd = here.key ucNoticeAct
  then some [0] else before.find kd)
include found

theorem Delivers.pushed (fits : here.Fits) (once : ∀ value, (here.key ucNoticeReg, value) ∉ ahead)
    (delivers : Delivers actkey ahead item after) :
    Delivers actkey ((here.key ucNoticeReg, [ucNoticeDbvalAdd]) :: ahead) before after where
  registered kd area := by
    have different : kd ≠ here.key ucNoticeAct := by
      rintro rfl
      exact absurd (area.unique (here.inArea ucNoticeAct)) (by decide)
    have differ : ¬ (kd, [ucNoticeDbvalDel]) = (here.key ucNoticeReg, [ucNoticeDbvalAdd]) :=
      fun same => absurd (Prod.mk.inj same).2 (by decide)
    rw [delivers.registered kd area, found kd, if_neg fun both : _ ∧ kd = _ => different both.2]
    simp only [List.mem_cons, differ, false_or]
  pending registration := by
    rw [delivers.pending registration, found]
    simp only [Registration.key_inj]
    by_cases first : registration = here
    · subst first
      simp only [once, false_and, if_false, and_true, List.mem_cons, true_or, true_and]
    · have differ : ¬ (registration.key ucNoticeReg, [ucNoticeDbvalAdd]) =
          (here.key ucNoticeReg, [ucNoticeDbvalAdd]) :=
        fun same => first (Registration.key_injective (Prod.mk.inj same).1)
      simp only [first, and_false, if_false, List.mem_cons, differ, false_or]
  others kd area nobody := by
    rw [delivers.others kd area nobody, found kd,
      if_neg fun both : _ ∧ kd = _ => nobody here fits both.2]
  elsewhere kd notRegistered notPending := by
    have different : kd ≠ here.key ucNoticeAct := by
      rintro rfl
      exact notPending (here.inArea ucNoticeAct)
    rw [delivers.elsewhere kd notRegistered notPending, found kd,
      if_neg fun both : _ ∧ kd = _ => different both.2]

/-- What is pushed makes a place, and keeps those that there are. -/
theorem Ready.pushed (ready : Ready room before (registration.key ucNoticeAct)) :
    Ready room item (registration.key ucNoticeAct) := by
  rcases ready with granted | there
  · exact .inl granted
  · right
    rw [found]
    by_cases again : here.part <+: actkey ∧ registration.key ucNoticeAct = here.key ucNoticeAct
    · rw [if_pos again]
      rfl
    · rw [if_neg again]
      exact there

end Turns

theorem pushLoop_delivers (fromthread : Bool) (room : NoticeRoom) (actkey : List UInt8) (fuel : Nat)
    (pushing : Pushing) (enough : ahead.length < fuel) (upcoming : pushing.Upcoming ahead)
    (prepared : Prepared fromthread room actkey pushing ahead) :
    ∃ next, pushLoop fromthread room actkey fuel pushing = some (next, false) ∧
      Delivers actkey ahead pushing.db next.db := by
  induction ahead generalizing fuel pushing with
  | nil =>
    obtain ⟨fuel, rfl⟩ : ∃ rest, fuel = rest + 1 := Nat.exists_eq_succ_of_ne_zero (by omega)
    simp only [pushLoop, upcoming.moved.item_nil]
    refine ⟨_, rfl, ?_, ?_, fun _ _ _ => rfl, fun _ _ _ => rfl⟩
    · exact fun kd _ => (if_neg List.not_mem_nil).symm
    · exact fun registration => (if_neg fun both => List.not_mem_nil both.1).symm
  | cons entry ahead ih =>
    obtain ⟨fuel, rfl⟩ : ∃ rest, fuel = rest + 1 := Nat.exists_eq_succ_of_ne_zero (by omega)
    have shorter : ahead.length < fuel := Nat.lt_of_succ_lt_succ enough
    have stands := upcoming.moved
    obtain ⟨here, regval, fits, rfl⟩ := prepared.shaped entry List.mem_cons_self
    have shaped : ∀ entry ∈ ahead, ∃ (registration : Registration) (regval : NoticeRegisterValue),
        registration.Fits ∧ entry = (registration.key ucNoticeReg, [regval.octet]) :=
      fun other member => prepared.shaped other (List.mem_cons_of_mem _ member)
    have inside : ∀ other ∈ (here.key ucNoticeReg, [regval.octet]) :: ahead,
        InArea ucNoticeReg other.1 := by
      intro other member
      obtain ⟨registration, _, _, rfl⟩ := prepared.shaped other member
      exact registration.inArea ucNoticeReg
    have bottom : yangDbKeyBottomp (here.key ucNoticeReg) = some (some (here.part.length + 2)) :=
      Registration.bottomp (by decide)
    cases regval with
    | del =>
      -- the registration is erased, and the loop stands on the next one
      simp only [pushLoop, stands.item, bottom, Option.bind_eq_bind, Option.bind_some,
        NoticeRegisterValue.octet, if_true]
      obtain ⟨next, run, delivers⟩ := ih fuel { pushing with
          db := pushing.db.erase (here.key ucNoticeReg)
          range := pushing.db.forward (if pushing.action ≠ 0xff
            then pushing.db.forward pushing.range else pushing.range)
          action := 0xff
          delhappen := true } shorter stands.erase (by
        refine ⟨shaped, ?_⟩
        intro registration member front
        obtain ⟨ready, signals⟩ := prepared.ready registration (List.mem_cons_of_mem _ member) front
        have other : registration.key ucNoticeAct ≠ here.key ucNoticeReg :=
          fun same => absurd (Registration.key_area same) (by decide)
        rw [Ready, SortedMap.find_erase, if_neg other]
        exact ⟨ready, signals⟩)
      exact ⟨next, run, delivers.erased⟩
    | add =>
      have goesOn : ¬ NoticeRegisterValue.add.octet = ucNoticeDbvalDel := by decide
      have once : ∀ value, (here.key ucNoticeReg, value) ∉ ahead := by
        intro value member
        exact irrefl_of keyBefore (here.key ucNoticeReg) (stands.order (_, value) member)
      obtain ⟨item, taken, same, stands₁, found, kept⟩ := pushItem_delivers fromthread room
        actkey { pushing with
          range := if pushing.action ≠ 0xff then pushing.db.forward pushing.range else pushing.range
          action := NoticeRegisterValue.add.octet }
        fits stands inside (prepared.ready here List.mem_cons_self)
      have running : item.action ≠ 0xff := by
        rw [same]
        exact show NoticeRegisterValue.add.octet ≠ 0xff by decide
      have run : pushLoop fromthread room actkey (fuel + 1) pushing =
          pushLoop fromthread room actkey fuel item := by
        simp only [pushLoop, stands.item, bottom, Option.bind_eq_bind, Option.bind_some,
          if_neg goesOn, taken]
        rfl
      have upcoming₁ : item.Upcoming ahead := by
        rw [Pushing.Upcoming, if_neg running]
        exact ⟨_, stands₁⟩
      have prepared₁ : Prepared fromthread room actkey item ahead := by
        refine ⟨shaped, ?_⟩
        intro registration member front
        obtain ⟨ready, signals⟩ := prepared.ready registration (List.mem_cons_of_mem _ member) front
        refine ⟨ready.pushed found, ?_⟩
        rcases signals with thread | member | opens
        · exact .inl thread
        · exact .inr (.inl (kept _ member))
        · exact .inr (.inr opens)
      obtain ⟨next, ended, delivers⟩ := ih fuel item shorter upcoming₁ prepared₁
      rw [run]
      exact ⟨next, ended, delivers.pushed found fits once⟩

end Push

end EnetTsn.Uniconf
