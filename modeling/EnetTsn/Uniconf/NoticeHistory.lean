import EnetTsn.Uniconf.NoticeKeys

namespace EnetTsn.Uniconf

open EnetTsn.Library

inductive NoticeCall (ι : Type) where
  | register (who : ι) (aps : NodePath) (kvs : List ValueKey) (regval : NoticeRegisterValue)
  | deregisterAll (who : ι) (semname : List UInt8)
  | push (aps : NodePath) (kvs : List ValueKey)
  | getNoticeAct (semname : List UInt8)

structure NoticeEvent (ι : Type) where
  call : NoticeCall ι
  room : NoticeRoom

/-- The database, the lists of the processes, and the calls so far with their answers, the latest
first. -/
structure Notices (ι : Type) where
  db : NoticeDb
  lists : ι → List PutnoticeData
  history : List (NoticeEvent ι × NoticeAnswer)

inductive Noticing (ι : Type) where
  | intact (notices : Notices ι)
  | corrupted

section Calls

variable {ι : Type} [DecidableEq ι] (fromthread : Bool) (uniconf : ι)

def listOwner (who : ι) : ι := if fromthread then uniconf else who

namespace Notices

def data (notices : Notices ι) (owner : ι) : UcNoticeData := ⟨notices.db, notices.lists owner⟩

def answered (notices : Notices ι) (event : NoticeEvent ι) (owner : ι)
    (result : Option (NoticeAnswer × UcNoticeData)) : Option (Notices ι) :=
  result.map fun (answer, data) =>
    { db := data.db
      lists := Function.update notices.lists owner data.putnoticeList
      history := (event, answer) :: notices.history }

def called (notices : Notices ι) (event : NoticeEvent ι) : Option (Notices ι) :=
  match event.call with
  | .register who aps kvs regval =>
    let owner := listOwner fromthread uniconf who
    notices.answered event owner
      (ucNcNoticeRegister event.room (notices.data owner) aps kvs regval)
  | .deregisterAll who semname =>
    let owner := listOwner fromthread uniconf who
    notices.answered event owner
      (ucNcNoticeDeregisterAll event.room (notices.data owner) semname)
  | .push aps kvs => notices.answered event uniconf
      (ucNuPutnoticePush fromthread event.room (notices.data uniconf) aps kvs)
  | .getNoticeAct semname => notices.answered event uniconf
      ((ucNcGetNoticeAct event.room notices.db semname).map fun (answer, db) =>
        (answer, ⟨db, notices.lists uniconf⟩))

end Notices

def noticeSystem (db : NoticeDb) : System (Noticing ι) (NoticeEvent ι) where
  start := .intact { db := db, lists := fun _ => [], history := [] }
  step
    | .corrupted, _ => none
    | .intact notices, event =>
      some ((notices.called fromthread uniconf event).elim .corrupted .intact)

end Calls

section History

variable {ι : Type}

def liveOf : List (NoticeEvent ι × NoticeAnswer) → List Registration
  | [] => []
  | (event, answer) :: earlier =>
    match event.call with
    | .register _ aps kvs regval =>
      match registrationOf aps kvs, regval with
      | some registration, .add =>
        if answer.res = 0 then registration :: liveOf earlier else liveOf earlier
      | some registration, .del =>
        if answer.res = 0 then (liveOf earlier).filter (· ≠ registration) else liveOf earlier
      | none, _ => liveOf earlier
    | .deregisterAll _ semname =>
      (liveOf earlier).filter fun registration => registration.semname.text ≠ semname
    | _ => liveOf earlier

/-- The notices that are pending after the calls so far: a push adds those for the registrations
that live and whose key is a prefix of its key, and an answer takes its notice away. -/
def pendingOf : List (NoticeEvent ι × NoticeAnswer) → List Registration
  | [] => []
  | (event, answer) :: earlier =>
    match event.call with
    | .push aps kvs => pendingOf earlier ++
        (liveOf earlier).filter fun registration => registration.part <+: pushedKey aps kvs
    | .getNoticeAct semname =>
      if answer.res = 0 then (pendingOf earlier).filter fun registration =>
        ¬ (registration.semname.text = semname ∧ registration.part = answer.key)
      else pendingOf earlier
    | _ => pendingOf earlier

/-- An answer to a client that asks for its notices: one that is pending for its semaphore, or
that there is none. -/
def AnswerRight (semname : List UInt8) (answer : NoticeAnswer) (pending : List Registration) :
    Prop :=
  if answer.res = 0 then ∃ registration ∈ pending, registration.semname.text = semname ∧
    registration.part = answer.key
  else ∀ registration ∈ pending, registration.semname.text ≠ semname

def AnswersRight : List (NoticeEvent ι × NoticeAnswer) → Prop
  | [] => True
  | (event, answer) :: earlier => AnswersRight earlier ∧
    match event.call with
    | .getNoticeAct semname => AnswerRight semname answer (pendingOf earlier)
    | _ => True

/-- The database has exactly the registrations that live and the notices that are pending, and
the notices have been answered for. -/
structure Notices.Delivered (notices : Notices ι) : Prop where
  live : ∀ registration : Registration,
    notices.db.find (registration.key ucNoticeReg) = some [ucNoticeDbvalAdd] ↔
      registration ∈ liveOf notices.history
  pending : ∀ registration : Registration,
    (notices.db.find (registration.key ucNoticeAct)).isSome = true ↔
      registration ∈ pendingOf notices.history
  answers : AnswersRight notices.history

def HasPlace (room : NoticeRoom) (db : NoticeDb) (key : List UInt8) : Prop :=
  room.item key = true ∨ (db.find key).isSome = true

instance (room : NoticeRoom) (db : NoticeDb) (key : List UInt8) : Decidable (HasPlace room db key) :=
  inferInstanceAs (Decidable (_ ∨ _))

/-- What a call needs: memory, keys that fit, semaphores that can be signalled; and the name of a
semaphore of which all registrations are to go is not the end of a longer one, with its size for
the character before it. -/
def NoticeGranted (fromthread : Bool) (uniconf : ι) (notices : Notices ι) (event : NoticeEvent ι) :
    Prop :=
  match event.call with
  | .register _ aps kvs .add => ∀ registration ∈ registrationOf aps kvs, registration.Fits ∧
      HasPlace event.room notices.db (registration.key ucNoticeReg)
  | .register _ _ _ .del => True
  | .deregisterAll _ semname => event.room.range = true ∧ event.room.copy = true ∧
      ∀ registration ∈ liveOf notices.history,
        endsWithSemname semname (registration.key ucNoticeReg) = true →
          registration.semname.text = semname
  | .push aps kvs => event.room.range = true ∧ (pushedKey aps kvs).length ≤ ucMaxKeysize ∧
      ∀ registration ∈ liveOf notices.history, registration.part <+: pushedKey aps kvs →
        HasPlace event.room notices.db (registration.key ucNoticeAct) ∧
          (fromthread = true ∨
            registration.semname.text ∈ (notices.lists uniconf).map PutnoticeData.semname ∨
            event.room.semaphore registration.semname.text = true)
  | .getNoticeAct _ => event.room.range = true

instance (fromthread : Bool) (uniconf : ι) (notices : Notices ι) (event : NoticeEvent ι) :
    Decidable (NoticeGranted fromthread uniconf notices event) :=
  match event with
  | ⟨.register _ _ _ .add, _⟩ => inferInstanceAs (Decidable (∀ _ ∈ _, _ ∧ _))
  | ⟨.register _ _ _ .del, _⟩ => inferInstanceAs (Decidable True)
  | ⟨.deregisterAll _ _, _⟩ => inferInstanceAs (Decidable (_ ∧ _ ∧ _))
  | ⟨.push _ _, _⟩ => inferInstanceAs (Decidable (_ ∧ _ ∧ _))
  | ⟨.getNoticeAct _, _⟩ => inferInstanceAs (Decidable (_ = true))

def NoticePermitted (fromthread : Bool) (uniconf : ι) : Noticing ι → NoticeEvent ι → Prop
  | .intact notices, event => NoticeGranted fromthread uniconf notices event
  | .corrupted, _ => True

instance (fromthread : Bool) (uniconf : ι) (noticing : Noticing ι) (event : NoticeEvent ι) :
    Decidable (NoticePermitted fromthread uniconf noticing event) :=
  match noticing with
  | .intact notices => inferInstanceAs (Decidable (NoticeGranted fromthread uniconf notices event))
  | .corrupted => inferInstanceAs (Decidable True)

def Quiet (db : NoticeDb) : Prop := ∀ entry ∈ db.entries,
  ¬ [xl4DataRo, ucNoticeReg] <+: entry.1 ∧ ¬ [xl4DataRo, ucNoticeAct] <+: entry.1 ∧
    entry.1 ≠ [xl4DataRo, ucNoticeAct + 1]

end History

end EnetTsn.Uniconf
