import EnetTsn.Library.CharSearch
import EnetTsn.Uniconf.ItemChanges

/-!
The update of a leaf-list of strings, `leaflist_strupdate` of `yang_db_access.c`. The stored octets
are copied, and written again around the item that is replaced, with one put after the other, all
without hardware data: `hwald` is `NULL`.
-/

namespace EnetTsn.Uniconf

open EnetTsn.Library

abbrev ItemText := List UInt8

def listText (texts : List ItemText) : List UInt8 := texts.flatMap (· ++ [0])

def replaceFirst (found : ItemText → Bool) (new : Option ItemText) (texts : List ItemText) : List ItemText :=
  texts.takeWhile (!found ·) ++ new.toList ++ (texts.dropWhile (!found ·)).tail

def PutValue.ofOctets (bytes : List UInt8) : PutValue :=
  if short : bytes.length < 2 ^ 32 then .of bytes short else .null

structure UpdateMemory (ν : Type) where
  copy : Bool
  puts : Nat → Pools ν × Pools ν

def UpdateMemory.filled (memory : UpdateMemory ν) (content : Nat → UInt8) : UpdateMemory ν where
  copy := memory.copy
  puts turn := ({ (memory.puts turn).1 with content }, { (memory.puts turn).2 with content })

/-- Where an update stands: the store, `res`, and what its writes have returned. -/
structure Rewritten (ν : Type) where
  db : Simpledb ν
  res : Int
  answers : List Int

variable {ν : Type} [DecidableEq ν]

/-- `yang_db_put` with `hwald` being `NULL`. A put that fails is tried again. -/
def Simpledb.yangDbPut (db : Simpledb ν) (kd : List UInt8) (value : PutValue) (appends : Bool)
    (memory : Pools ν × Pools ν) : Option (Simpledb ν × Int) := do
  let flags := if appends then simpledbFlagCreate ||| simpledbFlagAppend else simpledbFlagCreate
  let (tried, res) ← db.onedbPut kd value flags memory.1
  if res = 0 then some (tried, 0) else tried.onedbPut kd value flags memory.2

namespace Rewritten

def put (done : Rewritten ν) (kd : List UInt8) (bytes : List UInt8) (appends : Bool)
    (memory : Pools ν × Pools ν) : Option (Rewritten ν) :=
  if done.res ≠ 0 then some done
  else (done.db.yangDbPut kd (.ofOctets bytes) appends memory).map fun (db, res) =>
    ⟨db, res, res :: done.answers⟩

def del (done : Rewritten ν) (kd : List UInt8) : Option (Rewritten ν) :=
  (done.db.onedbDel kd).map fun (db, res) => ⟨db, res, res :: done.answers⟩

end Rewritten

/-- The search for the old item, from the octets `rest` at `ip` on: where it stands, and the size of
the last element that was looked at. -/
def seekItem (ovalue : List UInt8) : Nat → List UInt8 → Nat → Nat → Option (Nat × Nat)
  | 0, _, _, _ => none
  | fuel + 1, rest, ip, fvsize =>
    if rest = [] then some (ip, fvsize)
    else
      let size := (rest.takeWhile (· ≠ 0)).length + 1
      if ovalue.length ≤ size ∧ memcmp ovalue.length rest ovalue = 0 then some (ip, size)
      else seekItem ovalue fuel (rest.drop size) (ip + size) size

/-- The writes of `leaflist_strupdate`. -/
def rewriteList (db : Simpledb ν) (kd rdata : List UInt8) (ip fvsize : Nat)
    (nvalue : Option (List UInt8)) (puts : Nat → Pools ν × Pools ν) : Option (Rewritten ν) := do
  let start : Rewritten ν := ⟨db, 0, []⟩
  if ip = rdata.length then
    match nvalue with
    | none => some start
    | some new => start.put kd new true (puts 0)
  else
    let before ← if 0 < ip then start.put kd (rdata.take ip) false (puts 0) else some start
    let replaced ←
      match nvalue with
      | none => some before
      | some new => before.put kd new (0 < ip) (puts 1)
    if ip + fvsize < rdata.length then
      replaced.put kd (rdata.drop (ip + fvsize)) (0 < ip || nvalue.isSome) (puts 2)
    else if ip = 0 ∧ nvalue = none then replaced.del kd
    else some replaced

/-- `leaflist_strupdate` without a callback, for an old item that is given. -/
def leaflistStrupdate (db : Simpledb ν) (kd ovalue : List UInt8) (nvalue : Option (List UInt8))
    (memory : UpdateMemory ν) : Option (Rewritten ν) := do
  let (held, found) ← db.onedbGet kd
  match found with
  | none =>
    let value := nvalue.elim .null PutValue.ofOctets
    (held.yangDbPut kd value false (memory.puts 0)).map fun (db, res) => ⟨db, res, [res]⟩
  | some dbd =>
    if memory.copy = false ∨ dbd.vsize = 0 then some ⟨held, -1, []⟩
    else
      let rdata ← dbd.read
      let (released, res) ← held.onedbGetRelease kd
      if res ≠ 0 then some ⟨released, 0, []⟩
      else
        let (ip, fvsize) ← seekItem ovalue (rdata.length + 1) rdata 0 0
        rewriteList released kd rdata (min ip rdata.length) fvsize nvalue memory.puts

section Lists

variable {texts : List ItemText} {old text : ItemText} {new : Option ItemText} {found : ItemText → Bool}

theorem listText_cons (text : ItemText) (texts : List ItemText) :
    listText (text :: texts) = text ++ 0 :: listText texts := by
  simp [listText]

theorem replaceFirst_cons (text : ItemText) (texts : List ItemText) :
    replaceFirst found new (text :: texts) =
      if found text then new.toList ++ texts else text :: replaceFirst found new texts := by
  cases here : found text <;> simp [replaceFirst, here]

theorem listText_inj (plain : ∀ text ∈ texts, 0 ∉ text) (plain' : ∀ text ∈ others, 0 ∉ text)
    (same : listText texts = listText others) : texts = others := by
  induction texts generalizing others with
  | nil =>
    cases others with
    | nil => rfl
    | cons text others => simp [listText] at same
  | cons text texts ih =>
    cases others with
    | nil => simp [listText] at same
    | cons other others =>
      rw [listText_cons, listText_cons] at same
      have first := congrArg (List.takeWhile (· ≠ 0)) same
      rw [takeWhile_mark (plain text List.mem_cons_self),
        takeWhile_mark (plain' other List.mem_cons_self)] at first
      subst first
      rw [ih (fun _ inside => plain _ (List.mem_cons_of_mem _ inside))
        (fun _ inside => plain' _ (List.mem_cons_of_mem _ inside))
        (List.cons.inj (List.append_cancel_left same)).2]

theorem count_replaceFirst (different : new ≠ some old) (texts : List ItemText) :
    if old ∈ texts then (replaceFirst (· = old) new texts).count old < texts.count old
    else replaceFirst (· = old) new texts = texts ++ new.toList := by
  induction texts with
  | nil => simp [replaceFirst]
  | cons text texts ih =>
    rw [replaceFirst_cons]
    by_cases here : text = old
    · subst here
      have none_ : new.toList.count text = 0 := by
        rw [List.count_eq_zero, Option.mem_toList]
        exact different
      simp [none_]
    · simp only [List.mem_cons, here, Ne.symm here, false_or, decide_false, Bool.false_eq_true,
        if_false, List.count_cons_of_ne here, List.cons_append]
      split at ih
      · rename_i inside
        rw [if_pos inside]
        exact ih
      · rename_i outside
        rw [if_neg outside, ih]

theorem replaceFirst_eq_iff (finds : found old = true) (new : Option ItemText)
    (texts : List ItemText) : replaceFirst found new texts = replaceFirst (· = old) new texts ↔
      ∀ text ∈ texts.find? found, text = old := by
  induction texts with
  | nil => simp [replaceFirst]
  | cons text texts ih =>
    rw [replaceFirst_cons, replaceFirst_cons]
    by_cases same : text = old
    · subst same
      simp [finds]
    · cases here : found text with
      | false => simp [here, same, ih]
      | true =>
        simp only [if_true, same, decide_false, Bool.false_eq_true, if_false, List.find?_cons, here,
          Option.mem_def, Option.some.injEq, forall_eq', iff_false]
        intro equal
        have different : new ≠ some old := by
          rintro rfl
          exact same (List.cons.inj equal).1.symm
        have counted := count_replaceFirst different texts
        have length := congrArg List.length equal
        have number := congrArg (List.count old) equal
        rw [List.count_cons_of_ne same, List.count_append] at number
        split at counted
        · omega
        · rw [counted, List.length_cons, List.length_append, List.length_append] at length
          omega

end Lists

def Dbdata.putOnce (dbd : Dbdata) (bytes : List UInt8) (appends : Bool) (pools : Pools ν) :
    Option (Dbdata × Int) :=
  let value := PutValue.ofOctets bytes
  if appends then
    match pools.regetmem dbd.vdata (dbd.vsize + value.vlen).toNat with
    | none => some ({ dbd with vdata := none }, -1)
    | some block => (memcpy block dbd.vsize.toNat bytes).map fun written =>
        ({ dbd with vdata := some written, vsize := dbd.vsize + value.vlen }, 0)
  else
    match Simpledb.resizeValue dbd value pools with
    | .error lost => some (lost, -1)
    | .ok resized => (Simpledb.copyValue resized value).map fun copied => (copied, 0)

def writtenOctets (stored bytes : List UInt8) (appends : Bool) (memory : Pools ν × Pools ν) :
    Option (List UInt8) :=
  if appends then
    if memory.1.vdata then some (stored ++ bytes)
    else if memory.2.vdata then some ((List.range stored.length).map memory.2.content ++ bytes)
    else none
  else if bytes.length = stored.length ∨ memory.1.vdata = true ∨ memory.2.vdata = true then some bytes
  else none

section Puts

variable {db : Simpledb ν} {nodes : List ν} {node : ν} {dbd : Dbdata} {bytes stored : List UInt8}
  {appends : Bool} {pools : Pools ν} {memory : Pools ν × Pools ν}

theorem PutValue.ofOctets_eq (short : bytes.length < 2 ^ 32) :
    PutValue.ofOctets bytes = .of bytes short := dif_pos short

theorem Simpledb.Shaped.onedbPut_at (shaped : db.Shaped nodes) (member : node ∈ nodes)
    (found : db.data node = some dbd) (free : dbd.refcounter = 0) (short : bytes.length < 2 ^ 32)
    (appends : Bool) (pools : Pools ν) : db.onedbPut dbd.kd (.ofOctets bytes)
        (if appends then simpledbFlagCreate ||| simpledbFlagAppend else simpledbFlagCreate) pools =
      (dbd.putOnce bytes appends pools).map fun (changed, res) => (db.setData node changed, res) := by
  have searched := shaped.sorted.binSearch_found member (key_eq found)
  have unlocked : ¬ 0 < dbd.refcounter := by rw [free]; decide
  rw [Simpledb.onedbPut, Dbdata.putOnce]
  simp only [searched, Option.bind_eq_bind, Option.bind_some, ne_eq, not_true_eq_false, if_false,
    found, unlocked]
  cases appends with
  | true =>
    rw [if_pos (by decide), if_pos rfl, Simpledb.appendValue, PutValue.ofOctets_eq short]
    simp only [PutValue.of]
    cases pools.regetmem dbd.vdata (dbd.vsize + UInt32.ofNat bytes.length).toNat with
    | none => rfl
    | some block => simp only [Option.map_map]; cases memcpy block dbd.vsize.toNat bytes <;> rfl
  | false =>
    rw [if_neg (by decide), if_neg (by simp), Simpledb.storeValue, found]
    simp only [Option.bind_eq_bind, Option.bind_some]
    cases Simpledb.resizeValue dbd (.ofOctets bytes) pools with
    | error lost => rfl
    | ok resized =>
      dsimp only
      cases Simpledb.copyValue resized (.ofOctets bytes) <;> rfl

theorem size_ne (short : bytes.length < 2 ^ 32) (different : size.toNat ≠ bytes.length) :
    size ≠ UInt32.ofNat bytes.length := by
  rintro rfl
  exact different (UInt32.toNat_ofNat_of_lt' short)

omit [DecidableEq ν] in
theorem Dbdata.Holds.putOnce_granted {locks : UInt8} (holds : dbd.Holds ⟨stored, locks⟩)
    (appends : Bool) (filled : bytes ≠ []) (fits : stored.length + bytes.length < 2 ^ 32)
    (granted : pools.vdata = true ∨ appends = false ∧ bytes.length = stored.length) :
    ∃ changed, dbd.putOnce bytes appends pools = some (changed, 0) ∧ changed.kd = dbd.kd ∧
      changed.Holds ⟨if appends then stored ++ bytes else bytes, locks⟩ := by
  have short : bytes.length < 2 ^ 32 := by omega
  rw [Dbdata.putOnce, PutValue.ofOctets_eq short]
  cases appends with
  | true =>
    have room : Appendable stored (.of bytes short) pools := by
      rintro _ ⟨⟩
      exact ⟨fits, fun _ => granted.resolve_right nofun⟩
    obtain ⟨block, given, written, after⟩ := holds.append rfl room (by simp [filled])
    refine ⟨{ dbd with
      vdata := some (stored ++ bytes)
      vsize := dbd.vsize + (PutValue.of bytes short).vlen }, ?_, rfl, after⟩
    simp only [if_true, given, written, Option.map_some]
  | false =>
    have room : Replaceable stored (.of bytes short) pools := fun different =>
      ⟨filled, granted.resolve_right fun same => different same.2⟩
    obtain ⟨resized, changed, resizes, copied, key, after⟩ := holds.replace room
    refine ⟨changed, ?_, key, after⟩
    simp only [Bool.false_eq_true, if_false, resizes, copied, Option.map_some]

omit [DecidableEq ν] in
theorem putOnce_refused (dbd : Dbdata) (refused : pools.vdata = false)
    (short : bytes.length < 2 ^ 32) (asks : appends = true ∨ dbd.vsize.toNat ≠ bytes.length) :
    dbd.putOnce bytes appends pools = some ({ dbd with vdata := none }, -1) := by
  have none_ (block : Option (List UInt8)) (size : Nat) : pools.regetmem block size = none :=
    if_pos (.inr refused)
  cases appends with
  | true => simp [Dbdata.putOnce, none_]
  | false =>
    have different := size_ne short (asks.resolve_left nofun)
    simp [Dbdata.putOnce, Simpledb.resizeValue, PutValue.ofOctets_eq short, PutValue.of, different,
      none_]

omit [DecidableEq ν] in
theorem putOnce_lost (dbd : Dbdata) (short : bytes.length < 2 ^ 32)
    (asks : appends = true ∨ dbd.vsize.toNat ≠ bytes.length) :
    ({ dbd with vdata := none } : Dbdata).putOnce bytes appends pools =
      ({ dbd with vdata := some ((List.range dbd.vsize.toNat).map pools.content) } :
        Dbdata).putOnce bytes appends pools := by
  have same (size : Nat) : pools.regetmem none size =
      pools.regetmem (some ((List.range dbd.vsize.toNat).map pools.content)) size := by
    simp only [Pools.regetmem]
    congr 2
    apply List.map_congr_left
    intro index _
    by_cases inside : index < dbd.vsize.toNat <;> simp [inside]
  cases appends with
  | true => simp only [Dbdata.putOnce, same, if_true]
  | false =>
    have different := size_ne short (asks.resolve_left (by simp))
    simp only [Dbdata.putOnce, Simpledb.resizeValue, PutValue.ofOctets_eq short, PutValue.of,
      different, same, if_false]

theorem Simpledb.Shaped.yangDbPut_at (shaped : db.Shaped nodes) (member : node ∈ nodes)
    (found : db.data node = some dbd) (free : dbd.refcounter = 0) (read : dbd.read = some stored)
    (filled : bytes ≠ []) (fits : stored.length + bytes.length < 2 ^ 32) (appends : Bool)
    (memory : Pools ν × Pools ν) :
    ∃ changed, db.yangDbPut dbd.kd (.ofOctets bytes) appends memory = some (db.setData node changed,
        if (writtenOctets stored bytes appends memory).isSome then 0 else -1) ∧
      changed.kd = dbd.kd ∧ changed.refcounter = 0 ∧
      ∀ octets ∈ writtenOctets stored bytes appends memory, changed.read = some octets := by
  have short : bytes.length < 2 ^ 32 := by omega
  have holds := Dbdata.holds_of_read read
  rw [free] at holds
  have first := shaped.onedbPut_at member found free short appends memory.1
  rw [Simpledb.yangDbPut]
  simp only [first, Option.bind_eq_bind]
  by_cases granted : memory.1.vdata = true ∨ appends = false ∧ bytes.length = stored.length
  · obtain ⟨changed, done, key, after⟩ := holds.putOnce_granted appends filled fits granted
    have written : writtenOctets stored bytes appends memory =
        some (if appends then stored ++ bytes else bytes) := by
      cases appends with
      | true =>
        have room : memory.1.vdata = true := by simpa using granted
        simp [writtenOctets, room]
      | false =>
        exact if_pos (granted.symm.imp And.right .inl)
    rw [written]
    refine ⟨changed, ?_, key, after.locks, ?_⟩
    · simp only [done, Option.map_some, Option.bind_some, if_true, Option.isSome_some]
    · intro octets same
      rw [← Option.some.inj same]
      exact after.read
  · obtain ⟨refused, other⟩ := not_or.mp granted
    have asks : appends = true ∨ dbd.vsize.toNat ≠ bytes.length := by
      rw [holds.size]
      cases appends with
      | true => exact .inl rfl
      | false => exact .inr fun same => other ⟨rfl, same.symm⟩
    have kept : (db.setData node { dbd with vdata := none }).Shaped nodes := shaped.setData found rfl
    have second := kept.onedbPut_at member (Function.update_self _ _ _) free short appends memory.2
    simp only [putOnce_refused dbd (Bool.not_eq_true _ |>.mp refused) short asks, Option.map_some,
      Option.bind_some, show ¬ (-1 : Int) = 0 by decide, if_false, second]
    by_cases given : memory.2.vdata = true
    · -- the block of the second try has nothing of the old one
      have fresh : Dbdata.Holds { dbd with
          vdata := some ((List.range dbd.vsize.toNat).map memory.2.content) }
          ⟨(List.range stored.length).map memory.2.content, 0⟩ := by
        rw [holds.size]
        exact ⟨free, by simpa using holds.size, .inr ⟨[], (List.append_nil _).symm ▸ rfl⟩⟩
      obtain ⟨changed, done, key, after⟩ := fresh.putOnce_granted appends filled
        (by simpa using fits) (.inl given)
      have written : writtenOctets stored bytes appends memory = some (if appends then
          (List.range stored.length).map memory.2.content ++ bytes else bytes) := by
        cases appends with
        | true => simp [writtenOctets, refused, given]
        | false => simp [writtenOctets, given]
      rw [putOnce_lost dbd short asks, done, written]
      refine ⟨changed, ?_, key, after.locks, ?_⟩
      · simp only [Option.map_some, Simpledb.setData, Function.update_idem, Option.isSome_some,
          if_true]
      · intro octets same
        rw [← Option.some.inj same]
        exact after.read
    · have written : writtenOctets stored bytes appends memory = none := by
        cases appends with
        | true => simp [writtenOctets, refused, given]
        | false =>
          have different : bytes.length ≠ stored.length := fun same => other ⟨rfl, same⟩
          simp [writtenOctets, refused, given, different]
      rw [putOnce_refused { dbd with vdata := none } (Bool.not_eq_true _ |>.mp given) short asks,
        written]
      refine ⟨{ dbd with vdata := none }, ?_, rfl, free, by simp⟩
      simp [Simpledb.setData, Function.update_idem]

end Puts

structure PlannedPut where
  turn : Nat
  appends : Bool
  bytes : List UInt8

namespace PlannedPut

def Refused (put : PlannedPut) (memory : UpdateMemory ν) (stored : List UInt8) : Prop :=
  (put.appends = true ∨ put.bytes.length ≠ stored.length) ∧
    (memory.puts put.turn).1.vdata = false ∧ (memory.puts put.turn).2.vdata = false

def Loses (put : PlannedPut) (memory : UpdateMemory ν) : Prop :=
  put.appends = true ∧ (memory.puts put.turn).1.vdata = false ∧
    (memory.puts put.turn).2.vdata = true

end PlannedPut

def plannedPuts (pre post : List UInt8) (new : Option (List UInt8)) (there : Bool) :
    List PlannedPut :=
  if there then
    (if pre = [] then [] else [⟨0, false, pre⟩]) ++ new.toList.map (⟨1, pre ≠ [], ·⟩) ++
      (if post = [] then [] else [⟨2, pre ≠ [] || new.isSome, post⟩])
  else new.toList.map (⟨0, true, ·⟩)

def runPuts (kd : List UInt8) (puts : Nat → Pools ν × Pools ν) (planned : List PlannedPut)
    (done : Rewritten ν) : Option (Rewritten ν) :=
  planned.foldlM (fun done put => done.put kd put.bytes put.appends (puts put.turn)) done

def writtenBy (memory : UpdateMemory ν) (planned : List PlannedPut) (stored : List UInt8) :
    Option (List UInt8) :=
  planned.foldlM (fun stored put =>
    writtenOctets stored put.bytes put.appends (memory.puts put.turn)) stored

def Rewritten.Reports (done : Rewritten ν) : Prop := (∃ answer ∈ done.answers, answer ≠ 0) → done.res ≠ 0

section Runs

variable {db : Simpledb ν} {nodes : List ν} {node : ν} {dbd : Dbdata} {kd stored : List UInt8}
  {puts : Nat → Pools ν × Pools ν} {memory : UpdateMemory ν} {planned : List PlannedPut}
  {done result : Rewritten ν} {new : Option (List UInt8)}

private theorem rewriteList_behind (rdata : List UInt8) (fvsize : Nat) :
    rewriteList db kd rdata rdata.length fvsize new puts =
      runPuts kd puts (plannedPuts rdata [] new false) ⟨db, 0, []⟩ := by
  cases new <;> simp [rewriteList, plannedPuts, runPuts]

private theorem rewriteList_around (pre item post : List UInt8) (filled : item ≠ []) :
    rewriteList db kd (pre ++ (item ++ post)) pre.length item.length new puts =
      if pre = [] ∧ post = [] ∧ new = none then Rewritten.del ⟨db, 0, []⟩ kd
      else runPuts kd puts (plannedPuts pre post new true) ⟨db, 0, []⟩ := by
  have inside : pre.length ≠ (pre ++ (item ++ post)).length := by
    simp [filled]
  by_cases first : pre = [] <;> by_cases last : post = [] <;> cases new <;>
    simp_all [rewriteList, plannedPuts, runPuts, List.length_pos_iff]

theorem Rewritten.put_failed (failed : done.res ≠ 0) (bytes : List UInt8) (appends : Bool)
    (tries : Pools ν × Pools ν) : done.put kd bytes appends tries = some done := if_pos failed

theorem runPuts_cons (put : PlannedPut) : runPuts kd puts (put :: planned) done =
      (done.put kd put.bytes put.appends (puts put.turn)).bind (runPuts kd puts planned) := rfl

theorem runPuts_failed (failed : done.res ≠ 0) : runPuts kd puts planned done = some done := by
  induction planned with
  | nil => rfl
  | cons put planned ih =>
    rw [runPuts_cons, Rewritten.put_failed failed]
    exact ih

theorem Rewritten.Reports.run (reports : done.Reports) (ran : runPuts kd puts planned done = some result) :
    result.Reports := by
  induction planned generalizing done with
  | nil =>
    cases ran
    exact reports
  | cons put planned ih =>
    rw [runPuts_cons] at ran
    obtain ⟨after, made, rest⟩ := Option.bind_eq_some_iff.mp ran
    refine ih ?_ rest
    by_cases fine : done.res ≠ 0
    · rw [Rewritten.put_failed fine] at made
      cases made
      exact reports
    · rw [Rewritten.put.eq_def, if_neg fine] at made
      obtain ⟨⟨db, res⟩, _, rfl⟩ := Option.map_eq_some_iff.mp made
      rintro ⟨answer, inside, failed⟩
      rcases List.mem_cons.mp inside with rfl | earlier
      · exact failed
      · exact absurd (reports ⟨answer, earlier, failed⟩) fine

omit [DecidableEq ν] in
theorem writtenBy_cons (put : PlannedPut) : writtenBy memory (put :: planned) stored =
      (writtenOctets stored put.bytes put.appends (memory.puts put.turn)).bind
        (writtenBy memory planned) := rfl

omit [DecidableEq ν] in
theorem length_written {bytes octets : List UInt8} {appends : Bool} {tries : Pools ν × Pools ν}
    (written : writtenOctets stored bytes appends tries = some octets) :
    octets.length ≤ stored.length + bytes.length := by
  rw [writtenOctets] at written
  split_ifs at written <;> cases written <;> simp

theorem runPuts_locked (shaped : db.Shaped nodes) (member : node ∈ nodes)
    (found : db.data node = some dbd) (locked : 0 < dbd.refcounter) (some_ : planned ≠ []) :
    ∃ result, runPuts dbd.kd puts planned ⟨db, 0, []⟩ = some result ∧ result.res ≠ 0 := by
  have refuses (value : PutValue) (flags : UInt8) (pools : Pools ν) :
      db.onedbPut dbd.kd value flags pools = some (db, -1) := by
    rw [Simpledb.onedbPut, shaped.sorted.binSearch_found member (key_eq found)]
    simp [found, locked]
  obtain ⟨put, planned, rfl⟩ := List.exists_cons_of_ne_nil some_
  have failed : (⟨db, -1, [-1]⟩ : Rewritten ν).res ≠ 0 := by
    show (-1 : Int) ≠ 0
    decide
  refine ⟨_, ?_, failed⟩
  rw [runPuts_cons, Rewritten.put.eq_def, if_neg (not_not_intro rfl)]
  simp [Simpledb.yangDbPut, refuses, runPuts_failed failed]

theorem runPuts_at (memory : UpdateMemory ν) (shaped : db.Shaped nodes) (member : node ∈ nodes)
    (found : db.data node = some dbd) (free : planned ≠ [] → dbd.refcounter = 0)
    (read : dbd.read = some stored) (filled : ∀ put ∈ planned, put.bytes ≠ [])
    (fits : stored.length + (planned.map (·.bytes.length)).sum < 2 ^ 32) (answers : List Int) :
    ∃ result, runPuts dbd.kd memory.puts planned ⟨db, 0, answers⟩ = some result ∧
      (writtenBy memory planned stored = none → result.res ≠ 0) ∧
      ∀ octets ∈ writtenBy memory planned stored, result.res = 0 ∧
        (result.db.itemOf dbd.kd).map Dbdata.read = some (some octets) := by
  induction planned generalizing db dbd stored answers with
  | nil =>
    refine ⟨_, rfl, nofun, ?_⟩
    rintro _ ⟨⟩
    exact ⟨rfl, by rw [shaped.itemOf_found member found, Option.map_some, read]⟩
  | cons put planned ih =>
    have counted : (List.map (·.bytes.length) (put :: planned)).sum =
      put.bytes.length + (planned.map (·.bytes.length)).sum := List.sum_cons
    obtain ⟨changed, made, key, free', reads⟩ := shaped.yangDbPut_at member found (free nofun)
      read (filled put List.mem_cons_self) (by omega) put.appends (memory.puts put.turn)
    rw [runPuts_cons, Rewritten.put.eq_def, if_neg (not_not_intro rfl), made, writtenBy_cons]
    cases written : writtenOctets stored put.bytes put.appends (memory.puts put.turn) with
    | none =>
      have failed : (⟨db.setData node changed, -1, -1 :: answers⟩ : Rewritten ν).res ≠ 0 := by
        show (-1 : Int) ≠ 0
        decide
      exact ⟨_, runPuts_failed failed, fun _ => failed, nofun⟩
    | some octets =>
      have small : octets.length ≤ stored.length + put.bytes.length := length_written written
      rw [written] at reads
      have rest := ih (shaped.setData found key) (Function.update_self _ _ _) (fun _ => free')
        (reads octets rfl) (fun put inside => filled put (List.mem_cons_of_mem _ inside)) (by omega)
        (0 :: answers)
      rw [key] at rest
      exact rest

omit [DecidableEq ν] in
theorem written_none (put : PlannedPut) (stored : List UInt8) :
    writtenOctets stored put.bytes put.appends (memory.puts put.turn) = none ↔
      put.Refused memory stored := by
  rw [writtenOctets, PlannedPut.Refused]
  cases put.appends with
  | true => split_ifs <;> simp_all
  | false => simp [not_or]

omit [DecidableEq ν] in
theorem writtenBy_none (later : ∀ put ∈ planned.tail, put.appends = true) :
    writtenBy memory planned stored = none ↔ ∃ put ∈ planned, put.Refused memory stored := by
  have appending (planned : List PlannedPut) (all : ∀ put ∈ planned, put.appends = true)
      (octets : List UInt8) :
      writtenBy memory planned octets = none ↔ ∃ put ∈ planned, put.Refused memory stored := by
    induction planned generalizing octets with
    | nil => simp [writtenBy]
    | cons put planned ih =>
      have same : put.Refused memory octets ↔ put.Refused memory stored := by
        simp [PlannedPut.Refused, all put List.mem_cons_self]
      rw [writtenBy_cons, List.exists_mem_cons_iff, ← same, ← written_none]
      cases writtenOctets octets put.bytes put.appends (memory.puts put.turn) with
      | none => simp
      | some written => simp [ih fun put inside => all put (List.mem_cons_of_mem _ inside)]
  cases planned with
  | nil => simp [writtenBy]
  | cons put planned =>
    rw [writtenBy_cons, List.exists_mem_cons_iff, ← written_none]
    cases writtenOctets stored put.bytes put.appends (memory.puts put.turn) with
    | none => simp
    | some written => simp [appending planned later]

def PlannedPut.onto (stored : List UInt8) (put : PlannedPut) : List UInt8 :=
  if put.appends then stored ++ put.bytes else put.bytes

omit [DecidableEq ν] in
theorem writtenBy_kept (memory : UpdateMemory ν) (kept : ∀ put ∈ planned, ¬ put.Loses memory)
    (written : writtenBy memory planned stored = some octets) :
    octets = planned.foldl PlannedPut.onto stored := by
  induction planned generalizing stored with
  | nil => exact (Option.some.inj written).symm
  | cons put planned ih =>
    rw [writtenBy_cons] at written
    obtain ⟨middle, first, rest⟩ := Option.bind_eq_some_iff.mp written
    have onto : middle = PlannedPut.onto stored put := by
      have granted := kept put List.mem_cons_self
      rw [writtenOctets] at first
      rw [PlannedPut.Loses] at granted
      rw [PlannedPut.onto]
      split_ifs at first <;> simp_all
    rw [List.foldl_cons, ← onto]
    exact ih (fun put inside => kept put (List.mem_cons_of_mem _ inside)) rest

omit [DecidableEq ν] in
theorem writtenBy_lost (later : ∀ put ∈ planned.tail, put.appends = true)
    (filled : ∀ put ∈ planned, put.bytes ≠ []) (some_ : stored ≠ [])
    (loses : ∃ put ∈ planned, put.Loses memory) (octet : UInt8)
    (written : writtenBy (memory.filled fun _ => octet) planned stored = some octets) :
    octets.head? = some octet := by
  have appending (planned : List PlannedPut) (all : ∀ put ∈ planned, put.appends = true)
      (middle : List UInt8) (some_ : middle ≠ [])
      (start : middle.head? = some octet ∨ ∃ put ∈ planned, put.Loses memory)
      (written : writtenBy (memory.filled fun _ => octet) planned middle = some octets) :
      octets.head? = some octet := by
    induction planned generalizing middle with
    | nil =>
      cases written
      exact start.resolve_right (by simp)
    | cons put planned ih =>
      rw [writtenBy_cons] at written
      obtain ⟨next, first, rest⟩ := Option.bind_eq_some_iff.mp written
      obtain ⟨head, tail, rfl⟩ := List.exists_cons_of_ne_nil some_
      refine ih (fun put inside => all put (List.mem_cons_of_mem _ inside)) next ?_ ?_ rest
      · rw [writtenOctets, if_pos (all put List.mem_cons_self)] at first
        split_ifs at first <;> cases first <;> simp [List.range_succ_eq_map]
      · rw [List.exists_mem_cons_iff, PlannedPut.Loses] at start
        rw [writtenOctets, if_pos (all put List.mem_cons_self)] at first
        split_ifs at first <;> cases first <;>
          simp_all [UpdateMemory.filled, List.range_succ_eq_map]
  cases planned with
  | nil => simp at loses
  | cons put planned =>
    cases kind : put.appends with
    | true =>
      exact appending (put :: planned) (List.forall_mem_cons.mpr ⟨kind, later⟩) stored some_
        (.inr loses) written
    | false =>
      rw [writtenBy_cons] at written
      obtain ⟨next, first, rest⟩ := Option.bind_eq_some_iff.mp written
      rw [List.exists_mem_cons_iff, PlannedPut.Loses, kind] at loses
      rw [writtenOctets, if_neg (by simp [kind])] at first
      split_ifs at first
      cases first
      exact appending planned later _ (filled put List.mem_cons_self)
        (.inr (loses.resolve_left fun impossible => nomatch impossible.1)) rest

end Runs

def startsWith (ovalue : List UInt8) (text : ItemText) : Bool := ovalue <+: text ++ [0]

def updatePuts (texts : List ItemText) (ovalue : List UInt8) (new : Option ItemText) :
    List PlannedPut :=
  plannedPuts (listText (texts.takeWhile (!startsWith ovalue ·)))
    (listText (texts.dropWhile (!startsWith ovalue ·)).tail) (new.map (· ++ [0]))
    (texts.any (startsWith ovalue))

def Dbdata.givenBack (dbd : Dbdata) : Dbdata :=
  { dbd with
    refcounter :=
      if 0 < dbd.refcounter + 1 then dbd.refcounter + 1 - 1 else dbd.refcounter + 1 }

def storedItem (texts : List ItemText) : Option (Option (List UInt8)) :=
  if texts = [] then none else some (some (listText texts))

/-- Success is returned for the list as it should be only, and a write that fails is reported. -/
def Rewritten.Right (done : Rewritten ν) (kd : List UInt8) (texts : List ItemText) : Prop :=
  done.Reports ∧ (done.res = 0 → (done.db.itemOf kd).map Dbdata.read = storedItem texts)

section Update

variable {db : Simpledb ν} {nodes : List ν} {node : ν} {dbd : Dbdata} {texts : List ItemText}
  {ovalue rest : List UInt8} {new : Option ItemText} {memory : UpdateMemory ν}

theorem memcmp_zero (long : ovalue.length ≤ rest.length) :
    memcmp ovalue.length rest ovalue = 0 ↔ ovalue <+: rest := by
  induction ovalue generalizing rest with
  | nil => simp [memcmp]
  | cons octet ovalue ih =>
    cases rest with
    | nil => simp at long
    | cons first rest =>
      rw [List.cons_prefix_cons, List.length_cons, memcmp, ← ih (Nat.le_of_succ_le_succ long)]
      by_cases same : first = octet
      · simp [same]
      · split_ifs <;> simp [Ne.symm same]

theorem seekItem_listText (plain : ∀ text ∈ texts, 0 ∉ text)
    (enough : (listText texts).length < fuel) (ip fvsize : Nat) :
    ∃ size, seekItem ovalue fuel (listText texts) ip fvsize =
        some (ip + (listText (texts.takeWhile (!startsWith ovalue ·))).length, size) ∧
      ∀ item ∈ (texts.dropWhile (!startsWith ovalue ·)).head?, size = item.length + 1 := by
  induction texts generalizing fuel ip fvsize with
  | nil =>
    obtain ⟨fuel, rfl⟩ := Nat.exists_eq_succ_of_ne_zero (Nat.ne_of_gt enough)
    exact ⟨fvsize, by simp [seekItem, listText], nofun⟩
  | cons text texts ih =>
    obtain ⟨fuel, rfl⟩ := Nat.exists_eq_succ_of_ne_zero (Nat.ne_of_gt (Nat.zero_lt_of_lt enough))
    have matches_ : (ovalue.length ≤ text.length + 1 ∧
        memcmp ovalue.length (text ++ 0 :: listText texts) ovalue = 0) ↔
        startsWith ovalue text = true := by
      have split : text ++ 0 :: listText texts = text ++ [0] ++ listText texts := by simp
      rw [startsWith, decide_eq_true_iff]
      constructor
      · rintro ⟨short, same⟩
        rw [memcmp_zero (by simp; omega), split] at same
        exact List.prefix_of_prefix_length_le same (List.prefix_append _ _) (by simpa using short)
      · intro front
        have short : ovalue.length ≤ text.length + 1 := by simpa using front.length_le
        refine ⟨short, ?_⟩
        rw [memcmp_zero (by simp; omega), split]
        exact front.trans (List.prefix_append _ _)
    rw [listText_cons, seekItem, if_neg (by simp), takeWhile_mark (plain text List.mem_cons_self)]
    simp only [matches_]
    cases here : startsWith ovalue text with
    | true => exact ⟨text.length + 1, by simp [here, listText], by simp [here]⟩
    | false =>
      rw [listText_cons, List.length_append, List.length_cons] at enough
      obtain ⟨size, found, sized⟩ := ih (fun _ inside => plain _ (List.mem_cons_of_mem _ inside))
        (show (listText texts).length < fuel by omega) (ip + (text.length + 1)) (text.length + 1)
      refine ⟨size, ?_, by simpa [here] using sized⟩
      have behind : (text ++ 0 :: listText texts).drop (text.length + 1) = listText texts := by
        simp
      rw [if_neg (by simp), behind, found]
      simp [here, listText_cons, Nat.add_assoc, Nat.add_comm]

private theorem plannedPuts_spec (pre post : List UInt8) (new : Option (List UInt8)) (filled : ∀ item ∈ new, item ≠ []) (there : Bool) :
    let planned := plannedPuts pre post new there
    (∀ put ∈ planned, put.bytes ≠ []) ∧ (∀ put ∈ planned.tail, put.appends = true) ∧
      (planned.map (·.bytes.length)).sum ≤ pre.length + post.length + (new.getD []).length := by
  by_cases first : pre = [] <;> by_cases last : post = [] <;> cases new <;> cases there <;>
    simp_all [plannedPuts] <;> omega

theorem plannedPuts_nil (pre post : List UInt8) (new : Option (List UInt8)) :
    plannedPuts pre post new true = [] ↔ pre = [] ∧ post = [] ∧ new = none := by
  cases new <;> by_cases pre = [] <;> by_cases post = [] <;> simp_all [plannedPuts]

private theorem onto_plannedPuts (pre post stored : List UInt8) (there : Bool)
    (some_ : ¬ (there = true ∧ plannedPuts pre post new there = [])) :
    (plannedPuts pre post new there).foldl PlannedPut.onto stored =
      if there then pre ++ new.getD [] ++ post else stored ++ new.getD [] := by
  by_cases first : pre = [] <;> by_cases last : post = [] <;> cases new <;> cases there <;>
    simp_all [plannedPuts, PlannedPut.onto]

omit [DecidableEq ν] in
theorem filled_right_iff (later : ∀ put ∈ planned.tail, put.appends = true)
    (filled : ∀ put ∈ planned, put.bytes ≠ []) (some_ : stored ≠ [])
    (expected : Option (Option (List UInt8))) :
    (∀ content, ∀ octets ∈ writtenBy (memory.filled content) planned stored,
        some (some octets) = expected) ↔ (∃ put ∈ planned, put.Refused memory stored) ∨
        some (some (planned.foldl PlannedPut.onto stored)) = expected ∧
          ∀ put ∈ planned, ¬ put.Loses memory := by
  have refuses (content : Nat → UInt8) : writtenBy (memory.filled content) planned stored = none ↔
      ∃ put ∈ planned, put.Refused memory stored := writtenBy_none later
  constructor
  · intro right
    by_cases refused : ∃ put ∈ planned, put.Refused memory stored
    · exact .inl refused
    have written (content : Nat → UInt8) :=
      Option.ne_none_iff_exists'.mp (mt (refuses content).mp refused)
    have kept : ∀ put ∈ planned, ¬ put.Loses memory := by
      intro put inside loses
      obtain ⟨zeros, first⟩ := written fun _ => 0
      obtain ⟨ones, second⟩ := written fun _ => 1
      have low := writtenBy_lost later filled some_ ⟨put, inside, loses⟩ 0 first
      have high := writtenBy_lost later filled some_ ⟨put, inside, loses⟩ 1 second
      have same := (right _ zeros first).trans (right _ ones second).symm
      rw [Option.some.inj (Option.some.inj same), high] at low
      exact absurd low (by decide)
    obtain ⟨octets, first⟩ := written fun _ => 0
    rw [← writtenBy_kept (memory.filled fun _ => 0) kept first]
    exact .inr ⟨right _ octets first, kept⟩
  · rintro (refused | ⟨same, kept⟩) content octets written
    · rw [(refuses content).mpr refused] at written
      cases written
    · rw [writtenBy_kept (memory.filled content) kept written, same]

theorem Simpledb.Shaped.get_givenBack (shaped : db.Shaped nodes) (member : node ∈ nodes)
    (found : db.data node = some dbd) : ∃ held, db.onedbGet dbd.kd = some (held, some dbd) ∧
      held.onedbGetRelease dbd.kd = some (db.setData node dbd.givenBack, 0) := by
  have kept : (db.setData node { dbd with refcounter := dbd.refcounter + 1 }).Shaped nodes :=
    shaped.setData found rfl
  have own : (db.setData node { dbd with refcounter := dbd.refcounter + 1 }).data node =
      some { dbd with refcounter := dbd.refcounter + 1 } := Function.update_self _ _ _
  refine ⟨db.setData node { dbd with refcounter := dbd.refcounter + 1 }, ?_, ?_⟩
  · rw [Simpledb.onedbGet, shaped.sorted.binSearch_found member (key_eq found)]
    simp only [Option.bind_eq_bind, Option.bind_some, ne_eq, not_true_eq_false, if_false, found]
  · rw [Simpledb.onedbGetRelease, kept.sorted.binSearch_found member (key_eq own)]
    simp [Simpledb.setData, Function.update_idem, Dbdata.givenBack]

theorem listText_append (first second : List ItemText) :
    listText (first ++ second) = listText first ++ listText second := List.flatMap_append

theorem listText_eq_nil : listText texts = [] ↔ texts = [] := by
  cases texts <;> simp [listText]

theorem rewriteList_listText (db : Simpledb ν) (kd ovalue : List UInt8) (new : Option ItemText)
    (memory : UpdateMemory ν) (plain : ∀ text ∈ texts, 0 ∉ text) : ∃ ip fvsize,
      seekItem ovalue ((listText texts).length + 1) (listText texts) 0 0 = some (ip, fvsize) ∧
      rewriteList db kd (listText texts) (min ip (listText texts).length) fvsize
          (new.map (· ++ [0])) memory.puts =
        if texts.any (startsWith ovalue) = true ∧ updatePuts texts ovalue new = [] then
          Rewritten.del ⟨db, 0, []⟩ kd
        else runPuts kd memory.puts (updatePuts texts ovalue new) ⟨db, 0, []⟩ := by
  obtain ⟨size, sought, sized⟩ := seekItem_listText plain (Nat.lt_succ_self _) 0 0
  refine ⟨_, size, sought, ?_⟩
  have parts := List.takeWhile_append_dropWhile (p := (!startsWith ovalue ·)) (l := texts)
  have first := List.head?_dropWhile_not (!startsWith ovalue ·) texts
  rw [updatePuts]
  cases rest : texts.dropWhile (!startsWith ovalue ·) with
  | nil =>
    rw [rest, List.append_nil] at parts
    have absent : texts.any (startsWith ovalue) = false := by
      simpa using List.dropWhile_eq_nil_iff.mp rest
    rw [parts, absent, Nat.zero_add, Nat.min_self, rewriteList_behind]
    simp [plannedPuts]
  | cons item post =>
    rw [rest] at parts sized first
    have there : texts.any (startsWith ovalue) = true := by
      refine List.any_eq_true.mpr ⟨item, ?_, by simpa using first⟩
      rw [← parts]
      simp
    have octets : listText texts = listText (texts.takeWhile (!startsWith ovalue ·)) ++
        ((item ++ [0]) ++ listText post) := by
      rw [← parts, listText_append, listText_cons, parts]
      simp
    have place : min (0 + (listText (texts.takeWhile (!startsWith ovalue ·))).length)
        (listText texts).length = (listText (texts.takeWhile (!startsWith ovalue ·))).length := by
      rw [octets, List.length_append]
      omega
    have length : size = (item ++ [0]).length := by simpa using sized item rfl
    rw [place, octets, length, rewriteList_around _ _ _ (by simp), there, List.tail_cons]
    simp only [true_and, plannedPuts_nil]

theorem replaceFirst_nil (some_ : texts ≠ []) : replaceFirst (startsWith ovalue) new texts = [] ↔
      texts.any (startsWith ovalue) = true ∧ updatePuts texts ovalue new = [] := by
  rw [updatePuts]
  cases there : texts.any (startsWith ovalue) with
  | true =>
    rw [plannedPuts_nil, listText_eq_nil, listText_eq_nil, replaceFirst]
    simp [and_assoc, and_comm]
  | false =>
    have whole : texts.takeWhile (!startsWith ovalue ·) = texts := by
      simpa [List.takeWhile_eq_self_iff] using there
    simp [replaceFirst, whole, some_]

theorem onto_updatePuts (some_ : texts ≠ [])
    (stays : replaceFirst (startsWith ovalue) new texts ≠ []) :
    (updatePuts texts ovalue new).foldl PlannedPut.onto (listText texts) =
      listText (replaceFirst (startsWith ovalue) new texts) := by
  have added : (new.map (· ++ [0])).getD [] = listText new.toList := by
    cases new <;> simp [listText]
  rw [updatePuts, onto_plannedPuts _ _ _ _ (mt (replaceFirst_nil some_).mpr stays), added]
  cases there : texts.any (startsWith ovalue) with
  | true => simp [replaceFirst, listText_append]
  | false =>
    have absent : ∀ text ∈ texts, (!startsWith ovalue text) = true := by simpa using there
    rw [replaceFirst, List.takeWhile_eq_self_iff.mpr absent, List.dropWhile_eq_nil_iff.mpr absent]
    simp [listText_append]

private theorem Simpledb.Shaped.del_item (shaped : db.Shaped nodes) (member : node ∈ nodes)
    (found : db.data node = some dbd) : ∃ after, db.onedbDel dbd.kd = some after ∧
      if 0 < dbd.refcounter then after.2 ≠ 0 else after.2 = 0 ∧ after.1.itemOf dbd.kd = none := by
  rw [Simpledb.onedbDel, shaped.sorted.binSearch_found member (key_eq found)]
  simp only [Option.bind_eq_bind, Option.bind_some, ne_eq, not_true_eq_false, if_false, found]
  split
  · refine ⟨_, rfl, ?_⟩
    show (-1 : Int) ≠ 0
    decide
  · obtain ⟨unlinked, _, result, touches, gone⟩ := Simpledb.Touches.remove shaped member found
    rw [result]
    exact ⟨_, rfl, rfl, touches.shaped.itemOf_missing gone⟩

theorem update_right_iff (shaped : db.Shaped nodes) (member : node ∈ nodes)
    (found : db.data node = some dbd) (read : dbd.read = some (listText texts)) (some_ : texts ≠ [])
    (plain : ∀ text ∈ texts, 0 ∉ text) (newPlain : ∀ text ∈ new, 0 ∉ text)
    (finds : startsWith ovalue old = true)
    (fits : 2 * (listText texts).length + (new.getD []).length + 1 < 2 ^ 32) : (∀ content, ∃ result,
      (if texts.any (startsWith ovalue) = true ∧ updatePuts texts ovalue new = [] then
        Rewritten.del ⟨db, 0, []⟩ dbd.kd
      else runPuts dbd.kd (memory.filled content).puts (updatePuts texts ovalue new) ⟨db, 0, []⟩) =
        some result ∧ result.Right dbd.kd (replaceFirst (· = old) new texts)) ↔
      0 < dbd.refcounter ∨ (∃ put ∈ updatePuts texts ovalue new, put.Refused memory (listText texts)) ∨
        (∀ text ∈ texts.find? (startsWith ovalue), text = old) ∧
          ∀ put ∈ updatePuts texts ovalue new, ¬ put.Loses memory := by
  have fresh : (⟨db, 0, []⟩ : Rewritten ν).Reports := fun failed => by simp at failed
  have listed : storedItem (replaceFirst (startsWith ovalue) new texts) =
      storedItem (replaceFirst (· = old) new texts) ↔
        ∀ text ∈ texts.find? (startsWith ovalue), text = old := by
    rw [← replaceFirst_eq_iff finds new]
    have free (found : ItemText → Bool) : ∀ text ∈ replaceFirst found new texts, 0 ∉ text := by
      intro text inside
      simp only [replaceFirst, List.mem_append, Option.mem_toList] at inside
      rcases inside with (kept | added) | later
      · exact plain text ((List.takeWhile_sublist _).subset kept)
      · exact newPlain text added
      · exact plain text ((List.dropWhile_sublist _).subset (List.mem_of_mem_tail later))
    refine ⟨fun same => ?_, fun same => by rw [same]⟩
    rw [storedItem, storedItem] at same
    split_ifs at same with none_ none'
    · rw [none_, none']
    · exact listText_inj (free _) (free _) (Option.some.inj (Option.some.inj same))
  by_cases deletes : texts.any (startsWith ovalue) = true ∧ updatePuts texts ovalue new = []
  · obtain ⟨after, deleted, outcome⟩ := shaped.del_item member found
    have ran : Rewritten.del ⟨db, 0, []⟩ dbd.kd = some ⟨after.1, after.2, [after.2]⟩ := by
      rw [Rewritten.del, deleted]
      rfl
    have reports : (⟨after.1, after.2, [after.2]⟩ : Rewritten ν).Reports := by simp [Rewritten.Reports]
    simp only [if_pos deletes]
    simp only [ran, Option.some.injEq, exists_eq_left', Rewritten.Right, reports, true_and,
      forall_const, deletes.2,
      List.not_mem_nil, false_and, exists_false, false_or, false_implies, implies_true, and_true]
    rw [← listed, (replaceFirst_nil some_).mpr deletes]
    split at outcome
    · rename_i locked
      exact ⟨fun _ => .inl locked, fun _ done => absurd done outcome⟩
    · rename_i free
      rw [outcome.2, or_iff_right free]
      exact forall_prop_of_true outcome.1
  · simp only [if_neg deletes]
    have stays := mt (replaceFirst_nil some_).mp deletes
    by_cases locked : updatePuts texts ovalue new ≠ [] ∧ 0 < dbd.refcounter
    · refine iff_of_true (fun content => ?_) (.inl locked.2)
      obtain ⟨result, ran, failed⟩ := runPuts_locked shaped member found locked.2 locked.1
      exact ⟨result, ran, fresh.run ran, fun done => absurd done failed⟩
    · have free : updatePuts texts ovalue new ≠ [] → dbd.refcounter = 0 := fun some_ =>
        refcounter_eq_zero fun held => locked ⟨some_, held⟩
      obtain ⟨filled, later, sum⟩ := plannedPuts_spec
        (listText (texts.takeWhile (!startsWith ovalue ·)))
        (listText (texts.dropWhile (!startsWith ovalue ·)).tail) (new.map (· ++ [0])) (by simp)
        (texts.any (startsWith ovalue))
      have parts := congrArg (fun list => (listText list).length)
        (List.takeWhile_append_dropWhile (p := (!startsWith ovalue ·)) (l := texts))
      have tail : (listText (texts.dropWhile (!startsWith ovalue ·)).tail).length ≤
          (listText (texts.dropWhile (!startsWith ovalue ·))).length := by
        cases texts.dropWhile (!startsWith ovalue ·) with
        | nil => exact Nat.le_refl _
        | cons item post =>
          rw [listText_cons, List.tail_cons, List.length_append, List.length_cons]
          omega
      have longer : ((new.map (· ++ [0]) : Option (List UInt8)).getD []).length ≤
          (new.getD []).length + 1 := by
        cases new <;> simp
      simp only [listText_append, List.length_append] at parts
      rw [← updatePuts] at filled later sum
      have short : (listText texts).length +
          ((updatePuts texts ovalue new).map (·.bytes.length)).sum < 2 ^ 32 := by
        omega
      have run (content : Nat → UInt8) := runPuts_at (memory.filled content) shaped member found
        free read filled short []
      refine Iff.trans (b := ∀ content, ∀ octets ∈ writtenBy (memory.filled content)
        (updatePuts texts ovalue new) (listText texts),
        some (some octets) = storedItem (replaceFirst (· = old) new texts))
        (forall_congr' fun content => ?_) ?_
      · obtain ⟨result, ran, failed, done⟩ := run content
        constructor
        · rintro ⟨other, ran', _, right⟩ octets written
          obtain rfl := Option.some.inj (ran'.symm.trans ran)
          obtain ⟨zero, reads⟩ := done octets written
          rw [← reads]
          exact right zero
        · intro right
          refine ⟨result, ran, fresh.run ran, fun zero => ?_⟩
          cases written : writtenBy (memory.filled content) (updatePuts texts ovalue new)
              (listText texts) with
          | none => exact absurd zero (failed written)
          | some octets =>
            rw [(done octets written).2]
            exact right octets written
      have listing : some (some ((updatePuts texts ovalue new).foldl PlannedPut.onto
          (listText texts))) = storedItem (replaceFirst (startsWith ovalue) new texts) := by
        rw [onto_updatePuts some_ stays, storedItem, if_neg stays]
      rw [filled_right_iff later filled (mt listText_eq_nil.mp some_), listing, listed]
      refine (or_iff_right_of_imp fun held => .inr ?_).symm
      have none_ : updatePuts texts ovalue new = [] := by_contra fun filled => locked ⟨filled, held⟩
      refine ⟨fun text first => absurd ⟨?_, none_⟩ deletes, by rw [none_]; nofun⟩
      exact List.any_eq_true.mpr ⟨text, List.mem_of_find?_eq_some first, List.find?_some first⟩

end Update

/-- **An update of a leaf-list is right or returns an error, whatever stands in fresh memory, exactly
if an error is due or the first element that starts with the old item is this item, and no octets are
added with memory that is there at the second try only.** -/
theorem leaf_list_updated_iff (database : Database ν) {node : ν} {dbd : Dbdata}
    (member : node ∈ database.nodes) (found : database.db.data node = some dbd)
    {texts : List ItemText} (read : dbd.read = some (listText texts))
    (plain : ∀ text ∈ texts, 0 ∉ text) {ovalue : List UInt8} {old : ItemText}
    (given : ovalue = old ∨ ovalue = old ++ [0]) {new : Option ItemText}
    (newPlain : ∀ text ∈ new, 0 ∉ text)
    (fits : 2 * (listText texts).length + (new.getD []).length + 1 < 2 ^ 32)
    (memory : UpdateMemory ν) :
    (∀ content, ∃ result, leaflistStrupdate database.db dbd.kd ovalue (new.map (· ++ [0]))
        (memory.filled content) = some result ∧
      result.Right dbd.kd (replaceFirst (· = old) new texts)) ↔
      memory.copy = false ∨ texts = [] ∨ 0 < dbd.givenBack.refcounter ∨
        (∃ put ∈ updatePuts texts ovalue new, put.Refused memory (listText texts)) ∨
        (∀ text ∈ texts.find? (startsWith ovalue), text = old) ∧
          ∀ put ∈ updatePuts texts ovalue new, ¬ put.Loses memory := by
  have shaped := database.shaped
  have empty : dbd.vsize = 0 ↔ texts = [] := by
    rw [← listText_eq_nil, ← List.length_eq_zero_iff, ← (Dbdata.holds_of_read read).size]
    exact UInt32.toNat_inj.symm
  obtain ⟨held, got, back⟩ := shaped.get_givenBack member found
  by_cases copied : memory.copy = false ∨ texts = []
  · refine iff_of_true (fun content => ⟨⟨held, -1, []⟩, ?_, by simp [Rewritten.Reports], ?_⟩)
      (copied.imp_right .inl)
    · rw [leaflistStrupdate, got]
      exact if_pos (copied.imp_right empty.mpr)
    · intro impossible
      cases impossible
  · rw [← or_assoc, or_iff_right copied]
    have finds : startsWith ovalue old = true := by
      rcases given with rfl | rfl
      · exact decide_eq_true (List.prefix_append _ _)
      · exact decide_eq_true (List.prefix_refl _)
    have released : (database.db.setData node dbd.givenBack).Shaped database.nodes :=
      shaped.setData found rfl
    rw [← update_right_iff released member (Function.update_self _ _ _) read (not_or.mp copied).2 plain newPlain finds fits]
    refine forall_congr' fun content => ?_
    obtain ⟨ip, fvsize, sought, writes⟩ := rewriteList_listText
      (database.db.setData node dbd.givenBack) dbd.kd ovalue new (memory.filled content) plain
    rw [leaflistStrupdate, got]
    simp only [Option.bind_eq_bind, Option.bind_some]
    rw [if_neg (by rwa [empty])]
    simp only [read, back, sought, Option.bind_some, ne_eq, not_true_eq_false, if_false]
    rw [writes]
    rfl

/-- A list with the items `a`, `b` and `c`. -/
def letters : Database Nat where
  db := twoKeys.db.setData 0 ⟨0, [1], 6, some [97, 0, 98, 0, 99, 0]⟩
  nodes := [0, 1]
  shaped := twoKeys.shaped.setData (show _ = some ⟨0, [1], 1, some [5]⟩ from rfl) rfl

def updateMemory (first : Bool) : UpdateMemory Nat where
  copy := true
  puts _ := ({ roomFor 2 with vdata := first }, roomFor 2)

/-- The item `b` is replaced by `d`. -/
theorem leaf_list_updated_three : ∃ result,
    leaflistStrupdate letters.db [1] [98, 0] (some [100, 0]) ((updateMemory true).filled fun _ => 7) =
      some result ∧ result.Right [1] [[97], [100], [99]] := by
  have stored : letters.db.data 0 = some ⟨0, [1], 6, some [97, 0, 98, 0, 99, 0]⟩ := rfl
  have read : (⟨0, [1], 6, some [97, 0, 98, 0, 99, 0]⟩ : Dbdata).read =
      some (listText [[97], [98], [99]]) := rfl
  have kept : ∀ put ∈ updatePuts [[97], [98], [99]] [98, 0] (some [100]),
      ¬ put.Loses (updateMemory true) :=
    fun _ _ loses => nomatch loses.2.1
  have given : ([98, 0] : ItemText) = [98] ∨ ([98, 0] : ItemText) = [98] ++ [0] := .inr rfl
  have plain : ∀ text ∈ (some [100] : Option ItemText), 0 ∉ text := by decide
  exact (leaf_list_updated_iff letters List.mem_cons_self stored read (by decide) given plain
    (by decide) (updateMemory true)).mpr (.inr (.inr (.inr (.inr ⟨by decide, kept⟩)))) _

/-- The item `d` is added with memory at the second try, and the list before it is lost. -/
theorem leaf_list_lost : ¬ ∀ (database : Database Nat) (kd : List UInt8) (texts : List ItemText)
    (old : ItemText) (new : Option ItemText) (memory : UpdateMemory Nat),
    (database.db.itemOf kd).map Dbdata.read = some (some (listText texts)) →
      (∀ text ∈ texts, 0 ∉ text) → 0 ∉ old → (∀ text ∈ new, 0 ∉ text) →
        ∃ result, leaflistStrupdate database.db kd (old ++ [0]) (new.map (· ++ [0])) memory =
          some result ∧ result.Right kd (replaceFirst (· = old) new texts) := by
  intro always
  have evaluated : (leaflistStrupdate letters.db [1] [100, 0] (some [100, 0]) (updateMemory false)).map
      (fun result => (result.res, (result.db.itemOf [1]).map Dbdata.read)) =
      some (0, some (some [0, 0, 0, 0, 0, 0, 100, 0])) := by decide +kernel
  obtain ⟨result, done, right⟩ := always letters [1] [[97], [98], [99]] [100] (some [100]) (updateMemory false)
    (by decide +kernel) (by decide) (by decide) (by decide)
  rw [show leaflistStrupdate letters.db [1] [100, 0] (some [100, 0]) (updateMemory false) = _ from done]
    at evaluated
  obtain ⟨zero, shown⟩ := Prod.mk.inj (Option.some.inj evaluated)
  rw [right.2 zero] at shown
  exact absurd shown (by decide)

end EnetTsn.Uniconf
