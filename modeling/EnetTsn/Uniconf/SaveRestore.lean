import EnetTsn.Uniconf.SaveData
import EnetTsn.Uniconf.SimpledbRefinement

namespace EnetTsn.Uniconf

open EnetTsn.Library

def record (item : KeyValue) : List UInt8 :=
  littleEndian 4 item.1.length ++ item.1 ++ littleEndian 4 item.2.length ++ item.2

def Simpledb.content (db : Simpledb ν) (node : ν) : Option KeyValue :=
  (db.data node).bind fun dbd => dbd.read.map fun value => (dbd.kd, value)

/-- The store has these items, in the strict order of their keys; the size of a key is a
`uint32_t`. -/
structure Simpledb.Contains (db : Simpledb ν) (items : List KeyValue) : Prop where
  nodes : ∃ nodes, db.Sorted nodes ∧ nodes.map db.content = items.map some
  sized : ∀ item ∈ items, item.1.length < 2 ^ 32

def OutFile.add (outf : OutFile) (octets : List UInt8) : OutFile where
  content := outf.content ++ octets.take outf.room
  room := outf.room - octets.length

section Write

variable {outf : OutFile}

theorem OutFile.add_nil (outf : OutFile) : outf.add [] = outf := by
  rw [OutFile.add, List.take_nil, List.append_nil]
  rfl

theorem OutFile.add_add (outf : OutFile) (first second : List UInt8) :
    (outf.add first).add second = outf.add (first ++ second) := by
  rw [OutFile.add, OutFile.add, OutFile.add, List.take_append, List.append_assoc, List.length_append,
    Nat.sub_add_eq]

variable (octets : List UInt8)

theorem OutFile.add_full (full : outf.room < octets.length)
    (more : List UInt8) : outf.add (octets ++ more) = outf.add octets := by
  have nothing : (outf.add octets).room = 0 := Nat.sub_eq_zero_of_le (Nat.le_of_lt full)
  rw [← OutFile.add_add]
  generalize outf.add octets = file at nothing
  cases file with
  | mk content room =>
    subst nothing
    rw [OutFile.add, List.take_zero, List.append_nil, Nat.zero_sub]

variable (outf : OutFile)

theorem ubFiowrite_eq :
    ubFiowrite outf octets = (outf.add octets, decide (octets.length ≤ outf.room)) := rfl

private theorem writeParts_eq (parts : List (List UInt8)) :
    writeParts outf parts = (outf.add parts.flatten, decide (parts.flatten.length ≤ outf.room)) := by
  induction parts generalizing outf with
  | nil => rw [writeParts, List.flatten_nil, outf.add_nil, List.length_nil, decide_eq_true (Nat.zero_le _)]
  | cons part rest ih =>
    have room : (outf.add part).room = outf.room - part.length := rfl
    rw [writeParts, ubFiowrite_eq, List.flatten_cons, List.length_append]
    by_cases fits : part.length ≤ outf.room
    · simp only [fits, decide_true, if_true, ih, OutFile.add_add, room]
      congr 1
      rw [decide_eq_decide]
      omega
    · rw [outf.add_full part (Nat.lt_of_not_le fits), decide_eq_false fits, decide_eq_false (by omega)]
      rfl

theorem serializeOne_eq (read : dbd.read = some value) : serializeOne outf dbd =
      some (outf.add (record (dbd.kd, value)), decide ((record (dbd.kd, value)).length ≤ outf.room)) := by
  have length : dbd.vsize.toNat = value.length := by
    rw [Dbdata.read] at read
    split at read
    · rename_i nothing
      cases read
      rw [nothing]
      rfl
    · split at read
      · cases read
      · obtain ⟨enough, same⟩ := Option.ite_none_right_eq_some.mp read
        rw [← Option.some.inj same, List.length_take, Nat.min_eq_left enough]
  have parts : [littleEndian 4 dbd.kd.length, dbd.kd, littleEndian 4 dbd.vsize.toNat].flatten =
      littleEndian 4 dbd.kd.length ++ dbd.kd ++ littleEndian 4 value.length := by
    rw [length]
    simp
  have split : record (dbd.kd, value) =
    littleEndian 4 dbd.kd.length ++ dbd.kd ++ littleEndian 4 value.length ++ value := rfl
  rw [serializeOne, writeParts_eq, parts, split]
  generalize littleEndian 4 dbd.kd.length ++ dbd.kd ++ littleEndian 4 value.length = start
  by_cases fits : start.length ≤ outf.room
  · rw [decide_eq_true fits]
    by_cases filled : 0 < dbd.vsize
    · simp only [Bool.true_eq_false, if_false, if_pos filled, read, Option.bind_eq_bind,
        Option.bind_some, ubFiowrite_eq, OutFile.add_add, List.length_append]
      have room : (outf.add start).room = outf.room - start.length := rfl
      congr 2
      rw [decide_eq_decide]
      omega
    · have empty : value = [] := by
        apply List.length_eq_zero_iff.mp
        change ¬ 0 < dbd.vsize.toNat at filled
        omega
      simp only [Bool.true_eq_false, if_false, if_neg filled, empty, List.append_nil]
      rw [decide_eq_true fits]
  · rw [decide_eq_false fits, outf.add_full start (Nat.lt_of_not_le fits), List.length_append,
      decide_eq_false (by omega)]
    rfl

end Write

section Save

variable {ν : Type} {db : Simpledb ν} {nodes first middle second : List ν} {items : List KeyValue}

theorem content_eq (found : db.content node = some item) :
    ∃ dbd, db.data node = some dbd ∧ dbd.kd = item.1 ∧ dbd.read = some item.2 ∧
      db.key node = item.1 := by
  obtain ⟨dbd, data, read⟩ := Option.bind_eq_some_iff.mp found
  obtain ⟨value, there, rfl⟩ := Option.map_eq_some_iff.mp read
  exact ⟨dbd, data, rfl, there, key_eq data⟩

theorem serializeNodes_eq [DecidableEq ν]
    (linked : Linked db.heap db.dblist (first ++ middle ++ second))
    (contents : middle.map db.content = items.map some) (ends : middle.getLast? = some last)
    (fuel : Nat) (enough : middle.length < fuel) (outf : OutFile) :
    db.serializeNodes last fuel outf middle.head? = some (outf.add (items.flatMap record)) := by
  induction middle generalizing first items fuel outf with
  | nil => cases ends
  | cons node rest ih =>
    cases fuel with
    | zero => exact absurd enough (Nat.not_lt_zero _)
    | succ fuel =>
      cases items with
      | nil => cases contents
      | cons item later =>
        obtain ⟨here, others⟩ := List.cons.inj contents
        obtain ⟨dbd, data, kd, read, _⟩ := content_eq here
        have item_eq : (dbd.kd, item.2) = item := by
          rw [kd]
        have one := serializeOne_eq outf read
        rw [item_eq] at one
        rw [List.head?_cons, Simpledb.serializeNodes, data]
        simp only [Option.bind_eq_bind, Option.bind_some, one]
        by_cases fits : (record item).length ≤ outf.room
        · rw [decide_eq_true fits]
          by_cases isLast : node = last
          · have nothing : rest = [] := by
              cases rest with
              | nil => rfl
              | cons next further =>
                have unique := linked.nodup
                rw [List.append_assoc] at unique
                have inner := (List.nodup_append.mp unique).2.1
                have absent := (List.nodup_cons.mp inner).1
                have member : node ∈ next :: further := by
                  rw [isLast]
                  exact List.mem_of_getLast? ends
                exact absurd (List.mem_append_left second member) absent
            rw [nothing] at others
            have noMore : later = [] := List.map_eq_nil_iff.mp others.symm
            rw [if_pos (.inr isLast), noMore, List.flatMap_cons, List.flatMap_nil, List.append_nil]
          · have more : rest ≠ [] := by
              rintro rfl
              exact isLast (Option.some.inj ends)
            have links : db.heap node = some ⟨(rest ++ second).head?, first.getLast?⟩ := by
              rw [List.append_assoc] at linked
              exact linked.links
            have next : (rest ++ second).head? = rest.head? := List.head?_append_of_ne_nil _ more
            have onward : rest.getLast? = some last := by
              cases rest with
              | nil => exact absurd rfl more
              | cons next further =>
                exact ends
            have shifted : Linked db.heap db.dblist (first ++ [node] ++ rest ++ second) := by
              have same : first ++ [node] ++ rest ++ second = first ++ node :: rest ++ second := by simp
              rw [same]
              exact linked
            have neither : ¬ (true = false ∨ node = last) := by
              rintro (impossible | same)
              · cases impossible
              · exact isLast same
            rw [if_neg neither, links]
            simp only [Option.bind_some, next]
            rw [ih shifted others onward fuel (Nat.lt_of_succ_lt_succ enough), OutFile.add_add]
            rfl
        · rw [decide_eq_false fits, if_pos (.inl rfl), List.flatMap_cons,
            outf.add_full _ (Nat.lt_of_not_le fits)]

def rangeItems (keyrange : KeyRange) (items : List KeyValue) : List KeyValue :=
  items.filter fun item => keyrange.contains item.1

theorem inRange_contents (contents : nodes.map db.content = items.map some) (keyrange : KeyRange) :
    (db.inRange keyrange nodes).map db.content = (rangeItems keyrange items).map some := by
  induction nodes generalizing items with
  | nil =>
    have nothing : items = [] := List.map_eq_nil_iff.mp contents.symm
    rw [nothing]
    rfl
  | cons node rest ih =>
    cases items with
    | nil => cases contents
    | cons item later =>
      obtain ⟨here, others⟩ := List.cons.inj contents
      obtain ⟨_, _, _, _, key⟩ := content_eq here
      have inner := ih others
      rw [Simpledb.inRange, window] at inner ⊢
      rw [rangeItems, List.filter_cons, List.filter_cons, KeyRange.contains, key]
      split
      · rw [List.map_cons, List.map_cons, here, inner]
        rfl
      · exact inner

/-- The items that are written: those of one range after the other, up to the end of the
ranges, or to a range without items. -/
def writtenItems (items : List KeyValue) : List KeyRange → List KeyValue
  | [] => []
  | keyrange :: rest =>
    if givenKey keyrange.kd1 = none ∧ givenKey keyrange.kd2 = none then []
    else if rangeItems keyrange items = [] then []
    else rangeItems keyrange items ++ writtenItems items rest

theorem serializeRange_eq [DecidableEq ν] (sorted : db.Sorted nodes)
    (contents : nodes.map db.content = items.map some) (outf : OutFile) (keyrange : KeyRange) :
    db.serializeRange outf keyrange = some (if rangeItems keyrange items = [] then (outf, -1)
      else (outf.add ((rangeItems keyrange items).flatMap record), 0)) := by
  have inner := inRange_contents contents keyrange
  obtain ⟨noData, data⟩ := sorted.getRange keyrange
  rw [Simpledb.serializeRange]
  by_cases empty : db.inRange keyrange nodes = []
  · rw [empty] at inner
    have nothing : rangeItems keyrange items = [] := List.map_eq_nil_iff.mp inner.symm
    rw [noData empty, nothing]
    rfl
  · have filled : rangeItems keyrange items ≠ [] := by
      intro nothing
      rw [nothing] at inner
      exact empty (List.map_eq_nil_iff.mp inner)
    obtain ⟨start, atStart⟩ := Option.isSome_iff_exists.mp (List.isSome_head?.mpr empty)
    obtain ⟨last, atLast⟩ := Option.isSome_iff_exists.mp (List.getLast?_isSome.mpr empty)
    obtain ⟨first, second, split⟩ := window_infix (sorted.downLow keyrange) (sorted.downHigh keyrange)
    have linked : Linked db.heap db.dblist (first ++ db.inRange keyrange nodes ++ second) := by
      rw [Simpledb.inRange, ← split]
      exact sorted.linked
    have enough : (db.inRange keyrange nodes).length < db.dblist.count + 1 := by
      rw [sorted.linked.count]
      exact Nat.lt_succ_of_le (List.length_filter_le _ _)
    have written := serializeNodes_eq linked inner atLast _ enough outf
    rw [atStart] at written
    rw [data start last atStart atLast, if_neg filled]
    simp only [Option.bind_eq_bind, Option.bind_some, written]

theorem savedataLoop_eq [DecidableEq ν] (sorted : db.Sorted nodes)
    (contents : nodes.map db.content = items.map some) (outf : OutFile) (keyranges : List KeyRange) :
    db.savedataLoop outf keyranges =
      some (outf.add ((writtenItems items keyranges).flatMap record)) := by
  induction keyranges generalizing outf with
  | nil => rw [Simpledb.savedataLoop, writtenItems, List.flatMap_nil, outf.add_nil]
  | cons keyrange rest ih =>
    rw [Simpledb.savedataLoop, writtenItems]
    by_cases ends : givenKey keyrange.kd1 = none ∧ givenKey keyrange.kd2 = none
    · rw [if_pos ends, if_pos ends, List.flatMap_nil, outf.add_nil]
    · rw [if_neg ends, if_neg ends, serializeRange_eq sorted contents]
      by_cases empty : rangeItems keyrange items = []
      · rw [if_pos empty, if_pos empty, List.flatMap_nil, outf.add_nil]
        rfl
      · rw [if_neg empty, if_neg empty]
        simp only [Option.bind_eq_bind, Option.bind_some, if_true]
        rw [ih, OutFile.add_add, List.flatMap_append]

end Save

end EnetTsn.Uniconf
