import EnetTsn.Uniconf.ItemChanges
import EnetTsn.Uniconf.UdpBindRuns

namespace EnetTsn.Uniconf

open EnetTsn.Library

def Dbdata.octets (dbd : Dbdata) : Option (List UInt8) :=
  if dbd.vsize = 0 then some [] else dbd.vdata.bind fun block => slice block 0 dbd.vsize.toNat

def wildcardRange (key : List UInt8) : KeyRange where
  kd1 := some key
  kd2 := some (wildcardEnd key)

section Store

variable {ν : Type} [DecidableEq ν]

namespace Simpledb

variable (db : Simpledb ν) (rangeGranted : Bool)

/-- `get_wildcard_data` over the store, with the reply if it is sent; none if it leaves its
memory. -/
def getWildcardData (datagram : Datagram) (ksize : Nat) : Option (Option (List UInt8)) :=
  if datagram.keysGranted = false then some none
  else do
    let key ← slice datagram.rdata 5 ksize
    match ← db.simpledbGetRange (wildcardRange key) rangeGranted with
    | none => some none
    | some range =>
      match ← db.simpledbGetFromRange (some range) .nomove with
      | none => some none
      | some (_, dbd) =>
        if datagram.replyGranted = false then none
        else do
          let value ← dbd.octets
          some (if datagram.written then some (pullokres dbd.kd.length dbd.kd value) else none)

def wildcardReplies (datagram : Datagram) : Option (List (List UInt8)) :=
  if tooSmall datagram.rdata then some []
  else (db.getWildcardData rangeGranted datagram (datagramKsize datagram.rdata)).map fun reply =>
    [reply.getD (pullngres datagram.rdata)]

end Simpledb

def wildcardRequest (key rest : List UInt8) : List UInt8 :=
  ucBinconfudpPullWcard :: (littleEndian 4 key.length ++ key ++ rest)

structure Smallest (items : List Dbdata) (has : List UInt8 → Prop) (dbd : Dbdata) : Prop where
  member : dbd ∈ items
  holds : has dbd.kd
  least : ∀ other ∈ items, has other.kd → ¬ keycmp other.kd dbd.kd < 0

/-- The replies are the first item whose key starts with the key, or a refusal if there is none. -/
inductive WildcardAnswered (items : List Dbdata) (key rdata : List UInt8) :
    Option (List (List UInt8)) → Prop where
  | found (dbd : Dbdata) (value : List UInt8) (first : Smallest items (key <+: ·) dbd)
    (octets : dbd.octets = some value) :
    WildcardAnswered items key rdata (some [pullokres dbd.kd.length dbd.kd value])
  | refused (missing : ∀ dbd ∈ items, ¬ key <+: dbd.kd) :
    WildcardAnswered items key rdata (some [pullngres rdata])

end Store

section Prefixes

variable {key first second kd : List UInt8}

theorem keycmp_append (key first second : List UInt8) :
    keycmp (key ++ first) (key ++ second) = keycmp first second := by
  induction key with
  | nil => rfl
  | cons octet key ih => rw [List.cons_append, List.cons_append, keycmp_cons_cons, if_pos rfl, ih]

theorem not_below_of_isPrefix (starts : key <+: kd) : ¬ keycmp kd key < 0 := by
  obtain ⟨rest, rfl⟩ := starts
  have compared := keycmp_append key rest []
  rw [List.append_nil] at compared
  rw [compared]
  cases rest with
  | nil => decide
  | cons octet rest =>
    rw [keycmp_cons_nil]
    decide

theorem prefix_of_between (starts : key <+: second) (low : ¬ keycmp first key < 0)
    (high : ¬ keycmp second first < 0) : key <+: first := by
  induction key generalizing first second with
  | nil => exact List.nil_prefix
  | cons octet key ih =>
    obtain ⟨rest, rfl⟩ := starts
    cases first with
    | nil =>
      rw [keycmp_nil_cons] at low
      exact absurd (by decide) low
    | cons other first =>
      rw [List.cons_append, keycmp_cons_cons] at high
      rw [keycmp_cons_cons] at low
      by_cases same : other = octet
      · rw [same] at low high ⊢
        rw [if_pos rfl] at low high
        exact List.cons_prefix_cons.mpr ⟨rfl, ih ⟨rest, rfl⟩ low high⟩
      · rw [if_neg same] at low
        rw [if_neg (Ne.symm same)] at high
        have notLess : ¬ other < octet := fun less => low (by rw [if_pos less]; decide)
        have notMore : ¬ octet < other := fun more => high (by rw [if_pos more]; decide)
        exact absurd (UInt8.le_antisymm (UInt8.not_lt.mp notMore) (UInt8.not_lt.mp notLess)) same

private theorem increaseLast_full (all : ∀ octet ∈ key, octet = 0xff) : increaseLast key = key := by
  induction key with
  | nil => rfl
  | cons octet key ih =>
    obtain ⟨here, others⟩ := List.forall_mem_cons.mp all
    rw [increaseLast, if_pos here, ih others]

private theorem increaseLast_split (other : ¬ ∀ octet ∈ key, octet = 0xff) :
    ∃ front octet rest, key = front ++ octet :: rest ∧ octet ≠ 0xff ∧
      increaseLast key = front ++ (octet + 1) :: rest := by
  induction key with
  | nil => exact absurd nofun other
  | cons octet key ih =>
    by_cases full : octet = 0xff
    · obtain ⟨front, last, rest, rfl, different, increased⟩ :=
        ih fun all => other (List.forall_mem_cons.mpr ⟨full, all⟩)
      refine ⟨octet :: front, last, rest, rfl, different, ?_⟩
      rw [increaseLast, if_pos full, increased, List.cons_append]
    · exact ⟨[], octet, key, rfl, full, if_neg full⟩

theorem wildcardEnd_full (all : ∀ octet ∈ key, octet = 0xff) : wildcardEnd key = key := by
  rw [wildcardEnd, increaseLast_full fun octet member => all octet (List.mem_reverse.mp member),
    List.reverse_reverse]

theorem below_wildcardEnd (other : ¬ ∀ octet ∈ key, octet = 0xff) (starts : key <+: kd) :
    keycmp kd (wildcardEnd key) < 0 := by
  obtain ⟨front, octet, rest, split, different, increased⟩ :=
    increaseLast_split fun all : ∀ octet ∈ key.reverse, octet = 0xff =>
      other fun octet member => all octet (List.mem_reverse.mpr member)
  have whole : key = rest.reverse ++ octet :: front.reverse := by
    rw [← List.reverse_reverse key, split]
    simp
  have ends : wildcardEnd key = rest.reverse ++ (octet + 1) :: front.reverse := by
    rw [wildcardEnd, increased]
    simp
  obtain ⟨more, rfl⟩ := starts
  rw [ends, whole, List.append_assoc, keycmp_append, List.cons_append, keycmp_cons_cons]
  have small : octet.toNat < 255 := by
    have bound := octet.toNat_lt
    have apart : octet.toNat ≠ 255 := fun same => different (UInt8.toNat_inj.mp same)
    omega
  have next : octet < octet + 1 := by
    change octet.toNat < (octet.toNat + 1) % 256
    omega
  have apart : octet ≠ octet + 1 := by
    intro same
    rw [← same] at next
    exact UInt8.lt_irrefl _ next
  rw [if_neg apart, if_pos next]
  decide

end Prefixes

section Wildcards

variable {ν : Type} {key kd : List UInt8}

def Endless (key : List UInt8) : Prop := key ≠ [] ∧ ∀ octet ∈ key, octet = 0xff

private theorem contains_nil : (wildcardRange []).contains kd = true := rfl

theorem contains_wildcard (filled : key ≠ []) : (wildcardRange key).contains kd = true ↔
    ¬ keycmp kd key < 0 ∧ ¬ keycmp (wildcardEnd key) kd < 0 := by
  have ends : wildcardEnd key ≠ [] := by
    by_cases all : ∀ octet ∈ key, octet = 0xff
    · rwa [wildcardEnd_full all]
    · intro empty
      have below := below_wildcardEnd all (List.prefix_refl key)
      rw [empty] at below
      cases key with
      | nil => exact filled rfl
      | cons octet rest =>
        rw [keycmp_cons_nil] at below
        exact absurd below (by decide)
  simp [KeyRange.contains, KeyRange.low, KeyRange.high, givenKey, wildcardRange, filled, ends]

theorem contains_of_isPrefix (ended : ¬ Endless key) (starts : key <+: kd) :
    (wildcardRange key).contains kd = true := by
  by_cases empty : key = []
  · rw [empty]
    exact contains_nil
  · have other : ¬ ∀ octet ∈ key, octet = 0xff := fun all => ended ⟨empty, all⟩
    exact (contains_wildcard empty).mpr
      ⟨not_below_of_isPrefix starts, keycmp_asymm (below_wildcardEnd other starts)⟩

theorem contains_endless (endless : Endless key) :
    (wildcardRange key).contains kd = true ↔ kd = key := by
  rw [contains_wildcard endless.1, wildcardEnd_full endless.2]
  constructor
  · rintro ⟨low, high⟩
    have notMore := mt keycmp_swap.mp high
    exact keycmp_eq_zero.mp (by omega)
  · rintro rfl
    exact ⟨not_below_self _, not_below_self _⟩

end Wildcards

namespace Database

variable {ν : Type} {database : Database ν} {krange : KeyRange} {key rest : List UInt8}
  {dbd other : Dbdata} {datagram : Datagram} {rangeGranted : Bool}

theorem item_eq (member : dbd ∈ database.items) (member' : other ∈ database.items)
    (same : dbd.kd = other.kd) : dbd = other := by
  obtain ⟨node, inside, found⟩ := List.mem_filterMap.mp member
  obtain ⟨node', inside', found'⟩ := List.mem_filterMap.mp member'
  have equal := database.shaped.unique inside inside' (by rw [key_eq found, key_eq found', same])
  rw [equal, found'] at found
  exact (Option.some.inj found).symm

theorem smallest_eq (first : Smallest database.items has dbd)
    (second : Smallest database.items has other) : dbd = other := by
  apply item_eq first.member second.member
  have notLess := second.least dbd first.member first.holds
  have notMore := mt keycmp_swap.mp (first.least other second.member second.holds)
  exact keycmp_eq_zero.mp (by omega)

theorem firstOf [DecidableEq ν] (database : Database ν) (krange : KeyRange) :
    (∀ dbd ∈ database.items, krange.contains dbd.kd = false) ∧
        database.db.simpledbGetRange krange true = some none ∨
      ∃ dbd range, Smallest database.items (krange.contains · = true) dbd ∧
        database.db.simpledbGetRange krange true = some (some range) ∧
        database.db.simpledbGetFromRange (some range) .nomove = some (some (range, dbd)) := by
  have sorted := database.shaped.sorted
  obtain ⟨nothing, ends⟩ := sorted.getRange krange
  have within (dbd : Dbdata) (member : dbd ∈ database.items)
      (contained : krange.contains dbd.kd = true) :
      ∃ node ∈ database.db.inRange krange database.nodes, database.db.data node = some dbd := by
    obtain ⟨node, inside, found⟩ := List.mem_filterMap.mp member
    rw [← key_eq found] at contained
    exact ⟨node, List.mem_filter.mpr ⟨inside, contained⟩, found⟩
  have increasing : (database.db.inRange krange database.nodes).Pairwise fun first second =>
      keycmp (database.db.key first) (database.db.key second) < 0 :=
    List.Pairwise.filter _ sorted.increasing
  have part : ∀ node ∈ database.db.inRange krange database.nodes,
      node ∈ database.nodes ∧ krange.contains (database.db.key node) = true :=
    fun node member => List.mem_filter.mp member
  generalize database.db.inRange krange database.nodes = inside at *
  cases inside with
  | nil =>
    refine .inl ⟨fun dbd member => ?_, ?_⟩
    · rw [Bool.eq_false_iff]
      intro contained
      obtain ⟨node, absurd_, _⟩ := within dbd member contained
      cases absurd_
    · rw [Simpledb.simpledbGetRange, nothing rfl]
      rfl
  | cons n1 tail =>
    have atLast := List.getLast?_eq_some_getLast (List.cons_ne_nil n1 tail)
    generalize (n1 :: tail).getLast (List.cons_ne_nil n1 tail) = n2 at atLast
    obtain ⟨inNodes, contained⟩ := part n1 List.mem_cons_self
    obtain ⟨dbd, found⟩ := Option.isSome_iff_exists.mp (sorted.stored n1 inNodes)
    refine .inr ⟨dbd, { n1 := some n1, n2 := some n2, np := some n1 },
      ⟨List.mem_filterMap.mpr ⟨n1, inNodes, found⟩, ?_, ?_⟩, ?_, ?_⟩
    · rw [← key_eq found]
      exact contained
    · intro other member contained
      obtain ⟨node, inside, found'⟩ := within other member contained
      rw [← key_eq found, ← key_eq found']
      rcases List.mem_cons.mp inside with rfl | later
      · exact not_below_self _
      · exact keycmp_asymm ((List.pairwise_cons.mp increasing).1 node later)
    · rw [Simpledb.simpledbGetRange, ends n1 _ rfl atLast]
      rfl
    · simp only [Simpledb.simpledbGetFromRange, found, Option.bind_eq_bind, Option.bind_some]
      rfl

theorem smallest_starting (first : Smallest database.items ((wildcardRange key).contains · = true) dbd)
    (member : other ∈ database.items) (starts : key <+: other.kd) :
    Smallest database.items (key <+: ·) dbd := by
  by_cases endless : Endless key
  · have same := (contains_endless endless).mp first.holds
    refine ⟨first.member, ⟨[], ?_⟩, fun another inItems front => ?_⟩
    · rw [same, List.append_nil]
    · rw [same]
      exact not_below_of_isPrefix front
  · have notBelow := first.least other member (contains_of_isPrefix endless starts)
    refine ⟨first.member, ?_, fun another inItems front => ?_⟩
    · by_cases empty : key = []
      · rw [empty]
        exact List.nil_prefix
      · exact prefix_of_between starts ((contains_wildcard empty).mp first.holds).1 notBelow
    · exact first.least another inItems (contains_of_isPrefix endless front)

theorem wildcardRequest_ksize (rest : List UInt8) (fits : key.length < 2 ^ 32) :
    datagramKsize (wildcardRequest key rest) = key.length := by
  have size : ((wildcardRequest key rest).drop 1).take 4 = littleEndian 4 key.length := by
    exact List.take_left' (length_littleEndian 4 key.length)
  rw [datagramKsize, size, ofLittleEndian_littleEndian]
  exact Nat.mod_eq_of_lt fits

private theorem wildcardRequest_key : slice (wildcardRequest key rest) 5 key.length = some key :=
  slice_middle (ucBinconfudpPullWcard :: littleEndian 4 key.length) key rest

theorem wildcardRequest_length : (wildcardRequest key rest).length = 5 + (key ++ rest).length := by
  simp only [wildcardRequest, List.length_cons, List.length_append, length_littleEndian]
  omega

private theorem wildcardRequest_tooSmall (rest : List UInt8) (fits : key.length < 2 ^ 32) :
    tooSmall (wildcardRequest key rest) = true ↔ key ++ rest = [] := by
  constructor
  · intro small
    by_contra filled
    have positive := List.length_pos_of_ne_nil filled
    have inside : ¬ ((wildcardRequest key rest).length < 6 ∨
        (wildcardRequest key rest).length < datagramKsize (wildcardRequest key rest) + 5) := by
      rw [wildcardRequest_ksize rest fits, wildcardRequest_length, List.length_append]
      rw [List.length_append] at positive
      omega
    rw [tooSmall_of_inside inside] at small
    cases small
  · intro empty
    rw [tooSmall, wildcardRequest_length, empty]
    rfl

def RangeGiven (rangeGranted : Bool) (datagram : Datagram) : Prop :=
  datagram.keysGranted = true ∧ rangeGranted = true

structure Finds (database : Database ν) (rangeGranted : Bool) (datagram : Datagram)
    (key : List UInt8) (dbd : Dbdata) : Prop where
  first : Smallest database.items (key <+: ·) dbd
  range : RangeGiven rangeGranted datagram
  ended : Endless key → dbd.kd = key
  replyGranted : datagram.replyGranted = true
  octets : dbd.octets.isSome = true
  written : datagram.written = true

/-- There is no item that starts with a key, and the first one of its range, if there is any, is
not sent. -/
structure Misses (database : Database ν) (rangeGranted : Bool) (datagram : Datagram)
    (key : List UInt8) : Prop where
  missing : ∀ dbd ∈ database.items, ¬ key <+: dbd.kd
  others : RangeGiven rangeGranted datagram → ∀ dbd,
    Smallest database.items ((wildcardRange key).contains · = true) dbd →
      datagram.replyGranted = true ∧ dbd.octets.isSome = true ∧ datagram.written = false

/-- What `get_wildcard_data` sends: nothing without a range, or the first item of the range. -/
theorem getWildcardData_cases [DecidableEq ν] (database : Database ν) (rangeGranted : Bool)
    (request : datagram.rdata = wildcardRequest key rest) : ((¬ RangeGiven rangeGranted datagram ∨
        ∀ dbd ∈ database.items, (wildcardRange key).contains dbd.kd = false) ∧
      database.db.getWildcardData rangeGranted datagram key.length = some none) ∨
    RangeGiven rangeGranted datagram ∧
      ∃ dbd, Smallest database.items ((wildcardRange key).contains · = true) dbd ∧
        database.db.getWildcardData rangeGranted datagram key.length =
          if datagram.replyGranted = false then none
          else dbd.octets.bind fun value =>
            some (if datagram.written then some (pullokres dbd.kd.length dbd.kd value) else none) := by
  have taken : slice datagram.rdata 5 key.length = some key := by
    rw [request]
    exact wildcardRequest_key
  rw [Simpledb.getWildcardData, taken]
  by_cases keys : datagram.keysGranted = false
  · rw [if_pos keys]
    refine .inl ⟨.inl fun given => ?_, rfl⟩
    cases keys.symm.trans given.1
  rw [if_neg keys]
  by_cases granted : rangeGranted = true
  · have given : RangeGiven rangeGranted datagram := ⟨Bool.eq_true_of_not_eq_false keys, granted⟩
    rw [granted]
    rcases database.firstOf (wildcardRange key) with ⟨none_, opened⟩ | ⟨dbd, range, first, opened, item⟩
    · refine .inl ⟨.inr none_, ?_⟩
      simp only [Option.bind_eq_bind, Option.bind_some, opened]
    · refine .inr ⟨granted ▸ given, dbd, first, ?_⟩
      simp only [Option.bind_eq_bind, Option.bind_some, opened, item]
  · refine .inl ⟨.inl fun given => granted given.2, ?_⟩
    simp only [granted, Simpledb.simpledbGetRange, if_true, Option.bind_eq_bind, Option.bind_some]

theorem pullokres_ne_pullngres (ksize : Nat) (kd value rdata : List UInt8) :
    pullokres ksize kd value ≠ pullngres rdata := by
  intro same
  have heads := congrArg List.head? same
  simp [pullokres, pullngres, ucBinconfudpPullokres, ucBinconfudpPullngres] at heads

theorem answered_pullngres {items : List Dbdata} :
    WildcardAnswered items key rdata (some [pullngres rdata]) ↔ ∀ dbd ∈ items, ¬ key <+: dbd.kd := by
  constructor
  · intro answered
    generalize same : some [pullngres rdata] = replies at answered
    cases answered with
    | found dbd value first octets =>
      exact absurd (List.head_eq_of_cons_eq (Option.some.inj same)).symm
        (pullokres_ne_pullngres _ _ _ _)
    | refused missing => exact missing
  · exact .refused

theorem found_of_answered {items : List Dbdata} (other : replies ≠ some [pullngres rdata])
    (answered : WildcardAnswered items key rdata replies) :
    (∃ dbd, Smallest items (key <+: ·) dbd) ∧ ∃ reply, replies = some [reply] := by
  cases answered with
  | found dbd value first octets => exact ⟨⟨dbd, first⟩, _, rfl⟩
  | refused missing => exact absurd rfl other

section Answers

variable (rdata : List UInt8)

theorem answered_nothing (nothing : ¬ RangeGiven rangeGranted datagram ∨
      ∀ dbd ∈ database.items, (wildcardRange key).contains dbd.kd = false) :
    WildcardAnswered database.items key rdata (some [pullngres rdata]) ↔
      (∃ dbd, database.Finds rangeGranted datagram key dbd) ∨
        database.Misses rangeGranted datagram key := by
  rw [answered_pullngres]
  constructor
  · intro missing
    refine .inr ⟨missing, fun given dbd first => ?_⟩
    have outside := nothing.resolve_left (not_not_intro given) dbd first.member
    cases outside.symm.trans first.holds
  · rintro (⟨dbd, finds⟩ | misses)
    · have outside := nothing.resolve_left (not_not_intro finds.range) dbd finds.first.member
      have inside : (wildcardRange key).contains dbd.kd = true := by
        by_cases endless : Endless key
        · exact (contains_endless endless).mpr (finds.ended endless)
        · exact contains_of_isPrefix endless finds.first.holds
      cases outside.symm.trans inside
    · exact misses.missing

variable (first : Smallest database.items ((wildcardRange key).contains · = true) dbd)
include first

variable (given : RangeGiven rangeGranted datagram)
include given

theorem answered_fault (fault : datagram.replyGranted = true → ¬ dbd.octets.isSome = true) :
    WildcardAnswered database.items key rdata none ↔
      (∃ dbd, database.Finds rangeGranted datagram key dbd) ∨
        database.Misses rangeGranted datagram key := by
  refine iff_of_false (fun answered => ?_) ?_
  · obtain ⟨_, reply, same⟩ := found_of_answered (by simp) answered
    cases same
  · rintro (⟨other, finds⟩ | misses)
    · have starts := smallest_starting first finds.first.member finds.first.holds
      exact fault finds.replyGranted (smallest_eq finds.first starts ▸ finds.octets)
    · obtain ⟨granted, readable, _⟩ := misses.others given dbd first
      exact fault granted readable

theorem answered_first (granted : datagram.replyGranted = true)
    {value : List UInt8} (octets : dbd.octets = some value) :
    WildcardAnswered database.items key rdata
        (some [if datagram.written then pullokres dbd.kd.length dbd.kd value else pullngres rdata]) ↔
      (∃ dbd, database.Finds rangeGranted datagram key dbd) ∨
        database.Misses rangeGranted datagram key := by
  have readable : dbd.octets.isSome = true := by
    rw [octets]
    rfl
  by_cases written : datagram.written = true
  · rw [if_pos written]
    constructor
    · intro answered
      have different := pullokres_ne_pullngres dbd.kd.length dbd.kd value rdata
      obtain ⟨⟨other, starts⟩, _⟩ := found_of_answered (by simpa using different) answered
      exact .inl ⟨dbd, smallest_starting first starts.member starts.holds, given,
        fun endless => (contains_endless endless).mp first.holds, granted, readable, written⟩
    · rintro (⟨other, finds⟩ | misses)
      · exact .found dbd value (smallest_starting first finds.first.member finds.first.holds) octets
      · obtain ⟨_, _, unsent⟩ := misses.others given dbd first
        cases unsent.symm.trans written
  · rw [if_neg written, answered_pullngres]
    rw [Bool.not_eq_true] at written
    constructor
    · intro missing
      refine .inr ⟨missing, fun _ other first' => ?_⟩
      rw [← smallest_eq first first']
      exact ⟨granted, readable, written⟩
    · rintro (⟨other, finds⟩ | misses)
      · cases written.symm.trans finds.written
      · exact misses.missing

end Answers

/-- **The answer to a pull with a wildcard** is the first item whose key starts with the key, or a
refusal if there is none, exactly if what stands first in the range of the key can be sent and
starts with the key, or there is neither an item to find nor another one to send. -/
theorem wildcard_pull_answered [DecidableEq ν] (database : Database ν) (rangeGranted : Bool)
    (datagram : Datagram) (key rest : List UInt8) (request : datagram.rdata = wildcardRequest key rest)
    (fits : key.length < 2 ^ 32) : WildcardAnswered database.items key datagram.rdata
        (database.db.wildcardReplies rangeGranted datagram) ↔
      key ++ rest ≠ [] ∧ ((∃ dbd, database.Finds rangeGranted datagram key dbd) ∨
        database.Misses rangeGranted datagram key) := by
  have small := wildcardRequest_tooSmall rest fits
  have ksize := wildcardRequest_ksize rest fits
  rw [← request] at small ksize
  rw [Simpledb.wildcardReplies, ksize, ne_eq, ← small]
  by_cases ignored : tooSmall datagram.rdata = true
  · rw [if_pos ignored]
    refine iff_of_false (fun answered => ?_) fun fine => fine.1 ignored
    obtain ⟨_, reply, same⟩ := found_of_answered (by simp) answered
    cases same
  rw [if_neg ignored, and_iff_right ignored]
  rcases getWildcardData_cases database rangeGranted request with
    ⟨nothing, sent⟩ | ⟨given, dbd, first, sent⟩
  · rw [sent]
    exact answered_nothing _ nothing
  rw [sent]
  by_cases refused : datagram.replyGranted = false
  · rw [if_pos refused]
    exact answered_fault _ first given fun granted => nomatch refused.symm.trans granted
  rw [if_neg refused]
  cases octets : dbd.octets with
  | none => exact answered_fault _ first given fun _ readable => by simp [octets] at readable
  | some value =>
    have answered := answered_first datagram.rdata first given
      (Bool.eq_true_of_not_eq_false refused) octets
    rw [← answered, Option.bind_some, Option.map_some]
    by_cases written : datagram.written = true
    · rw [if_pos written, if_pos written]
      rfl
    · rw [if_neg written, if_neg written]
      rfl

end Database

def siblingLeaf : Database Nat where
  db := {
    heap := fun node => if node = 0 then some ⟨none, none⟩ else none
    data := fun node => if node = 0 then some ⟨0, [1, 6, 255], 1, some [5]⟩ else none
    dblist := ⟨some 0, some 0, 1⟩ }
  nodes := [0]
  shaped := {
    sorted := {
      linked := {
        segment := ⟨rfl, trivial⟩
        nodup := by decide
        head := rfl
        tail := rfl
        count := rfl }
      stored := by decide
      increasing := by decide }
    allocated := by
      intro node
      dsimp only
      split_ifs <;> rfl }

def absentLeafPull : Datagram where
  rdata := wildcardRequest [1, 5, 255] []
  keysGranted := true
  replyGranted := true
  written := true

theorem wildcard_pull_answered_sibling :
    WildcardAnswered siblingLeaf.items [1, 6] (wildcardRequest [1, 6] [])
      (siblingLeaf.db.wildcardReplies true ⟨wildcardRequest [1, 6] [], true, true, true⟩) := by
  have least : ∀ other ∈ siblingLeaf.items, [1, 6] <+: other.kd →
      ¬ keycmp other.kd [1, 6, 255] < 0 := by decide
  refine (siblingLeaf.wildcard_pull_answered true ⟨wildcardRequest [1, 6] [], true, true, true⟩
    [1, 6] [] rfl (by decide)).mpr ⟨nofun, .inl ⟨⟨0, [1, 6, 255], 1, some [5]⟩, ?_⟩⟩
  exact {
    first := ⟨by decide, by decide, least⟩
    range := ⟨rfl, rfl⟩
    ended := fun endless => absurd endless.2 (by decide)
    replyGranted := rfl
    octets := by decide
    written := rfl }

/-- The leaf behind an absent one ends the range for it, so that a pull of the absent leaf is
answered with the other one. -/
theorem absent_leaf_answered : ¬ ∀ (database : Database Nat) (datagram : Datagram) (key : List UInt8),
    datagram.keysGranted = true → datagram.replyGranted = true → datagram.written = true →
    datagram.rdata = wildcardRequest key [] → key ≠ [] → key.length < 2 ^ 32 →
      WildcardAnswered database.items key datagram.rdata
        (database.db.wildcardReplies true datagram) := by
  intro always
  have answered := always siblingLeaf absentLeafPull [1, 5, 255] rfl rfl rfl rfl (by decide) (by decide)
  have replied : siblingLeaf.db.wildcardReplies true absentLeafPull =
      some [pullokres 3 [1, 6, 255] [5]] := by decide
  obtain ⟨⟨dbd, first⟩, _⟩ := Database.found_of_answered (by decide) answered
  have only : ∀ dbd ∈ siblingLeaf.items, ¬ [1, 5, 255] <+: dbd.kd := by decide
  exact only dbd first.member first.holds

end EnetTsn.Uniconf
