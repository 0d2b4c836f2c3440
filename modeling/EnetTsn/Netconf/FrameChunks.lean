import EnetTsn.Netconf.FrameDecoder

/-!
The chunks of one frame. The decoder moves the data of a chunk to the data before it, so that
the end of the data stands a second time in front of the next header, as long as all headers
so far. The next header is found if the data is at least so long and if no header seems to be
in its end.
-/

namespace EnetTsn.Netconf

open EnetTsn.Library

def movedBy (chunks : List (List UInt8)) : Nat :=
  (chunks.map fun chunk => (chunkHeader chunk).length).sum

def leftover (moved : Nat) (chunk : List UInt8) : List UInt8 :=
  chunk.drop (chunk.length - (moved + (chunkHeader chunk).length))

structure Settles (moved : Nat) (chunk : List UInt8) : Prop where
  long : moved + (chunkHeader chunk).length ≤ chunk.length
  plain : ¬ chunkPrefix <:+: leftover moved chunk

def SettledChunks : Nat → List (List UInt8) → Prop
  | _, [] => True
  | moved, chunk :: rest =>
    Settles moved chunk ∧ SettledChunks (moved + (chunkHeader chunk).length) rest

structure Ends (moved : Nat) (last : List UInt8) : Prop where
  long : moved < last.length
  plain : moved + (chunkHeader last).length ≤ last.length → ¬ chunkPrefix <:+: leftover moved last

structure Quiet (stale : List UInt8) : Prop where
  string : 0 ∉ stale
  plain : ¬ chunkPrefix <:+: stale

section Memory

variable {pre stale size rest text : List UInt8}

theorem cstring_append (string : 0 ∉ text) (rest : List UInt8) :
    cstring (text ++ 0 :: rest) = text := by
  have filled : ∀ octet ∈ text, decide (octet ≠ 0) = true := by
    intro octet member
    rw [decide_eq_true_iff]
    rintro rfl
    exact string member
  rw [cstring, List.takeWhile_append_of_pos filled, List.takeWhile_cons_of_neg (by decide),
    List.append_nil]

private theorem exists_cstring (ended : 0 ∈ rest) : ∃ text after, rest = text ++ 0 :: after ∧ 0 ∉ text := by
  obtain ⟨text, after, same, absent⟩ := List.eq_append_cons_of_mem ended
  exact ⟨text, after, same, absent⟩

theorem strstr_append (pre rest : List UInt8) (filled : word ≠ [])
    (absent : ¬ word <:+: front ++ word.dropLast) (string : 0 ∉ front ++ word) (ended : 0 ∈ rest) :
    strstr (pre ++ (front ++ word ++ rest)) pre.length word =
      some (some (pre.length + front.length)) := by
  obtain ⟨text, after, rfl, plain⟩ := exists_cstring ended
  have whole : 0 ∉ front ++ word ++ text := by
    rw [List.mem_append, not_or]
    exact ⟨string, plain⟩
  rw [strstr, List.drop_left, if_pos (by simp), ← List.append_assoc,
    cstring_append whole, firstAt_append filled absent]
  rfl

theorem strstr_none (pre : List UInt8) (string : 0 ∉ text) (absent : ¬ word <:+: text)
    (rest : List UInt8) : strstr (pre ++ (text ++ 0 :: rest)) pre.length word = some none := by
  rw [strstr, List.drop_left, if_pos (by simp), cstring_append string, firstAt_eq_none.mpr absent]
  rfl

private theorem header_concat (text : List UInt8) :
    chunkPrefix <:+: text ++ [10] ↔ chunkPrefix <:+: text := by
  rw [List.infix_concat_iff]
  refine ⟨fun either => either.resolve_left fun ends => ?_, .inr⟩
  rcases List.suffix_concat_iff.mp ends with none | ⟨before, same, _⟩
  · exact absurd none (by decide)
  · have last := congrArg List.getLast? same
    rw [List.getLast?_concat] at last
    exact absurd last (by decide)

theorem Quiet.string_header (quiet : Quiet stale) : 0 ∉ stale ++ chunkPrefix := by
  rw [List.mem_append, not_or]
  exact ⟨quiet.string, by decide⟩

theorem Quiet.first_header (quiet : Quiet stale) :
    ¬ chunkPrefix <:+: stale ++ chunkPrefix.dropLast :=
  mt (header_concat stale).mp quiet.plain

theorem octet_at (pre : List UInt8) (rest : List UInt8) :
    (pre ++ octet :: rest)[pre.length]? = some octet := by
  rw [List.getElem?_append_right (Nat.le_refl _), Nat.sub_self]
  rfl

end Memory

section Turns

variable {pre stale size rest : List UInt8} {framelen assembledlen : Nat}

theorem chunkTurn_start (pre text : List UInt8) (filled : text ≠ []) (string : 0 ∉ text)
    (rest : List UInt8) : ¬ (pre ++ (text ++ rest)).length ≤ pre.length ∧
      ¬ (pre ++ (text ++ rest))[pre.length]? = some 0 := by
  cases text with
  | nil => exact absurd rfl filled
  | cons octet text =>
    rw [List.cons_append, octet_at]
    constructor
    · simp
    · intro same
      exact string (Option.some.inj same ▸ List.mem_cons_self)

theorem chunkTurn_line (pre : List UInt8) (framelen : Nat) (quiet : Quiet stale)
    (string : 0 ∉ size) (line : 10 ∉ size) (ended : 0 ∈ rest) (short : size.length < 2 ^ 32)
    (more : ¬ (0 < assembledlen ∧ (size ++ 10 :: rest).take 2 = [35, 10])) :
    chunkTurn framelen ⟨pre ++ (stale ++ chunkPrefix ++ (size ++ 10 :: rest)), pre.length,
        assembledlen⟩ =
      if framelen ≤ size.length then
        .leave ⟨pre ++ (stale ++ chunkPrefix ++ (size ++ 10 :: rest)), pre.length, 0⟩ true
      else moveChunk
        ⟨pre ++ (stale ++ chunkPrefix ++ (size ++ 10 :: rest)), pre.length, assembledlen⟩
        (pre.length + stale.length + 2) (pre.length + stale.length + 2 + size.length) := by
  obtain ⟨within, other⟩ := chunkTurn_start pre (stale ++ chunkPrefix)
    (List.append_ne_nil_of_right_ne_nil _ (by decide)) quiet.string_header (size ++ 10 :: rest)
  have found := strstr_append pre (size ++ 10 :: rest) (by decide) quiet.first_header
    quiet.string_header (by simp [ended])
  have before : pre ++ (stale ++ chunkPrefix ++ (size ++ 10 :: rest)) =
      (pre ++ stale ++ chunkPrefix) ++ (size ++ [10] ++ rest) := by
    simp only [List.append_assoc, List.singleton_append]
  have place : (pre ++ stale ++ chunkPrefix).length = pre.length + stale.length + 2 := by
    simp only [List.length_append]
    rfl
  have none : ¬ [(10 : UInt8)] <:+: size ++ [(10 : UInt8)].dropLast := by
    rw [List.dropLast_singleton, List.append_nil, List.singleton_infix_iff]
    exact line
  have feed := strstr_append (pre ++ stale ++ chunkPrefix) rest (List.cons_ne_nil _ _) none
    (by simp [string]) ended
  have header : (pre ++ (stale ++ chunkPrefix ++ (size ++ 10 :: rest))).drop
      (pre.length + stale.length + 2) = size ++ 10 :: rest := by
    rw [before, ← place, List.drop_left, List.append_assoc]
    rfl
  have width : (pre.length + stale.length + 2 + size.length -
      (pre.length + stale.length + 2)) % 2 ^ 32 = size.length := by
    rw [Nat.add_sub_cancel_left]
    exact Nat.mod_eq_of_lt short
  rw [← before, place] at feed
  have two : pre.length + stale.length + chunkPrefix.length = pre.length + stale.length + 2 := rfl
  rw [chunkTurn]
  rw [if_neg within, if_neg other, found]
  dsimp only
  rw [two, header, if_neg more, feed]
  dsimp only
  rw [width]
  rfl

private theorem chunkTurn_header (quiet : Quiet stale) (string : 0 ∉ size) (line : 10 ∉ size)
    (ended : 0 ∈ rest) (inside : size.length < framelen) (short : size.length < 2 ^ 32)
    (more : ¬ (0 < assembledlen ∧ (size ++ 10 :: rest).take 2 = [35, 10])) :
    chunkTurn framelen ⟨pre ++ (stale ++ chunkPrefix ++ (size ++ 10 :: rest)), pre.length,
        assembledlen⟩ =
      moveChunk ⟨pre ++ (stale ++ chunkPrefix ++ (size ++ 10 :: rest)), pre.length, assembledlen⟩
        (pre.length + stale.length + 2) (pre.length + stale.length + 2 + size.length) := by
  rw [chunkTurn_line pre framelen quiet string line ended short more,
    if_neg (Nat.not_le.mpr inside)]

def announced (size : List UInt8) : Nat := ((strtol 10 size).1 % 2 ^ 32).toNat

theorem set_at (front : List UInt8) (old new : UInt8) (rest : List UInt8) :
    (front ++ old :: rest).set front.length new = front ++ new :: rest := by
  rw [List.set_append_right _ _ (Nat.le_refl _), Nat.sub_self]
  rfl

theorem memmove_behind (pre front rest : List UInt8) (count : Nat) :
    memmove (pre ++ (front ++ rest)) pre.length (pre ++ front).length count =
      if rest.length < count then none
      else some (pre ++ (rest.take count ++ (front ++ rest).drop count)) := by
  rw [memmove]
  have lengths : pre.length + count ≤ (pre ++ (front ++ rest)).length ∧
      (pre ++ front).length + count ≤ (pre ++ (front ++ rest)).length ↔ ¬ rest.length < count := by
    simp only [List.length_append]
    omega
  by_cases long : rest.length < count
  · rw [if_pos long, if_neg (mt lengths.mp (not_not.mpr long))]
  · have source : (pre ++ (front ++ rest)).drop (pre ++ front).length = rest := by
      rw [← List.append_assoc, List.drop_left]
    rw [if_neg long, if_pos (lengths.mpr long), List.take_left, source, ← List.drop_drop,
      List.drop_left, List.append_assoc]

theorem moveChunk_header (string : 0 ∉ size) :
    moveChunk ⟨pre ++ (stale ++ chunkPrefix ++ (size ++ 10 :: rest)), pre.length, assembledlen⟩
        (pre.length + stale.length + 2) (pre.length + stale.length + 2 + size.length) =
      let behind := stale ++ chunkPrefix ++ (size ++ 0 :: rest)
      if announced size = 0 then .leave ⟨pre ++ behind, pre.length, 0⟩ true
      else if rest.length < announced size then
        .leave ⟨pre ++ (stale ++ chunkPrefix ++ (size ++ 10 :: rest)), pre.length, assembledlen⟩
          false
      else .again ⟨pre ++ (rest.take (announced size) ++ behind.drop (announced size)),
        pre.length + announced size, (assembledlen + announced size) % 2 ^ 32⟩ := by
  have lineFeed : (pre ++ stale ++ chunkPrefix ++ size).length =
      pre.length + stale.length + 2 + size.length := by
    simp only [List.length_append]
    rfl
  have ended : (pre ++ (stale ++ chunkPrefix ++ (size ++ 10 :: rest))).set
      (pre.length + stale.length + 2 + size.length) 0 =
        pre ++ (stale ++ chunkPrefix ++ (size ++ 0 :: rest)) := by
    have placed := set_at (pre ++ stale ++ chunkPrefix ++ size) 10 0 rest
    rw [lineFeed] at placed
    simpa only [List.append_assoc] using placed
  have announces : chunkSize ((pre ++ (stale ++ chunkPrefix ++ (size ++ 0 :: rest))).drop
      (pre.length + stale.length + 2)) = announced size := by
    have place : (pre ++ stale ++ chunkPrefix).length = pre.length + stale.length + 2 := by
      simp only [List.length_append]
      rfl
    have grouped : pre ++ (stale ++ chunkPrefix ++ (size ++ 0 :: rest)) =
        (pre ++ stale ++ chunkPrefix) ++ (size ++ 0 :: rest) := by
      simp only [List.append_assoc]
    rw [← place, grouped, List.drop_left, chunkSize, cstring_append string, announced]
  have moved := memmove_behind pre (stale ++ chunkPrefix ++ size ++ [0]) rest (announced size)
  have source : (pre ++ (stale ++ chunkPrefix ++ size ++ [0])).length =
      pre.length + stale.length + 2 + size.length + 1 := by
    rw [← lineFeed]
    simp only [List.length_append, List.length_singleton]
    omega
  have whole : stale ++ chunkPrefix ++ size ++ [0] ++ rest =
      stale ++ chunkPrefix ++ (size ++ 0 :: rest) := by
    simp only [List.append_assoc, List.singleton_append]
  rw [source, whole] at moved
  rw [moveChunk]
  rw [ended, announces, moved]
  split
  · rfl
  · by_cases long : rest.length < announced size
    · rw [if_pos long, if_pos long]
    · rw [if_neg long, if_neg long]

private theorem announced_decimal (short : count < 2 ^ 32) : announced (decimal count) = count := by
  have scanned : scanNumber 10 (numeral 10 1 count ++ []) =
      some { negative := false, magnitude := count, rest := [] } :=
    scanNumber_numeral (by decide) (by decide) (by decide) stops_nil rfl
  rw [List.append_nil] at scanned
  rw [announced, strtol, decimal, scanned]
  simp only [Bool.false_eq_true, if_false]
  omega

theorem mem_decimal (member : octet ∈ decimal count) : octet ≠ 0 ∧ octet ≠ 10 ∧ octet ≠ 35 := by
  obtain ⟨digit, small, rfl⟩ := mem_numeral (by decide) member
  have all : ∀ digit < 10,
      digitOctet digit ≠ 0 ∧ digitOctet digit ≠ 10 ∧ digitOctet digit ≠ 35 := by
    decide
  exact all digit small

private theorem decimal_ne_nil (count : Nat) : decimal count ≠ [] := by
  obtain ⟨digit, rest, digits, _⟩ := numeral_cons 10 1 count (by decide) (by decide)
  rw [decimal, digits]
  exact List.cons_ne_nil _ _

private theorem decimal_take (count : Nat) (rest : List UInt8) :
    (decimal count ++ rest).take 2 ≠ [35, 10] := by
  cases digits : decimal count with
  | nil => exact absurd digits (decimal_ne_nil count)
  | cons digit digits' =>
    have plain := mem_decimal (digits ▸ List.mem_cons_self : digit ∈ decimal count)
    rw [List.cons_append, List.take_succ_cons]
    exact fun same => plain.2.2 (List.cons.inj same).1

private theorem header_eq (front chunk rest : List UInt8) : front ++ chunkHeader chunk ++ rest =
      front ++ chunkPrefix ++ (decimal chunk.length ++ 10 :: rest) := by
  rw [chunkHeader]
  simp only [List.append_assoc, List.singleton_append]

theorem length_chunkHeader (chunk : List UInt8) :
    (chunkHeader chunk).length = 3 + (decimal chunk.length).length := by
  rw [chunkHeader]
  simp only [List.length_append, List.length_singleton]
  have two : chunkPrefix.length = 2 := rfl
  omega

theorem chunkTurn_chunk (pre rest : List UInt8) (assembledlen : Nat) (quiet : Quiet stale)
    (filled : chunk ≠ []) (short : chunk.length < 2 ^ 32) (ended : 0 ∈ rest)
    (inside : (chunkHeader chunk).length < framelen) (frame : framelen < 2 ^ 32) :
    chunkTurn framelen ⟨pre ++ (stale ++ chunkHeader chunk ++ (chunk ++ rest)), pre.length,
        assembledlen⟩ = .again ⟨pre ++ chunk ++ (stale ++ chunkPrefix ++
        (decimal chunk.length ++ 0 :: (chunk ++ rest))).drop chunk.length,
        (pre ++ chunk).length, (assembledlen + chunk.length) % 2 ^ 32⟩ := by
  have string : 0 ∉ decimal chunk.length := fun member => (mem_decimal member).1 rfl
  have line : 10 ∉ decimal chunk.length := fun member => (mem_decimal member).2.1 rfl
  have width := length_chunkHeader chunk
  have positive : chunk.length ≠ 0 := mt List.length_eq_zero_iff.mp filled
  have fits : ¬ (chunk ++ rest).length < chunk.length := by
    rw [List.length_append]
    omega
  rw [header_eq, chunkTurn_header quiet string line (List.mem_append_right _ ended) (by omega)
    (by omega) fun both => decimal_take _ _ both.2, moveChunk_header string]
  dsimp only
  rw [announced_decimal short, if_neg positive, if_neg fits, List.take_left, List.length_append,
    List.append_assoc pre]

theorem drop_header (long : stale.length + (chunkHeader chunk).length ≤ chunk.length) :
    (stale ++ chunkPrefix ++ (decimal chunk.length ++ 0 :: (chunk ++ rest))).drop chunk.length =
      leftover stale.length chunk ++ rest := by
  have width : (stale ++ chunkPrefix ++ decimal chunk.length ++ [0]).length =
      stale.length + (chunkHeader chunk).length := by
    rw [length_chunkHeader]
    simp only [List.length_append, List.length_singleton]
    have two : chunkPrefix.length = 2 := rfl
    omega
  have grouped : stale ++ chunkPrefix ++ (decimal chunk.length ++ 0 :: (chunk ++ rest)) =
      (stale ++ chunkPrefix ++ decimal chunk.length ++ [0]) ++ (chunk ++ rest) := by
    simp only [List.append_assoc, List.singleton_append]
  rw [grouped, List.drop_append, width, List.drop_of_length_le (by omega), List.nil_append,
    List.drop_append_of_le_length (by omega), leftover]

theorem length_leftover (long : moved + (chunkHeader chunk).length ≤ chunk.length) :
    (leftover moved chunk).length = moved + (chunkHeader chunk).length := by
  rw [leftover, List.length_drop]
  omega

theorem quiet_leftover (string : 0 ∉ chunk) (plain : ¬ chunkPrefix <:+: leftover moved chunk) :
    Quiet (leftover moved chunk) where
  string := fun member => string (List.mem_of_mem_drop member)
  plain := plain

theorem settled_loop (framelen : Nat) (pre stale rest : List UInt8) (assembledlen : Nat)
    (quiet : Quiet stale) (settled : SettledChunks stale.length chunks)
    (proper : ∀ chunk ∈ chunks, chunk ≠ [] ∧ 0 ∉ chunk) (ended : 0 ∈ rest)
    (inside : (chunkOctets chunks).length < framelen) (frame : framelen < 2 ^ 32)
    (short : assembledlen + chunks.flatten.length < 2 ^ 32) :
    ∃ behind, Quiet behind ∧ behind.length = stale.length + movedBy chunks ∧ ∀ final result,
        Exits (chunkTurn framelen) ⟨pre ++ chunks.flatten ++ (behind ++ rest),
          (pre ++ chunks.flatten).length, assembledlen + chunks.flatten.length⟩ final result →
        Exits (chunkTurn framelen) ⟨pre ++ (stale ++ chunkOctets chunks ++ rest), pre.length,
          assembledlen⟩ final result := by
  induction chunks generalizing pre stale assembledlen with
  | nil =>
    refine ⟨stale, quiet, rfl, fun final result exits => ?_⟩
    simpa [chunkOctets] using exits
  | cons chunk chunks ih =>
    obtain ⟨here, later⟩ := settled
    obtain ⟨⟨filled, string⟩, others⟩ := List.forall_mem_cons.mp proper
    have octets : chunkOctets (chunk :: chunks) =
        chunkHeader chunk ++ chunk ++ chunkOctets chunks := List.flatMap_cons
    rw [octets, List.length_append, List.length_append] at inside
    rw [List.flatten_cons, List.length_append] at short
    have total : (assembledlen + chunk.length) % 2 ^ 32 = assembledlen + chunk.length :=
      Nat.mod_eq_of_lt (by omega)
    have left := length_leftover here.long
    obtain ⟨behind, quiet', length, reaches⟩ := ih (pre ++ chunk)
      (leftover stale.length chunk) (assembledlen + chunk.length)
      (quiet_leftover string here.plain) (by rw [left]; exact later) others (by omega) (by omega)
    refine ⟨behind, quiet', ?_, fun final result exits => ?_⟩
    · rw [length, left, movedBy, movedBy, List.map_cons, List.sum_cons, Nat.add_assoc]
    · have grouped : pre ++ (stale ++ chunkOctets (chunk :: chunks) ++ rest) =
          pre ++ (stale ++ chunkHeader chunk ++ (chunk ++ (chunkOctets chunks ++ rest))) := by
        rw [octets]
        simp only [List.append_assoc]
      have turn := chunkTurn_chunk pre (chunkOctets chunks ++ rest) assembledlen quiet filled
        (by omega) (List.mem_append_right _ ended)
        (by omega) frame
      rw [drop_header here.long, total] at turn
      rw [grouped]
      apply Exits.again turn
      rw [← List.append_assoc (leftover stale.length chunk)]
      apply reaches
      simpa only [List.flatten_cons, List.append_assoc, List.length_append, Nat.add_assoc] using
        exits

private theorem chunkTurn_stop (pre text : List UInt8) (string : 0 ∉ text)
    (plain : ¬ chunkPrefix <:+: text) (rest : List UInt8) :
    chunkTurn framelen ⟨pre ++ (text ++ 0 :: rest), pre.length, assembledlen⟩ =
      .leave ⟨pre ++ (text ++ 0 :: rest), pre.length, assembledlen⟩ true := by
  rw [chunkTurn]
  by_cases empty : text = []
  · subst empty
    rw [List.nil_append, octet_at, if_neg (by simp), if_pos rfl]
  · obtain ⟨within, other⟩ := chunkTurn_start pre text empty string (0 :: rest)
    rw [if_neg within, if_neg other, strstr_none pre string plain]

theorem chunkTurn_end (quiet : Quiet stale) (ended : 0 ∈ rest) (some_ : 0 < assembledlen) :
    chunkTurn framelen ⟨pre ++ (stale ++ endOfChunks ++ rest), pre.length, assembledlen⟩ =
      .leave ⟨pre ++ (stale ++ endOfChunks ++ rest), pre.length, assembledlen⟩ true := by
  have split : stale ++ endOfChunks ++ rest = stale ++ chunkPrefix ++ ([35, 10] ++ rest) := by
    rw [List.append_assoc, List.append_assoc]
    rfl
  obtain ⟨within, other⟩ := chunkTurn_start pre (stale ++ chunkPrefix)
    (List.append_ne_nil_of_right_ne_nil _ (by decide)) quiet.string_header ([35, 10] ++ rest)
  have found := strstr_append pre ([35, 10] ++ rest) (by decide) quiet.first_header
    quiet.string_header (List.mem_append_right _ ended)
  have behind : (pre ++ (stale ++ chunkPrefix ++ ([35, 10] ++ rest))).drop
      (pre.length + stale.length + chunkPrefix.length) = [35, 10] ++ rest := by
    have grouped : pre ++ (stale ++ chunkPrefix ++ ([35, 10] ++ rest)) =
        (pre ++ stale ++ chunkPrefix) ++ ([35, 10] ++ rest) := by
      simp only [List.append_assoc]
    rw [grouped, ← List.length_append, ← List.length_append, List.drop_left]
  rw [split, chunkTurn]
  rw [if_neg within, if_neg other, found]
  dsimp only
  rw [behind, if_pos ⟨some_, rfl⟩]

theorem drop_short (rest : List UInt8) (long : stale.length < chunk.length)
    (less : chunk.length < stale.length + (chunkHeader chunk).length) :
    ∃ text, 0 ∉ text ∧ ¬ chunkPrefix <:+: text ∧
      (stale ++ chunkPrefix ++ (decimal chunk.length ++ 0 :: rest)).drop chunk.length =
        text ++ 0 :: rest := by
  have width := length_chunkHeader chunk
  obtain ⟨more, same⟩ : ∃ more, chunk.length = stale.length + 1 + more :=
    ⟨chunk.length - (stale.length + 1), by omega⟩
  have grouped : stale ++ chunkPrefix ++ (decimal chunk.length ++ 0 :: rest) =
      stale ++ [10] ++ ((35 :: decimal chunk.length) ++ 0 :: rest) := by
    rw [show chunkPrefix = [10] ++ [35] from rfl]
    simp only [List.append_assoc, List.cons_append, List.nil_append]
  have front : (stale ++ [(10 : UInt8)]).length = stale.length + 1 := by
    rw [List.length_append, List.length_singleton]
  refine ⟨(35 :: decimal chunk.length).drop more, ?_, ?_, ?_⟩
  · intro member
    rcases List.mem_cons.mp (List.mem_of_mem_drop member) with hash | digit
    · exact absurd hash (by decide)
    · exact (mem_decimal digit).1 rfl
  · intro within
    have feed : (10 : UInt8) ∈ (35 :: decimal chunk.length).drop more := within.subset (by decide)
    rcases List.mem_cons.mp (List.mem_of_mem_drop feed) with hash | digit
    · exact absurd hash (by decide)
    · exact (mem_decimal digit).2.1 rfl
  · have room : more ≤ (35 :: decimal chunk.length).length := by
      rw [List.length_cons]
      omega
    have place : chunk.length = (stale ++ [(10 : UInt8)]).length + more := by rw [front, same]
    calc (stale ++ chunkPrefix ++ (decimal chunk.length ++ 0 :: rest)).drop chunk.length
        = (stale ++ [10] ++ ((35 :: decimal chunk.length) ++ 0 :: rest)).drop
            ((stale ++ [(10 : UInt8)]).length + more) := by rw [grouped, ← place]
      _ = ((35 :: decimal chunk.length) ++ 0 :: rest).drop more := by
          rw [← List.drop_drop, List.drop_left]
      _ = (35 :: decimal chunk.length).drop more ++ 0 :: rest :=
          List.drop_append_of_le_length room

theorem last_loop (framelen : Nat) (pre stale rest : List UInt8) (assembledlen : Nat)
    (quiet : Quiet stale) (ends : Ends stale.length last) (string : 0 ∉ last) (ended : 0 ∈ rest)
    (inside : (chunkHeader last).length < framelen) (frame : framelen < 2 ^ 32)
    (short : assembledlen + last.length < 2 ^ 32) : ∃ final junk, Exits (chunkTurn framelen)
        ⟨pre ++ (stale ++ chunkHeader last ++ (last ++ (endOfChunks ++ rest))), pre.length,
          assembledlen⟩ final true ∧ final.mem = pre ++ last ++ (junk ++ rest) ∧
      junk.length = stale.length + (chunkHeader last).length + endOfChunks.length ∧
      final.assembledlen = assembledlen + last.length := by
  have filled : last ≠ [] := List.ne_nil_of_length_pos (Nat.zero_lt_of_lt ends.long)
  have behind : 0 ∈ endOfChunks ++ rest := List.mem_append_right _ ended
  have turn := chunkTurn_chunk pre (endOfChunks ++ rest) assembledlen quiet filled (by omega) behind
    inside frame
  rw [Nat.mod_eq_of_lt short] at turn
  by_cases long : stale.length + (chunkHeader last).length ≤ last.length
  · rw [drop_header long, ← List.append_assoc (leftover _ _)] at turn
    have left := length_leftover long
    refine ⟨_, leftover stale.length last ++ endOfChunks, .again turn (.leave (chunkTurn_end
      (quiet_leftover string (ends.plain long)) ended ?_)), rfl, ?_, rfl⟩
    · have := ends.long
      omega
    · rw [List.length_append, left]
  · obtain ⟨text, string', plain, same⟩ := drop_short (last ++ (endOfChunks ++ rest))
      ends.long (Nat.lt_of_not_le long)
    have length := congrArg List.length same
    have width := length_chunkHeader last
    have two : chunkPrefix.length = 2 := rfl
    simp only [List.length_drop, List.length_append, List.length_cons] at length
    rw [same] at turn
    refine ⟨_, text ++ 0 :: (last ++ endOfChunks),
      .again turn (.leave (chunkTurn_stop _ text string' plain _)), ?_, ?_, rfl⟩
    · simp only [List.append_assoc, List.cons_append]
    · simp only [List.length_append, List.length_cons]
      have := ends.long
      omega

end Turns

end EnetTsn.Netconf
