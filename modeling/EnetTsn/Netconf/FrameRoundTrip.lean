import EnetTsn.Netconf.FrameChunks

namespace EnetTsn.Netconf

open EnetTsn.Library

/-- The chunks of a message are put together: all headers are found, and the mark behind them
is the first one. -/
structure CleanChunks (chunks : List (List UInt8)) : Prop where
  marked : ¬ endOfChunks <:+: chunkOctets chunks ++ endOfChunks.dropLast
  found : ∃ init last, chunks = init ++ [last] ∧ SettledChunks 0 init ∧ Ends (movedBy init) last

/-- A frame that is decoded in front of the rest of its buffer: a message in one piece is not
empty, and the mark behind it is the first one; chunks are put together, and no message in one
piece seems to follow. -/
def Frame.Clean (frame : Frame) (rest : List UInt8) : Prop :=
  match frame with
  | .eom message => message ≠ [] ∧ ¬ endOfMessage <:+: message ++ endOfMessage.dropLast
  | .chunked chunks => CleanChunks chunks ∧ ¬ endOfMessage <:+: frame.octets ++ cstring rest

def CleanFrames : List Frame → Prop
  | [] => True
  | frame :: frames => frame.Clean (frameOctets frames) ∧ CleanFrames frames

def FramesFound (frames : List Frame) : Prop :=
  ∀ accepts : List UInt8 → Bool, (∀ frame ∈ frames, accepts frame.message = true) →
    nconfMsgdecParseClientMsg accepts (frameOctets frames) = some (frames.map Frame.message)

section Loops

variable {framelen : Nat} {loop next final : ChunkLoop} {result : Bool}

private theorem memmove_length (done : memmove mem dest src count = some moved) :
    moved.length = mem.length ∧ dest + count ≤ mem.length := by
  obtain ⟨⟨within, source⟩, same⟩ := Option.ite_none_right_eq_some.mp done
  cases same
  refine ⟨?_, within⟩
  simp only [List.length_append, List.length_take, List.length_drop]
  omega

private theorem moveChunk_again (turn : moveChunk loop temp lf = .again next) :
    next.mem.length = loop.mem.length ∧ loop.ptr < next.ptr := by
  rw [moveChunk] at turn
  split at turn
  · cases turn
  · rename_i positive
    split at turn
    · cases turn
    · rename_i moved done
      cases turn
      obtain ⟨length, _⟩ := memmove_length done
      rw [List.length_set] at length
      exact ⟨length, Nat.lt_add_of_pos_right (Nat.pos_of_ne_zero positive)⟩

private theorem chunkTurn_again (turn : chunkTurn framelen loop = .again next) :
    next.mem.length = loop.mem.length ∧ loop.ptr < next.ptr ∧ loop.ptr < loop.mem.length := by
  rw [chunkTurn] at turn
  split at turn
  · cases turn
  rename_i within
  split at turn
  · cases turn
  split at turn
  · cases turn
  · cases turn
  · dsimp only at turn
    split at turn
    · cases turn
    split at turn
    · cases turn
    · cases turn
    · split at turn
      · cases turn
      · obtain ⟨length, further⟩ := moveChunk_again turn
        exact ⟨length, further, Nat.lt_of_not_le within⟩

theorem chunkLoop_finishes (framelen : Nat) (loop : ChunkLoop) :
    ∃ final result, iterate (chunkTurn framelen) (loop.mem.length + 1) loop =
      some (final, result) := by
  apply iterate_of_measure (fun state => state.mem.length = loop.mem.length)
    fun state => loop.mem.length - state.ptr
  · intro state next same turn
    obtain ⟨length, further, within⟩ := chunkTurn_again turn
    exact ⟨length.trans same, by omega⟩
  · rfl
  · omega

theorem iterate_of_exits (exits : Exits (chunkTurn framelen) loop final result) :
    iterate (chunkTurn framelen) (loop.mem.length + 1) loop = some (final, result) := by
  obtain ⟨final', result', finished⟩ := chunkLoop_finishes framelen loop
  obtain ⟨rfl, rfl⟩ := exits.deterministic (iterate_exits finished)
  exact finished

end Loops

section Frames

variable {pre rest message : List UInt8} {chunks : List (List UInt8)}

theorem length_chunkOctets (chunks : List (List UInt8)) :
    (chunkOctets chunks).length = movedBy chunks + chunks.flatten.length := by
  induction chunks with
  | nil => rfl
  | cons chunk chunks ih =>
    have octets : chunkOctets (chunk :: chunks) =
        chunkHeader chunk ++ chunk ++ chunkOctets chunks := List.flatMap_cons
    rw [octets, List.length_append, List.length_append, ih, movedBy, movedBy, List.map_cons,
      List.sum_cons, List.flatten_cons, List.length_append]
    omega

theorem string_chunkOctets (proper : ∀ chunk ∈ chunks, chunk ≠ [] ∧ 0 ∉ chunk) :
    0 ∉ chunkOctets chunks := by
  intro member
  obtain ⟨chunk, inside, here⟩ := List.mem_flatMap.mp member
  rw [chunkHeader] at here
  simp only [List.mem_append, List.mem_singleton] at here
  rcases here with ((start | digit) | feed) | data
  · exact absurd start (by decide)
  · exact (mem_decimal digit).1 rfl
  · exact absurd feed (by decide)
  · exact (proper chunk inside).2 data

theorem quiet_nil : Quiet [] where
  string := List.not_mem_nil
  plain := by decide

theorem chunkLoop_clean (pre rest : List UInt8) (proper : ∀ chunk ∈ chunks, chunk ≠ [] ∧ 0 ∉ chunk)
    (clean : CleanChunks chunks) (ended : 0 ∈ rest)
    (short : (chunkOctets chunks ++ endOfChunks).length < 2 ^ 32) :
    ∃ final junk, Exits (chunkTurn (chunkOctets chunks ++ endOfChunks).length)
        ⟨pre ++ (chunkOctets chunks ++ endOfChunks ++ rest), pre.length, 0⟩ final true ∧
      final.mem = pre ++ chunks.flatten ++ (junk ++ rest) ∧
      junk.length = movedBy chunks + endOfChunks.length ∧
      final.assembledlen = chunks.flatten.length := by
  obtain ⟨init, last, rfl, settled, ends⟩ := clean.found
  have proper' (chunk : List UInt8) (member : chunk ∈ init) : chunk ≠ [] ∧ 0 ∉ chunk :=
    proper chunk (List.mem_append_left _ member)
  have string := (proper last (List.mem_append_right _ (List.mem_singleton_self _))).2
  have single : chunkOctets [last] = chunkHeader last ++ last := by simp [chunkOctets]
  have sizes := length_chunkOctets init
  rw [chunkOctets_append, single] at short ⊢
  have lengths : (chunkOctets init ++ (chunkHeader last ++ last) ++ endOfChunks).length =
      (chunkOctets init).length + ((chunkHeader last).length + last.length) +
        endOfChunks.length := by
    simp only [List.length_append]
  have mark : endOfChunks.length = 4 := rfl
  rw [lengths] at short ⊢
  obtain ⟨behind, quiet, length, reaches⟩ := settled_loop ((chunkOctets init).length +
      ((chunkHeader last).length + last.length) + endOfChunks.length) pre []
    (chunkHeader last ++ (last ++ (endOfChunks ++ rest))) 0 quiet_nil settled proper'
    (by simp [ended]) (by omega) short (by omega)
  rw [List.length_nil, Nat.zero_add] at length
  obtain ⟨final, junk, exits, mem, size, assembled⟩ := last_loop ((chunkOctets init).length +
      ((chunkHeader last).length + last.length) + endOfChunks.length) (pre ++ init.flatten) behind
    rest (0 + init.flatten.length) quiet (length ▸ ends) string ended (by omega) short (by omega)
  refine ⟨final, junk, ?_, ?_, ?_, ?_⟩
  · have whole := reaches final true (by simpa only [List.append_assoc] using exits)
    simpa only [List.append_assoc, List.nil_append] using whole
  · rw [mem]
    simp only [List.flatten_append, List.flatten_singleton, List.append_assoc]
  · rw [size, length, movedBy, movedBy, List.map_append, List.sum_append]
    simp
  · rw [assembled, List.flatten_append, List.flatten_singleton, List.length_append, Nat.zero_add]

theorem frameEnd_octets (start : Nat) (octets rest : List UInt8) :
    frameEnd start (octets ++ rest).length (start + octets.length) =
      (octets.length, if rest = [] then none else some (start + octets.length)) := by
  rw [frameEnd, List.length_append, Nat.add_sub_cancel_left]
  by_cases empty : rest = []
  · rw [if_pos empty, if_neg (by simp [empty]), empty]
    rfl
  · have positive := List.length_pos_of_ne_nil empty
    rw [if_neg empty, if_pos (by omega)]

/-- `nconf_msgdec_parse_chunked_frame` on a frame whose chunks are put together. -/
theorem parseChunkedFrame_clean (pre rest : List UInt8)
    (proper : ∀ chunk ∈ chunks, chunk ≠ [] ∧ 0 ∉ chunk) (clean : CleanChunks chunks)
    (short : (chunkOctets chunks ++ endOfChunks).length < 2 ^ 32) :
    ∃ junk, nconfMsgdecParseChunkedFrame (pre ++ (chunkOctets chunks ++ endOfChunks ++
        (rest ++ [0]))) pre.length (chunkOctets chunks ++ endOfChunks ++ rest).length =
      some (some ⟨pre ++ chunks.flatten ++ (junk ++ (rest ++ [0])), chunks.flatten.length,
        if rest = [] then none
        else some (pre.length + (chunkOctets chunks ++ endOfChunks).length)⟩) ∧
      chunks.flatten.length + junk.length = (chunkOctets chunks ++ endOfChunks).length := by
  have string : 0 ∉ chunkOctets chunks ++ endOfChunks := by
    rw [List.mem_append, not_or]
    exact ⟨string_chunkOctets proper, by decide⟩
  have ended : (0 : UInt8) ∈ rest ++ [0] := List.mem_append_right _ (List.mem_singleton_self _)
  have found := strstr_append pre (rest ++ [0]) (by decide) clean.marked string ended
  obtain ⟨final, junk, exits, mem, size, assembled⟩ := chunkLoop_clean pre (rest ++ [0]) proper
    clean ended short
  have looped := iterate_of_exits exits
  have sizes : chunks.flatten.length + junk.length =
      (chunkOctets chunks ++ endOfChunks).length := by
    rw [size, List.length_append, length_chunkOctets]
    omega
  have place : pre.length + (chunkOctets chunks).length + endOfChunks.length =
      pre.length + (chunkOctets chunks ++ endOfChunks).length := by
    rw [List.length_append, Nat.add_assoc]
  have mark : endOfChunks.length = 4 := rfl
  rw [nconfMsgdecParseChunkedFrame, found]
  dsimp only
  rw [place, frameEnd_octets]
  rw [looped]
  dsimp only
  rw [assembled]
  by_cases filled : 0 < chunks.flatten.length
  · have less : chunks.flatten.length < (chunkOctets chunks ++ endOfChunks).length := by omega
    have cleared : clear final.mem (pre.length + chunks.flatten.length)
        ((chunkOctets chunks ++ endOfChunks).length - chunks.flatten.length) =
          some (pre ++ chunks.flatten ++ (List.replicate junk.length 0 ++ (rest ++ [0]))) := by
      have count : (chunkOctets chunks ++ endOfChunks).length - chunks.flatten.length =
          junk.length := by omega
      have start : pre.length + chunks.flatten.length = (pre ++ chunks.flatten).length :=
        List.length_append.symm
      rw [count, start, mem, clear, if_pos (by simp only [List.length_append]; omega),
        List.take_left, ← List.drop_drop, List.drop_left, List.drop_left, List.append_assoc]
    refine ⟨List.replicate junk.length 0, ?_, by rw [List.length_replicate, sizes]⟩
    have both : 0 < chunks.flatten.length ∧
        chunks.flatten.length < (chunkOctets chunks ++ endOfChunks).length := ⟨filled, less⟩
    rw [if_pos both, cleared]
    rfl
  · refine ⟨junk, ?_, sizes⟩
    have neither : ¬ (0 < chunks.flatten.length ∧
        chunks.flatten.length < (chunkOctets chunks ++ endOfChunks).length) :=
      fun both => filled both.1
    rw [if_neg neither, mem]
    rfl

/-- `nconf_msgdec_get_frame_type` where a message in one piece stands. -/
theorem getFrameType_eom (pre rest : List UInt8) (len : Nat) (string : 0 ∉ message)
    (marked : ¬ endOfMessage <:+: message ++ endOfMessage.dropLast) :
    strstr (pre ++ (message ++ endOfMessage ++ (rest ++ [0]))) pre.length endOfMessage =
        some (some (pre.length + message.length)) ∧
      nconfMsgdecGetFrameType (pre ++ (message ++ endOfMessage ++ (rest ++ [0]))) pre.length len =
        some .endOfMsgFraming := by
  have plain : 0 ∉ message ++ endOfMessage := by
    rw [List.mem_append, not_or]
    exact ⟨string, by decide⟩
  have found := strstr_append pre (rest ++ [0]) (by decide) marked plain
    (List.mem_append_right _ (List.mem_singleton_self _))
  refine ⟨found, ?_⟩
  rw [nconfMsgdecGetFrameType, found]
  rfl

variable (accepts : List UInt8 → Bool)

theorem frameTurn_eom (pre rest : List UInt8) (string : 0 ∉ message)
    (marked : ¬ endOfMessage <:+: message ++ endOfMessage.dropLast) :
    ∃ junk, frameTurn accepts (pre ++ (message ++ endOfMessage ++ (rest ++ [0]))) pre.length
        (message ++ endOfMessage ++ rest).length =
      some (if nconfXmlutilsParseXml accepts message then
        .message message (pre ++ message ++ (junk ++ (rest ++ [0])))
          (if rest = [] then none else some (pre.length + (message ++ endOfMessage).length))
        else .stop) ∧
      message.length + junk.length = (message ++ endOfMessage).length := by
  obtain ⟨found, type⟩ := getFrameType_eom pre rest (message ++ endOfMessage ++ rest).length string
    marked
  have ended : (pre ++ (message ++ endOfMessage ++ (rest ++ [0]))).set
      (pre.length + message.length) 0 =
        pre ++ message ++ ((0 :: endOfMessage.tail) ++ (rest ++ [0])) := by
    have placed := set_at (pre ++ message) 93 0 (endOfMessage.tail ++ (rest ++ [0]))
    rw [List.length_append] at placed
    simp only [endOfMessage, List.append_assoc] at placed ⊢
    exact placed
  have place : pre.length + message.length + endOfMessage.length =
      pre.length + (message ++ endOfMessage).length := by
    rw [List.length_append, Nat.add_assoc]
  have parsed : nconfMsgdecParseEomFrame (pre ++ (message ++ endOfMessage ++ (rest ++ [0])))
      pre.length (message ++ endOfMessage ++ rest).length =
        some (some ⟨pre ++ message ++ ((0 :: endOfMessage.tail) ++ (rest ++ [0])), message.length,
          if rest = [] then none else some (pre.length + (message ++ endOfMessage).length)⟩) := by
    rw [nconfMsgdecParseEomFrame, found, Option.map_some]
    dsimp only
    rw [ended, place, frameEnd_octets, Nat.add_sub_cancel_left]
  have xml := slice_middle pre message ((0 :: endOfMessage.tail) ++ (rest ++ [0]))
  refine ⟨0 :: endOfMessage.tail, ?_, ?_⟩
  · rw [frameTurn, type]
    simp only [Option.bind_eq_bind, Option.bind_some]
    rw [parsed]
    simp only [Option.bind_some, xml]
  · rw [List.length_append]
    rfl

theorem CleanChunks.ne_nil (clean : CleanChunks chunks) : chunks ≠ [] := by
  obtain ⟨init, last, rfl, _⟩ := clean.found
  exact List.append_ne_nil_of_right_ne_nil _ (List.cons_ne_nil _ _)

theorem CleanChunks.filled (clean : CleanChunks chunks) : chunks.flatten.length ≠ 0 := by
  obtain ⟨init, last, rfl, _, ends⟩ := clean.found
  have := ends.long
  rw [List.flatten_append, List.flatten_singleton, List.length_append]
  omega

private theorem cstring_ended (text : List UInt8) : cstring (text ++ [0]) = cstring text := by
  rw [cstring, List.takeWhile_append]
  split
  · rename_i whole
    rw [cstring, (List.takeWhile_prefix _).eq_of_length whole]
    exact List.append_nil text
  · rfl

theorem strstr_ended (pre text word : List UInt8) : strstr (pre ++ (text ++ [0])) pre.length word =
      some ((firstAt word (cstring text)).map (pre.length + ·)) := by
  rw [strstr, List.drop_left, if_pos (by simp), cstring_ended]

/-- `nconf_msgdec_get_frame_type` where no message in one piece stands. -/
theorem getFrameType_ended (pre text : List UInt8) (len : Nat)
    (absent : ¬ endOfMessage <:+: cstring text) :
    nconfMsgdecGetFrameType (pre ++ (text ++ [0])) pre.length len =
      some (if chunkPrefix.length < len ∧ (text ++ [0]).take chunkPrefix.length = chunkPrefix then
        .chunkedFraming else .invalid) := by
  rw [nconfMsgdecGetFrameType, strstr_ended, firstAt_eq_none.mpr absent, List.drop_left]
  rfl

theorem cstring_string_append (string : 0 ∉ text) (rest : List UInt8) :
    cstring (text ++ rest) = text ++ cstring rest := by
  have filled : ∀ octet ∈ text, decide (octet ≠ 0) = true := by
    intro octet member
    rw [decide_eq_true_iff]
    rintro rfl
    exact string member
  exact List.takeWhile_append_of_pos filled

/-- `nconf_msgdec_get_frame_type` where chunks stand. -/
theorem getFrameType_chunked (pre : List UInt8) (proper : ∀ chunk ∈ chunks, chunk ≠ [] ∧ 0 ∉ chunk)
    (filled : chunks ≠ [])
    (whole : ¬ endOfMessage <:+: chunkOctets chunks ++ endOfChunks ++ cstring rest) :
    nconfMsgdecGetFrameType (pre ++ (chunkOctets chunks ++ endOfChunks ++ (rest ++ [0]))) pre.length
      (chunkOctets chunks ++ endOfChunks ++ rest).length = some .chunkedFraming := by
  have text : 0 ∉ chunkOctets chunks ++ endOfChunks := by
    rw [List.mem_append, not_or]
    exact ⟨string_chunkOctets proper, by decide⟩
  have type := getFrameType_ended pre (chunkOctets chunks ++ endOfChunks ++ rest)
    (chunkOctets chunks ++ endOfChunks ++ rest).length
    (by rw [cstring_string_append text]; exact whole)
  cases chunks with
  | nil => exact absurd rfl filled
  | cons chunk chunks =>
    have long : chunkPrefix.length <
        (chunkOctets (chunk :: chunks) ++ endOfChunks ++ rest).length := by
      have four : endOfChunks.length = 4 := rfl
      have two : chunkPrefix.length = 2 := rfl
      simp only [List.length_append]
      omega
    rw [List.append_assoc _ rest, if_pos ⟨long, rfl⟩] at type
    exact type

theorem frameTurn_chunked (pre rest : List UInt8)
    (proper : ∀ chunk ∈ chunks, chunk ≠ [] ∧ 0 ∉ chunk) (clean : CleanChunks chunks)
    (whole : ¬ endOfMessage <:+: chunkOctets chunks ++ endOfChunks ++ cstring rest)
    (short : (chunkOctets chunks ++ endOfChunks).length < 2 ^ 32) :
    ∃ junk, frameTurn accepts (pre ++ (chunkOctets chunks ++ endOfChunks ++ (rest ++ [0])))
        pre.length (chunkOctets chunks ++ endOfChunks ++ rest).length =
      some (if nconfXmlutilsParseXml accepts chunks.flatten then
        .message chunks.flatten (pre ++ chunks.flatten ++ (junk ++ (rest ++ [0])))
          (if rest = [] then none
            else some (pre.length + (chunkOctets chunks ++ endOfChunks).length))
        else .stop) ∧
      chunks.flatten.length + junk.length = (chunkOctets chunks ++ endOfChunks).length := by
  obtain ⟨junk, parsed, sizes⟩ := parseChunkedFrame_clean pre rest proper clean short
  have type := getFrameType_chunked pre proper clean.ne_nil whole
  have xml := slice_middle pre chunks.flatten (junk ++ (rest ++ [0]))
  refine ⟨junk, ?_, sizes⟩
  rw [frameTurn, type]
  simp only [Option.bind_eq_bind, Option.bind_some]
  rw [parsed]
  simp only [Option.bind_some, xml]

theorem Frame.Clean.filled {frame : Frame} (clean : frame.Clean rest) :
    frame.message.length ≠ 0 := by
  cases frame with
  | eom message => exact mt List.length_eq_zero_iff.mp clean.1
  | chunked chunks => exact clean.1.filled

theorem frameTurn_clean (pre rest : List UInt8) {frame : Frame}
    (proper : frame.Proper) (clean : frame.Clean rest) (short : frame.octets.length < 2 ^ 32) :
    ∃ junk, frameTurn accepts (pre ++ (frame.octets ++ (rest ++ [0]))) pre.length
        (frame.octets ++ rest).length =
      some (if nconfXmlutilsParseXml accepts frame.message then
        .message frame.message (pre ++ frame.message ++ (junk ++ (rest ++ [0])))
          (if rest = [] then none else some (pre.length + frame.octets.length))
        else .stop) ∧
      frame.message.length + junk.length = frame.octets.length := by
  cases frame with
  | eom message => exact frameTurn_eom accepts pre rest proper clean.2
  | chunked chunks => exact frameTurn_chunked accepts pre rest proper clean.1 clean.2 short

theorem Frame.Clean.long {frame : Frame} (clean : frame.Clean rest) :
    endOfMessage.length < frame.octets.length := by
  cases frame with
  | eom message =>
    have := List.length_pos_of_ne_nil clean.1
    rw [Frame.octets, List.length_append]
    omega
  | chunked chunks =>
    have := clean.1.filled
    have filled := clean.1.ne_nil
    have size := length_chunkOctets chunks
    cases chunks with
    | nil => exact absurd rfl filled
    | cons chunk chunks =>
      have header := length_chunkHeader chunk
      have six : endOfMessage.length = 6 := rfl
      have four : endOfChunks.length = 4 := rfl
      rw [movedBy, List.map_cons, List.sum_cons] at size
      rw [Frame.octets, List.length_append]
      omega

end Frames

section Runs

variable {frames : List Frame}

theorem parseNetconfFrame_clean {accepts : List UInt8 → Bool} (room : Nat) (pre : List UInt8)
    (proper : ∀ frame ∈ frames, frame.Proper) (clean : CleanFrames frames)
    (accepted : ∀ frame ∈ frames, accepts frame.message = true)
    (short : (frameOctets frames).length < 2 ^ 32) (few : frames.length ≤ room) :
    parseNetconfFrame accepts room (pre ++ (frameOctets frames ++ [0])) pre.length
      (frameOctets frames).length = some (frames.map Frame.message) := by
  induction frames generalizing room pre with
  | nil =>
    cases room with
    | zero => rfl
    | succ room => exact if_pos (Nat.zero_le _)
  | cons frame frames ih =>
    obtain ⟨here, later⟩ := clean
    obtain ⟨proper', others⟩ := List.forall_mem_cons.mp proper
    obtain ⟨accepted', acceptedOthers⟩ := List.forall_mem_cons.mp accepted
    have octets : frameOctets (frame :: frames) = frame.octets ++ frameOctets frames :=
      List.flatMap_cons
    have lengths : (frame.octets ++ frameOctets frames).length =
        frame.octets.length + (frameOctets frames).length := List.length_append
    rw [octets] at short
    cases room with
    | zero => exact absurd few (by simp)
    | succ room =>
      obtain ⟨junk, turn, sizes⟩ := frameTurn_clean accepts pre (frameOctets frames) proper' here
        (by omega)
      have parses : nconfXmlutilsParseXml accepts frame.message = true := by
        rw [nconfXmlutilsParseXml, accepted', Bool.and_true, decide_eq_true_iff]
        exact here.filled
      rw [parses, if_pos rfl] at turn
      have long : ¬ (frame.octets ++ frameOctets frames).length ≤ endOfMessage.length := by
        have := here.long
        omega
      rw [octets, parseNetconfFrame, if_neg long, List.append_assoc, turn]
      by_cases last : frameOctets frames = []
      · have none : frames = [] := by
          cases frames with
          | nil => rfl
          | cons next frames =>
            have positive := later.1.long
            have empty := congrArg List.length last
            rw [frameOctets, List.flatMap_cons, List.length_append, List.length_nil] at empty
            omega
        rw [if_pos last, none]
        rfl
      · have place : (pre ++ frame.message ++ junk).length = pre.length + frame.octets.length := by
          rw [List.length_append, List.length_append, ← sizes, Nat.add_assoc]
        have remaining : (frame.octets ++ frameOctets frames).length -
            (pre.length + frame.octets.length - pre.length) = (frameOctets frames).length := by
          omega
        have found := ih room (pre ++ frame.message ++ junk) others later acceptedOthers
          (by omega) (Nat.le_of_succ_le_succ few)
        rw [place, List.append_assoc (pre ++ frame.message)] at found
        rw [if_neg last]
        dsimp only
        rw [remaining, found]
        rfl

/-- One to three messages, in one piece or in chunks, are found in their buffer where each
frame is decoded in front of the ones behind it. -/
theorem frames_found (frames : List Frame) (proper : ∀ frame ∈ frames, frame.Proper)
    (few : frames.length ≤ nconfMaxMessageDecode)
    (short : (frameOctets frames).length < 2 ^ 32) (clean : CleanFrames frames) :
    FramesFound frames := by
  intro accepts accepted
  have found := parseNetconfFrame_clean nconfMaxMessageDecode [] proper clean accepted short few
  rwa [List.nil_append, List.length_nil] at found

/-- A message in one piece, and one in two chunks. -/
theorem frames_found_two :
    FramesFound [.eom [60, 97, 47, 62], .chunked [[60, 97, 97, 97, 97], [97, 97, 97, 47, 62]]] := by
  apply frames_found
  · simp [Frame.Proper]
  · decide
  · decide +kernel
  · refine ⟨⟨by decide, by decide⟩, ⟨⟨by decide +kernel, ?_⟩, by decide +kernel⟩, trivial⟩
    refine ⟨[[60, 97, 97, 97, 97]], [97, 97, 97, 47, 62], rfl, ⟨⟨?_, ?_⟩, trivial⟩, ?_, ?_⟩
    · decide +kernel
    · decide +kernel
    · decide +kernel
    · decide +kernel

/-- A chunk that is shorter than its header hides the next header: what was put together so far
is taken for the message. -/
theorem short_chunk_hides_header :
    (∀ frame ∈ [Frame.chunked [[97, 98, 99], [103, 104, 105, 106]]], frame.Proper) ∧
      nconfMsgdecParseClientMsg (fun _ => true)
        (frameOctets [.chunked [[97, 98, 99], [103, 104, 105, 106]]]) = some [[97, 98, 99]] ∧
      ¬ FramesFound [.chunked [[97, 98, 99], [103, 104, 105, 106]]] := by
  have cut : nconfMsgdecParseClientMsg (fun _ => true)
      (frameOctets [.chunked [[97, 98, 99], [103, 104, 105, 106]]]) = some [[97, 98, 99]] := by
    decide +kernel
  refine ⟨by simp [Frame.Proper], cut, fun found => ?_⟩
  have whole := found (fun _ => true) fun _ _ => rfl
  rw [cut] at whole
  exact absurd whole (by decide)

end Runs

end EnetTsn.Netconf
