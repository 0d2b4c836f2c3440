import EnetTsn.Netconf.FrameRoundTrip

namespace EnetTsn.Netconf

open EnetTsn.Library

def Framed (text : List UInt8) (messages : List (List UInt8)) : Prop :=
  ∃ frames : List Frame, (∀ frame ∈ frames, frame.Proper) ∧ frames.map Frame.message = messages ∧
    frameOctets frames <+: text

def FramesWhole (text : List UInt8) : Prop :=
  ∀ accepts : List UInt8 → Bool, ∃ messages,
    nconfMsgdecParseClientMsg accepts text = some messages ∧ Framed text messages

/-- A header behind chunks at which the frame is given up: its size is zero, or no more than the
length of all headers before it. -/
structure GivenUp (moved : Nat) (size rest : List UInt8) : Prop where
  string : 0 ∉ size
  line : 10 ∉ size
  more : moved = 0 ∨ size ≠ [35]
  overtaken : announced size ≤ moved
  held : announced size ≤ rest.length + 1

/-- A text that the decoder, with room for some messages, takes only whole frames from. -/
inductive Readable : Nat → List UInt8 → Prop
  | full {text} : Readable 0 text
  | short {room text} (few : text.length ≤ endOfMessage.length) : Readable room text
  | unknown {room text} (whole : ¬ endOfMessage <:+: cstring text)
      (start : ¬ chunkPrefix <+: text) : Readable room text
  | unended {room text} (whole : ¬ endOfMessage <:+: cstring text)
      (open_ : ¬ endOfChunks <:+: cstring text) : Readable room text
  | empty {room rest} : Readable room (endOfMessage ++ rest)
  | givenUp {room chunks size rest} (proper : ∀ chunk ∈ chunks, chunk ≠ [] ∧ 0 ∉ chunk)
      (settled : SettledChunks 0 chunks) (plain : ¬ endOfChunks <:+: chunkOctets chunks)
      (header : GivenUp (movedBy chunks) size rest)
      (whole : ¬ endOfMessage <:+:
        cstring (chunkOctets chunks ++ (chunkPrefix ++ (size ++ 10 :: rest)))) :
      Readable room (chunkOctets chunks ++ (chunkPrefix ++ (size ++ 10 :: rest)))
  | frame {room rest} {frame : Frame} (proper : frame.Proper) (clean : frame.Clean rest)
      (later : Readable room rest) : Readable (room + 1) (frame.octets ++ rest)

section Turns

variable {pre stale size rest text : List UInt8} {framelen assembledlen : Nat}

theorem eq_of_take (line : 10 ∉ size) (other : octet ≠ 35)
    (same : (size ++ octet :: rest).take 2 = [35, 10]) : size = [35] ∧ octet = 10 := by
  cases size with
  | nil =>
    exact absurd (List.cons.inj same).1 other
  | cons first size =>
    obtain ⟨rfl, second⟩ := List.cons.inj same
    cases size with
    | nil =>
      exact ⟨rfl, (List.cons.inj second).1⟩
    | cons next size =>
      have feed : next = 10 := (List.cons.inj second).1
      exact absurd (by simp [feed]) line

theorem chunkTurn_unended (quiet : Quiet stale) (string : 0 ∉ size) (line : 10 ∉ size) :
    chunkTurn framelen ⟨pre ++ (stale ++ chunkPrefix ++ (size ++ 0 :: rest)), pre.length,
        assembledlen⟩ =
      .leave ⟨pre ++ (stale ++ chunkPrefix ++ (size ++ 0 :: rest)), pre.length, 0⟩ true := by
  obtain ⟨within, other⟩ := chunkTurn_start pre (stale ++ chunkPrefix)
    (List.append_ne_nil_of_right_ne_nil _ (by decide)) quiet.string_header (size ++ 0 :: rest)
  have found := strstr_append pre (size ++ 0 :: rest) (by decide) quiet.first_header
    quiet.string_header (by simp)
  have before : pre ++ (stale ++ chunkPrefix ++ (size ++ 0 :: rest)) =
      (pre ++ stale ++ chunkPrefix) ++ (size ++ 0 :: rest) := by
    simp only [List.append_assoc]
  have place : (pre ++ stale ++ chunkPrefix).length =
      pre.length + stale.length + chunkPrefix.length := by
    simp only [List.length_append]
  have absent : ¬ [(10 : UInt8)] <:+: size := by
    rw [List.singleton_infix_iff]
    exact line
  have feed := strstr_none (pre ++ stale ++ chunkPrefix) string absent rest
  have header : (pre ++ (stale ++ chunkPrefix ++ (size ++ 0 :: rest))).drop
      (pre.length + stale.length + chunkPrefix.length) = size ++ 0 :: rest := by
    rw [before, ← place, List.drop_left]
  have more : ¬ (0 < assembledlen ∧ (size ++ 0 :: rest).take 2 = [35, 10]) := by
    rintro ⟨_, same⟩
    exact absurd (eq_of_take line (by decide) same).2 (by decide)
  rw [← before, place] at feed
  rw [chunkTurn]
  rw [if_neg within, if_neg other, found]
  dsimp only
  rw [header, if_neg more, feed]
  rfl

private theorem quiet_drop (quiet : Quiet stale) (count : Nat) : Quiet (stale.drop count) where
  string := fun member => quiet.string (List.mem_of_mem_drop member)
  plain := fun within => quiet.plain (within.trans (List.drop_suffix count stale).isInfix)

theorem givenUp_loop (framelen : Nat) (pre : List UInt8) (assembledlen : Nat)
    (quiet : Quiet stale) (header : GivenUp stale.length size rest)
    (none : stale = [] → assembledlen = 0) (short : size.length < 2 ^ 32) :
    ∃ final, Exits (chunkTurn framelen)
        ⟨pre ++ (stale ++ chunkPrefix ++ (size ++ 10 :: (rest ++ [0]))), pre.length, assembledlen⟩
        final true ∧ pre.length ≤ final.mem.length ∧ final.assembledlen = 0 := by
  have more : ¬ (0 < assembledlen ∧ (size ++ 10 :: (rest ++ [0])).take 2 = [35, 10]) := by
    rintro ⟨some_, same⟩
    rcases header.more with first | other
    · have zero := none (List.length_eq_zero_iff.mp first)
      omega
    · exact other (eq_of_take header.line (by decide) same).1
  have ended : 0 ∈ rest ++ [0] := List.mem_append_right rest (List.mem_singleton_self 0)
  have turn := chunkTurn_line pre framelen quiet header.string header.line ended short more
  by_cases long : framelen ≤ size.length
  · rw [if_pos long] at turn
    exact ⟨_, .leave turn, by simp, rfl⟩
  rw [if_neg long, moveChunk_header header.string] at turn
  by_cases zero : announced size = 0
  · rw [if_pos zero] at turn
    exact ⟨_, .leave turn, by simp, rfl⟩
  have held : ¬ (rest ++ [0]).length < announced size := by
    rw [List.length_append, List.length_singleton]
    exact Nat.not_lt.mpr header.held
  have behind : (stale ++ chunkPrefix ++ (size ++ 0 :: (rest ++ [0]))).drop (announced size) =
      stale.drop (announced size) ++ chunkPrefix ++ (size ++ 0 :: (rest ++ [0])) := by
    rw [List.append_assoc, List.drop_append_of_le_length header.overtaken, List.append_assoc]
  have place : pre.length + announced size =
      (pre ++ (rest ++ [0]).take (announced size)).length := by
    rw [List.length_append, List.length_take, Nat.min_eq_left (Nat.not_lt.mp held)]
  rw [if_neg zero, if_neg held, behind,
    ← List.append_assoc pre ((rest ++ [(0 : UInt8)]).take (announced size)), place] at turn
  refine ⟨_, .again turn (.leave (chunkTurn_unended (quiet_drop quiet _) header.string
    header.line)), ?_, rfl⟩
  simp only [List.length_append]
  omega

end Turns

section Stops

variable {accepts : List UInt8 → Bool} {mem text pre : List UInt8} {cur len room : Nat}

theorem parse_of_stop (turn : frameTurn accepts mem cur len = some .stop) :
    parseNetconfFrame accepts room mem cur len = some [] := by
  cases room with
  | zero => rfl
  | succ room =>
    rw [parseNetconfFrame, turn]
    exact ite_self _

private theorem frameTurn_unknown (whole : ¬ endOfMessage <:+: cstring text)
    (start : ¬ chunkPrefix <+: text) :
    frameTurn accepts (pre ++ (text ++ [0])) pre.length text.length = some .stop := by
  have other : ¬ (chunkPrefix.length < text.length ∧
      (text ++ [0]).take chunkPrefix.length = chunkPrefix) := by
    rintro ⟨long, same⟩
    rw [List.take_append_of_le_length long.le] at same
    exact start (List.prefix_iff_eq_take.mpr same.symm)
  rw [frameTurn, getFrameType_ended pre text _ whole, if_neg other]
  rfl

theorem frameTurn_unended (whole : ¬ endOfMessage <:+: cstring text)
    (unmarked : ¬ endOfChunks <:+: cstring text) :
    frameTurn accepts (pre ++ (text ++ [0])) pre.length text.length = some .stop := by
  have parsed : nconfMsgdecParseChunkedFrame (pre ++ (text ++ [0])) pre.length text.length =
      some none := by
    rw [nconfMsgdecParseChunkedFrame, strstr_ended, firstAt_eq_none.mpr unmarked]
    rfl
  rw [frameTurn, getFrameType_ended pre text _ whole]
  split
  · simp only [Option.bind_eq_bind, Option.bind_some, parsed]
  · rfl

private theorem frameTurn_none (next : Option Nat) (after : List UInt8)
    (whole : ¬ endOfMessage <:+: cstring text)
    (parsed : nconfMsgdecParseChunkedFrame (pre ++ (text ++ [0])) pre.length text.length =
      some (some ⟨after, 0, next⟩)) (within : pre.length ≤ after.length) :
    frameTurn accepts (pre ++ (text ++ [0])) pre.length text.length = some .stop := by
  have xml : slice after pre.length 0 = some [] := slice_of_le within
  rw [frameTurn, getFrameType_ended pre text _ whole]
  split
  · simp only [Option.bind_eq_bind, Option.bind_some, parsed, xml]
    rfl
  · rfl

variable {chunks : List (List UInt8)} {size rest : List UInt8}

theorem frameEnd_behind (pre : List UInt8) (string : 0 ∉ front) (plain : ¬ endOfChunks <:+: front)
    (found : firstAt endOfChunks (cstring (front ++ after)) = some place) (filled : after ≠ []) :
    ∃ framelen next, frameEnd pre.length (front ++ after).length
        (pre.length + place + endOfChunks.length) = (framelen, next) ∧
      front.length < framelen ∧ framelen ≤ (front ++ after).length := by
  obtain ⟨behind, same, _, _⟩ := firstAt_eq_some found
  have further : front.length < place + endOfChunks.length := by
    by_contra inside
    rw [cstring_string_append string] at same
    have start := List.prefix_of_prefix_length_le ⟨behind, same.symm⟩ (List.prefix_append _ _)
      (by simp only [List.length_append, List.length_take]; omega)
    exact plain ((List.suffix_append _ _).isInfix.trans start.isInfix)
  have positive := List.length_pos_of_ne_nil filled
  have total : (front ++ after).length = front.length + after.length := List.length_append
  rw [frameEnd]
  split
  · refine ⟨_, _, rfl, ?_, ?_⟩
    · omega
    · omega
  · exact ⟨_, _, rfl, by omega, Nat.le_refl _⟩

theorem frameTurn_givenUp (proper : ∀ chunk ∈ chunks, chunk ≠ [] ∧ 0 ∉ chunk)
    (settled : SettledChunks 0 chunks) (plain : ¬ endOfChunks <:+: chunkOctets chunks)
    (header : GivenUp (movedBy chunks) size rest)
    (same : text = chunkOctets chunks ++ (chunkPrefix ++ (size ++ 10 :: rest)))
    (whole : ¬ endOfMessage <:+: cstring text) (short : text.length < 2 ^ 32) :
    frameTurn accepts (pre ++ (text ++ [0])) pre.length text.length = some .stop := by
  cases found : firstAt endOfChunks (cstring text) with
  | none => exact frameTurn_unended whole (firstAt_eq_none.mp found)
  | some place =>
    have sizes := length_chunkOctets chunks
    have lengths : text.length = (chunkOctets chunks).length + (2 + (size.length +
        (rest.length + 1))) := by
      rw [same]
      simp only [List.length_append, List.length_cons]
      rfl
    obtain ⟨framelen, next, ended, inside, within⟩ := frameEnd_behind pre
      (string_chunkOctets proper) plain (same ▸ found) (by simp [chunkPrefix])
    rw [← same] at ended within
    obtain ⟨stale, quiet, length, reaches⟩ := settled_loop framelen pre []
      (chunkPrefix ++ (size ++ 10 :: (rest ++ [0]))) 0 quiet_nil settled proper (by simp) inside
      (by omega) (by omega)
    rw [List.length_nil, Nat.zero_add] at length
    have started (empty : stale = []) : 0 + chunks.flatten.length = 0 := by
      cases chunks with
      | nil => rfl
      | cons chunk chunks =>
        have width := length_chunkHeader chunk
        rw [empty, List.length_nil, movedBy, List.map_cons, List.sum_cons] at length
        omega
    obtain ⟨final, exits, place', zero⟩ := givenUp_loop framelen (pre ++ chunks.flatten)
      (0 + chunks.flatten.length) quiet (length ▸ header) started (by omega)
    have looped := iterate_of_exits
      (reaches final true (by simpa only [List.append_assoc] using exits))
    have memory : pre ++ ([] ++ chunkOctets chunks ++
        (chunkPrefix ++ (size ++ 10 :: (rest ++ [0])))) = pre ++ (text ++ [0]) := by
      rw [same]
      simp only [List.append_assoc, List.nil_append, List.cons_append]
    rw [memory] at looped
    apply frameTurn_none next final.mem whole
    · rw [nconfMsgdecParseChunkedFrame, strstr_ended, found, Option.map_some]
      dsimp only
      rw [ended]
      rw [looped]
      dsimp only
      rw [zero]
      rfl
    · rw [List.length_append] at place'
      omega

theorem parseNetconfFrame_readable (accepts : List UInt8 → Bool) (readable : Readable room text)
    (pre : List UInt8) (short : text.length < 2 ^ 32) :
    ∃ messages, parseNetconfFrame accepts room (pre ++ (text ++ [0])) pre.length text.length =
      some messages ∧ Framed text messages := by
  have nothing (text : List UInt8) : Framed text [] := ⟨[], nofun, rfl, List.nil_prefix⟩
  induction readable generalizing pre with
  | full => exact ⟨[], rfl, nothing _⟩
  | @short room text few =>
    refine ⟨[], ?_, nothing _⟩
    cases room with
    | zero => rfl
    | succ room => exact if_pos few
  | unknown whole start => exact ⟨[], parse_of_stop (frameTurn_unknown whole start), nothing _⟩
  | unended whole open_ => exact ⟨[], parse_of_stop (frameTurn_unended whole open_), nothing _⟩
  | @empty room rest =>
    have marked : ¬ endOfMessage <:+: [] ++ endOfMessage.dropLast := by decide
    obtain ⟨junk, turn, _⟩ := frameTurn_eom accepts pre rest List.not_mem_nil marked
    rw [show nconfXmlutilsParseXml accepts [] = false from rfl] at turn
    exact ⟨[], parse_of_stop (by simpa using turn), nothing _⟩
  | givenUp proper settled plain header whole =>
    exact ⟨[], parse_of_stop (frameTurn_givenUp proper settled plain header rfl whole short),
      nothing _⟩
  | @frame room rest frame proper clean later ih =>
    have lengths : (frame.octets ++ rest).length = frame.octets.length + rest.length :=
      List.length_append
    obtain ⟨junk, turn, sizes⟩ := frameTurn_clean accepts pre rest proper clean (by omega)
    have long : ¬ (frame.octets ++ rest).length ≤ endOfMessage.length := by
      have := clean.long
      omega
    have whole (messages : List (List UInt8)) (framed : Framed rest messages) :
        Framed (frame.octets ++ rest) (frame.message :: messages) := by
      obtain ⟨frames, propers, same, start⟩ := framed
      refine ⟨frame :: frames, List.forall_mem_cons.mpr ⟨proper, propers⟩, ?_, ?_⟩
      · rw [List.map_cons, same]
      · exact (List.prefix_append_right_inj _).mpr start
    rw [parseNetconfFrame, if_neg long, List.append_assoc, turn]
    by_cases parses : nconfXmlutilsParseXml accepts frame.message = true
    · rw [if_pos parses]
      by_cases last : rest = []
      · rw [if_pos last]
        exact ⟨_, rfl, whole [] (nothing _)⟩
      · have place : (pre ++ frame.message ++ junk).length = pre.length + frame.octets.length := by
          rw [List.length_append, List.length_append, ← sizes, Nat.add_assoc]
        have remaining : (frame.octets ++ rest).length -
            (pre.length + frame.octets.length - pre.length) = rest.length := by
          omega
        obtain ⟨messages, found, framed⟩ := ih (pre ++ frame.message ++ junk) (by omega)
        rw [place, List.append_assoc (pre ++ frame.message)] at found
        rw [if_neg last]
        dsimp only
        rw [remaining, found]
        exact ⟨_, rfl, whole messages framed⟩
    · rw [if_neg parses]
      exact ⟨[], rfl, nothing _⟩

/-- The decoder always ends. It stays in its buffer and hands on the messages of whole frames if
the text is readable. -/
theorem client_msg_whole (text : List UInt8) : (∀ framelen (loop : ChunkLoop), ∃ final result,
      iterate (chunkTurn framelen) (loop.mem.length + 1) loop = some (final, result)) ∧
    (text.length < 2 ^ 32 → Readable nconfMaxMessageDecode text → FramesWhole text) := by
  refine ⟨chunkLoop_finishes, fun short readable accepts => ?_⟩
  have found := parseNetconfFrame_readable accepts readable [] short
  rwa [List.nil_append, List.length_nil] at found

/-- A whole frame, and chunks without an end behind it. -/
theorem client_msg_whole_unended :
    FramesWhole ((Frame.chunked [[97, 98, 99, 100]]).octets ++ [10, 35, 45, 49, 10, 97, 98]) := by
  apply (client_msg_whole _).2
  · decide +kernel
  · refine .frame (by simp [Frame.Proper]) ⟨⟨by decide +kernel, ?_⟩, by decide +kernel⟩
      (.unended (by decide +kernel) (by decide +kernel))
    exact ⟨[], [97, 98, 99, 100], rfl, trivial, by decide, by decide +kernel⟩

/-- A size that is larger than the buffer makes the decoder leave it. -/
theorem announced_size_trusted :
    nconfMsgdecParseClientMsg (fun _ => true) [10, 35, 57, 57, 10, 97, 10, 35, 35, 10] = none ∧
      ¬ FramesWhole [10, 35, 57, 57, 10, 97, 10, 35, 35, 10] := by
  have left : nconfMsgdecParseClientMsg (fun _ => true)
      [10, 35, 57, 57, 10, 97, 10, 35, 35, 10] = none := by
    decide +kernel
  refine ⟨left, fun whole => ?_⟩
  obtain ⟨messages, found, _⟩ := whole fun _ => true
  cases found

end Stops

end EnetTsn.Netconf
