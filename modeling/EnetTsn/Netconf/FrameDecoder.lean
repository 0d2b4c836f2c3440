import EnetTsn.Library.Loop
import EnetTsn.Library.OctetString
import EnetTsn.Library.TextSearch

/-!
The decoder of NETCONF frames. It works in the buffer that the frames were received in: the
data of a chunk is moved over the headers in front of it, and what is behind the data that was
moved stays where it is. XML is left to a parser, which accepts an octet string or does not.
-/

namespace EnetTsn.Netconf

open EnetTsn.Library

/-- `NCONF_CHUNK_SIZE_MSG_PREFIX`, `\n#`. -/
def chunkPrefix : List UInt8 := [10, 35]

/-- `NCONF_END_OF_CHUNKS_MARKER`, `\n##\n`. -/
def endOfChunks : List UInt8 := [10, 35, 35, 10]

/-- `NCONF_END_OF_MESSAGE_MARKER`, `]]>]]>`. -/
def endOfMessage : List UInt8 := [93, 93, 62, 93, 93, 62]

def nconfMaxMessageDecode : Nat := 3

/-- `x4netconf_frame_type_t`. -/
inductive FrameType where
  | invalid
  | chunkedFraming
  | endOfMsgFraming
  deriving DecidableEq, Repr

/-- `nconf_msgdec_get_frame_type`. There is no result when no zero ends the buffer. -/
def nconfMsgdecGetFrameType (mem : List UInt8) (msg len : Nat) : Option FrameType :=
  (strstr mem msg endOfMessage).map fun tmp =>
    if tmp.isSome then .endOfMsgFraming
    else if chunkPrefix.length < len ∧ (mem.drop msg).take chunkPrefix.length = chunkPrefix then
      .chunkedFraming
    else .invalid

/-- The variables of the loop of `nconf_msgdec_parse_chunked_frame`. -/
structure ChunkLoop where
  mem : List UInt8
  ptr : Nat
  assembledlen : Nat
  deriving DecidableEq, Repr

def ChunkLoop.dropped (loop : ChunkLoop) : ChunkLoop := { loop with assembledlen := 0 }

/-- The size of a chunk, with a zero in place of its line feed: a `long` is put into 32 bits. -/
def chunkSize (octets : List UInt8) : Nat := ((strtol 10 (cstring octets)).1 % 2 ^ 32).toNat

def moveChunk (loop : ChunkLoop) (temp lf : Nat) : Turn ChunkLoop Bool :=
  let mem := loop.mem.set lf 0
  let chunksize := chunkSize (mem.drop temp)
  if chunksize = 0 then .leave { loop with mem := mem, assembledlen := 0 } true
  else
    match memmove mem loop.ptr (lf + 1) chunksize with
    | none => .leave loop false
    | some moved => .again {
        mem := moved
        ptr := loop.ptr + chunksize
        assembledlen := (loop.assembledlen + chunksize) % 2 ^ 32 }

/-- One turn of the loop. It ends with `false` when it leaves the buffer. -/
def chunkTurn (framelen : Nat) (loop : ChunkLoop) : Turn ChunkLoop Bool :=
  if loop.mem.length ≤ loop.ptr then .leave loop false
  else if loop.mem[loop.ptr]? = some 0 then .leave loop true
  else
    match strstr loop.mem loop.ptr chunkPrefix with
    | none => .leave loop false
    | some none => .leave loop true
    | some (some start) =>
      let temp := start + chunkPrefix.length
      if 0 < loop.assembledlen ∧ (loop.mem.drop temp).take 2 = [35, 10] then .leave loop true
      else
        match strstr loop.mem temp [10] with
        | none => .leave loop false
        | some none => .leave loop.dropped true
        | some (some lf) =>
          if framelen ≤ (lf - temp) % 2 ^ 32 then .leave loop.dropped true
          else moveChunk loop temp lf

/-- What a frame is parsed to: the memory, the length of the message, and the next frame. -/
structure ParsedFrame where
  mem : List UInt8
  len : Nat
  next : Option Nat
  deriving DecidableEq, Repr

def frameEnd (frame len ending : Nat) : Nat × Option Nat :=
  if ending - frame < len then (ending - frame, some ending) else (len, none)

/-- `nconf_msgdec_parse_chunked_frame`. There is no result when it leaves the buffer. -/
def nconfMsgdecParseChunkedFrame (mem : List UInt8) (frame len : Nat) :
    Option (Option ParsedFrame) :=
  match strstr mem frame endOfChunks with
  | none => none
  | some none => some none
  | some (some tmp) =>
    let (framelen, next) := frameEnd frame len (tmp + endOfChunks.length)
    match iterate (chunkTurn framelen) (mem.length + 1) ⟨mem, frame, 0⟩ with
    | some (final, true) =>
      let cleared :=
        if 0 < final.assembledlen ∧ final.assembledlen < framelen then
          clear final.mem (frame + final.assembledlen) (framelen - final.assembledlen)
        else some final.mem
      cleared.map fun mem => some ⟨mem, final.assembledlen, next⟩
    | _ => none

def nconfMsgdecParseEomFrame (mem : List UInt8) (msg len : Nat) : Option (Option ParsedFrame) :=
  (strstr mem msg endOfMessage).map fun eod =>
    some (match eod with
      | none => ⟨mem, len, none⟩
      | some eod => ⟨mem.set eod 0, eod - msg, (frameEnd msg len (eod + endOfMessage.length)).2⟩)

/-- `nconf_xmlutils_parse_xml`, with a parser. -/
def nconfXmlutilsParseXml (accepts : List UInt8 → Bool) (xml : List UInt8) : Bool :=
  xml.length ≠ 0 && accepts xml

/-- What one turn of the loop of `nconf_msgdec_parse_netconf_frame` comes to: it ends the loop,
or it gives a message and the memory and the frame to go on with. -/
inductive FrameTurn where
  | stop
  | message (xml mem : List UInt8) (next : Option Nat)

def frameTurn (accepts : List UInt8 → Bool) (mem : List UInt8) (cur remaininglen : Nat) :
    Option FrameTurn := do
  let frametype ← nconfMsgdecGetFrameType mem cur remaininglen
  let parsed ← match frametype with
    | .chunkedFraming => nconfMsgdecParseChunkedFrame mem cur remaininglen
    | .endOfMsgFraming => nconfMsgdecParseEomFrame mem cur remaininglen
    | .invalid => some none
  match parsed with
  | none => some .stop
  | some frame =>
    let xml ← slice frame.mem cur frame.len
    some (if nconfXmlutilsParseXml accepts xml then .message xml frame.mem frame.next else .stop)

/-- The loop of `nconf_msgdec_parse_netconf_frame` with room for some messages: the messages.
There is no result when it leaves the buffer. -/
def parseNetconfFrame (accepts : List UInt8 → Bool) :
    Nat → List UInt8 → Nat → Nat → Option (List (List UInt8))
  | 0, _, _, _ => some []
  | room + 1, mem, cur, remaininglen =>
    if remaininglen ≤ endOfMessage.length then some []
    else
      match frameTurn accepts mem cur remaininglen with
      | none => none
      | some .stop => some []
      | some (.message xml _ none) => some [xml]
      | some (.message xml after (some next)) =>
        (parseNetconfFrame accepts room after next (remaininglen - (next - cur))).map (xml :: ·)

/-- `nconf_msgdec_parse_client_msg` on octets that were received: the buffer ends with a zero. -/
def nconfMsgdecParseClientMsg (accepts : List UInt8 → Bool) (ncmsg : List UInt8) :
    Option (List (List UInt8)) :=
  parseNetconfFrame accepts nconfMaxMessageDecode (ncmsg ++ [0]) 0 ncmsg.length

inductive Frame where
  | eom (message : List UInt8)
  | chunked (chunks : List (List UInt8))
  deriving DecidableEq, Repr

/-- The header of a chunk, as `nconf_msghdlr_send_chunked_frame` writes it. -/
def chunkHeader (chunk : List UInt8) : List UInt8 :=
  chunkPrefix ++ decimal chunk.length ++ [10]

def chunkOctets (chunks : List (List UInt8)) : List UInt8 :=
  chunks.flatMap fun chunk => chunkHeader chunk ++ chunk

theorem chunkOctets_append (first second : List (List UInt8)) :
    chunkOctets (first ++ second) = chunkOctets first ++ chunkOctets second :=
  List.flatMap_append

namespace Frame

def octets : Frame → List UInt8
  | .eom message => message ++ endOfMessage
  | .chunked chunks => chunkOctets chunks ++ endOfChunks

def message : Frame → List UInt8
  | .eom message => message
  | .chunked chunks => chunks.flatten

def Proper : Frame → Prop
  | .eom message => 0 ∉ message
  | .chunked chunks => ∀ chunk ∈ chunks, chunk ≠ [] ∧ 0 ∉ chunk

end Frame

def frameOctets (frames : List Frame) : List UInt8 := frames.flatMap Frame.octets

end EnetTsn.Netconf
