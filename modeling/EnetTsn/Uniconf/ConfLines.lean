import EnetTsn.Library.CharSearch
import EnetTsn.Library.Loop

namespace EnetTsn.Uniconf

open EnetTsn.Library

def yangDbLineBufSize : Nat := 512

def fillSize : Nat := yangDbLineBufSize - 1

def backslash : UInt8 := 92

def newline : UInt8 := 10

/-- The loop of `remove_bslash` from the index `i` on, for the given number of turns. -/
def removeFrom (line : List UInt8) (i : Nat) (bs : Bool) (shift : Nat) : Nat → List UInt8 × Nat
  | 0 => (line, shift)
  | turns + 1 =>
    let line := if 0 < shift then line.set (i - shift) (line.getD i 0) else line
    if bs then
      if line.getD (i - shift) 0 ≠ newline then removeFrom line (i + 1) false shift turns
      else removeFrom line (i + 1) false (shift + 2) turns
    else removeFrom line (i + 1) (line.getD i 0 = backslash) shift turns

def lineText (memory : List UInt8) : List UInt8 := memory.takeWhile (· ≠ 0)

/-- `remove_bslash`: the buffer behind it, and by how much its text is shorter. The end of the
text is not marked anew. -/
def removeBslash (line : List UInt8) : List UInt8 × Nat :=
  removeFrom line 0 false 0 (lineText line).length

def filled (kept unread : List UInt8) : List UInt8 := kept ++ unread.take (fillSize - kept.length)

def beyond (kept unread : List UInt8) : List UInt8 := unread.drop (fillSize - kept.length)

/-- The reader between two turns of its loop: the text that is left in the buffer, what was not
read of the file, and the lines that were handed over. -/
structure LineReader where
  kept : List UInt8
  unread : List UInt8
  passed : List (List UInt8)

namespace LineReader

/-- The end of a turn: a line goes to `proc_one_line`, whose result is given by the lines that it
was called with, and the text from the place `np` on moves to the start of the buffer. -/
def pass (procOneLine : List (List UInt8) → Int) (reader : LineReader) (buffer : List UInt8)
    (size : Nat) (line : List UInt8) (np : Nat) : Turn LineReader Int :=
  let passed := reader.passed ++ [line]
  let res := procOneLine passed
  if res < 0 then .leave { reader with passed } res
  else
    let nlen : Int := size - np
    .again {
      kept := if 0 < nlen then (buffer.drop np).take nlen.toNat else []
      unread := beyond reader.kept reader.unread
      passed }

/-- A turn of the loop of `yang_db_runtime_readfile`. -/
def turn (procOneLine : List (List UInt8) → Int) (reader : LineReader) : Turn LineReader Int :=
  let line := filled reader.kept reader.unread
  if line = [] then .leave reader 0
  else
    let (buffer, shift) := removeBslash line
    let size := line.length - shift
    let text := lineText buffer
    match text.findIdx? (· = newline) with
    | some cp => pass procOneLine reader buffer size (text.take cp) (cp + 1)
    | none =>
      if size = fillSize then .leave reader (-1)
      else pass procOneLine reader buffer size text (text.length + 1)

end LineReader

/-- `yang_db_runtime_readfile` for a file that can be opened and read: the lines that were handed
over, and the result. Each turn takes at least an octet. -/
def yangDbRuntimeReadfile (procOneLine : List (List UInt8) → Int) (file : List UInt8) :
    Option (List (List UInt8) × Int) :=
  (iterate (LineReader.turn procOneLine) (file.length + 1) ⟨[], file, []⟩).map fun out =>
    (out.1.passed, out.2)

/-- The text with its lines joined: a backslash and the newline behind it are taken out. A backslash
that stands behind another one does not count. -/
def joined : List UInt8 → List UInt8
  | [] => []
  | [octet] => [octet]
  | first :: second :: rest =>
    if first = backslash then
      if second = newline then joined rest else first :: second :: joined rest
    else first :: joined (second :: rest)

def shifted (gap : List UInt8) (octet : UInt8) : List UInt8 := (gap ++ [octet]).tail

/-- What the removal leaves in the buffer behind the joined text, where some octets lay between
what was done and the text. -/
def leftBehind (gap : List UInt8) : List UInt8 → List UInt8
  | [] => gap
  | [octet] => shifted gap octet
  | first :: second :: rest =>
    if first = backslash then
      if second = newline then
        leftBehind (backslash :: newline :: shifted (shifted gap first) second) rest
      else leftBehind (shifted (shifted gap first) second) rest
    else leftBehind (shifted gap first) (second :: rest)

def logicalLines (text : List UInt8) : List (List UInt8) := getlines newline (joined text)

/-- What becomes of lines that are handed over one after the other: a failure ends it, and so does
a line that does not fit. -/
def processed (procOneLine : List (List UInt8) → Int) (passed : List (List UInt8)) :
    List (List UInt8) → List (List UInt8) × Int
  | [] => (passed, 0)
  | line :: lines =>
    if fillSize ≤ line.length then (passed, -1)
    else if procOneLine (passed ++ [line]) < 0 then
      (passed ++ [line], procOneLine (passed ++ [line]))
    else processed procOneLine (passed ++ [line]) lines

section Joined

variable {text rest line behind : List UInt8}

theorem joined_continuation (rest : List UInt8) :
    joined (backslash :: newline :: rest) = joined rest := by
  rw [joined, if_pos rfl, if_pos rfl]

theorem joined_escaped (other : octet ≠ newline) (rest : List UInt8) :
    joined (backslash :: octet :: rest) = backslash :: octet :: joined rest := by
  rw [joined, if_pos rfl, if_neg other]

theorem joined_plain (other : octet ≠ backslash) (rest : List UInt8) :
    joined (octet :: rest) = octet :: joined rest := by
  cases rest with
  | nil => rfl
  | cons second rest => rw [joined, if_neg other]

theorem text_induction {motive : List UInt8 → Prop} (nil : motive []) (ending : motive [backslash])
    (continuation : ∀ rest, motive rest → motive (backslash :: newline :: rest))
    (escaped : ∀ octet rest, octet ≠ newline → motive rest → motive (backslash :: octet :: rest))
    (plain : ∀ octet rest, octet ≠ backslash → motive rest → motive (octet :: rest))
    (text : List UInt8) : motive text := by
  induction text using joined.induct with
  | case1 => exact nil
  | case2 octet =>
    by_cases same : octet = backslash
    · exact same ▸ ending
    · exact plain octet [] same nil
  | case3 rest ih => exact continuation rest ih
  | case4 octet rest other ih => exact escaped octet rest other ih
  | case5 first second rest other ih => exact plain first (second :: rest) other ih

private theorem joined_joined (text rest : List UInt8) :
    joined (joined text ++ rest) = joined (text ++ rest) := by
  induction text using text_induction with
  | nil => rfl
  | ending => rfl
  | continuation text ih =>
    rw [joined_continuation, ih, List.cons_append, List.cons_append, joined_continuation]
  | escaped octet text other ih =>
    rw [joined_escaped other, List.cons_append, List.cons_append, joined_escaped other, ih,
      List.cons_append, List.cons_append, joined_escaped other]
  | plain octet text other ih =>
    rw [joined_plain other, List.cons_append, joined_plain other, ih, List.cons_append,
      joined_plain other]

theorem joined_append (found : joined text = line ++ newline :: behind) (rest : List UInt8) :
    joined (text ++ rest) = line ++ newline :: joined (behind ++ rest) := by
  induction text using text_induction generalizing line with
  | nil => cases line <;> cases found
  | ending =>
    cases line with
    | nil => exact absurd (List.cons.inj found).1 (by decide)
    | cons first line => cases line <;> cases (List.cons.inj found).2
  | continuation text ih =>
    rw [List.cons_append, List.cons_append, joined_continuation, ih found]
  | escaped octet text other ih =>
    rw [joined_escaped other] at found
    cases line with
    | nil => exact absurd (List.cons.inj found).1 (by decide)
    | cons first line =>
      obtain ⟨head, tail⟩ := List.cons.inj found
      cases line with
      | nil => exact absurd (List.cons.inj tail).1 other
      | cons second line =>
        obtain ⟨next, last⟩ := List.cons.inj tail
        rw [List.cons_append, List.cons_append, joined_escaped other, ih last, head, next]
        rfl
  | plain octet text other ih =>
    rw [joined_plain other] at found
    rw [List.cons_append, joined_plain other]
    cases line with
    | nil =>
      obtain ⟨head, tail⟩ := List.cons.inj found
      rw [← tail, joined_joined, head]
      rfl
    | cons first line =>
      obtain ⟨head, tail⟩ := List.cons.inj found
      rw [ih tail, head]
      rfl

theorem length_joined (text : List UInt8) : (joined text).length ≤ text.length := by
  induction text using text_induction with
  | nil | ending => exact Nat.le_refl _
  | continuation text ih =>
    rw [joined_continuation, List.length_cons, List.length_cons]
    omega
  | escaped octet text other ih =>
    rw [joined_escaped other]
    simp only [List.length_cons]
    omega
  | plain octet text other ih =>
    rw [joined_plain other, List.length_cons, List.length_cons]
    omega

theorem joined_eq_self (same : (joined text).length = text.length) : joined text = text := by
  induction text using text_induction with
  | nil | ending => rfl
  | continuation text ih =>
    have bound := length_joined text
    rw [joined_continuation, List.length_cons, List.length_cons] at same
    omega
  | escaped octet text other ih =>
    rw [joined_escaped other, List.length_cons, List.length_cons] at same
    rw [joined_escaped other, ih (by simpa using same)]
  | plain octet text other ih =>
    rw [joined_plain other, List.length_cons, List.length_cons] at same
    rw [joined_plain other, ih (Nat.succ.inj same)]

theorem mem_of_mem_joined {octet : UInt8} (member : octet ∈ joined text) : octet ∈ text := by
  induction text using text_induction with
  | nil | ending => exact member
  | continuation text ih =>
    exact List.mem_cons_of_mem _ (List.mem_cons_of_mem _ (ih member))
  | escaped other text different ih =>
    rw [joined_escaped different, List.mem_cons, List.mem_cons] at member
    rw [List.mem_cons, List.mem_cons]
    exact member.imp id (Or.imp id ih)
  | plain other text different ih =>
    rw [joined_plain different, List.mem_cons] at member
    exact List.mem_cons.mpr (member.imp id ih)

theorem mem_joined {octet : UInt8} (member : octet ∈ text) (plain : octet ≠ backslash)
    (inLine : octet ≠ newline) : octet ∈ joined text := by
  induction text using text_induction with
  | nil | ending => exact member
  | continuation text ih =>
    rw [List.mem_cons, List.mem_cons] at member
    exact ih ((member.resolve_left plain).resolve_left inLine)
  | escaped other text different ih =>
    rw [List.mem_cons, List.mem_cons] at member
    rw [joined_escaped different, List.mem_cons, List.mem_cons]
    exact member.imp id (Or.imp id ih)
  | plain other text different ih =>
    rw [List.mem_cons] at member
    rw [joined_plain different]
    exact List.mem_cons.mpr (member.imp id ih)

end Joined

section Removal

variable {octet : UInt8} {gap text : List UInt8}

theorem length_shifted (gap : List UInt8) (octet : UInt8) :
    (shifted gap octet).length = gap.length := by
  rw [shifted, List.length_tail, List.length_append, List.length_singleton, Nat.add_sub_cancel]

theorem leftBehind_continuation (gap rest : List UInt8) :
    leftBehind gap (backslash :: newline :: rest) =
      leftBehind (backslash :: newline :: shifted (shifted gap backslash) newline) rest := by
  rw [leftBehind, if_pos rfl, if_pos rfl]

theorem leftBehind_escaped (other : octet ≠ newline) (gap rest : List UInt8) :
    leftBehind gap (backslash :: octet :: rest) =
      leftBehind (shifted (shifted gap backslash) octet) rest := by
  rw [leftBehind, if_pos rfl, if_neg other]

theorem leftBehind_plain (other : octet ≠ backslash) (gap rest : List UInt8) :
    leftBehind gap (octet :: rest) = leftBehind (shifted gap octet) rest := by
  cases rest with
  | nil => rfl
  | cons second rest => rw [leftBehind, if_neg other]

theorem length_leftBehind (gap text : List UInt8) :
    (leftBehind gap text).length + (joined text).length = gap.length + text.length := by
  induction text using text_induction generalizing gap with
  | nil => rfl
  | ending => exact congrArg (· + 1) (length_shifted gap backslash)
  | continuation text ih =>
    rw [leftBehind_continuation, joined_continuation, ih]
    simp only [List.length_cons, length_shifted]
    omega
  | escaped octet text other ih =>
    have total := ih (shifted (shifted gap backslash) octet)
    rw [length_shifted, length_shifted] at total
    rw [leftBehind_escaped other, joined_escaped other]
    simp only [List.length_cons]
    omega
  | plain octet text other ih =>
    have total := ih (shifted gap octet)
    rw [length_shifted] at total
    rw [leftBehind_plain other, joined_plain other]
    simp only [List.length_cons]
    omega

theorem mem_shifted (member : element ∈ shifted gap octet) : element ∈ gap ∨ element = octet := by
  have either := List.mem_append.mp (List.mem_of_mem_tail member)
  exact either.imp id List.mem_singleton.mp

theorem mem_leftBehind {element : UInt8} (member : element ∈ leftBehind gap text) :
    element ∈ gap ∨ element ∈ text := by
  induction text using text_induction generalizing gap with
  | nil => exact .inl member
  | ending => exact (mem_shifted member).imp id List.mem_singleton.mpr
  | continuation text ih =>
    rw [List.mem_cons, List.mem_cons]
    obtain old | new := ih member
    · rw [List.mem_cons, List.mem_cons] at old
      obtain first | second | old := old
      · exact .inr (.inl first)
      · exact .inr (.inr (.inl second))
      · obtain old | second := mem_shifted old
        · exact (mem_shifted old).imp id .inl
        · exact .inr (.inr (.inl second))
    · exact .inr (.inr (.inr new))
  | escaped octet text other ih =>
    rw [leftBehind_escaped other] at member
    rw [List.mem_cons, List.mem_cons]
    obtain old | new := ih member
    · obtain old | second := mem_shifted old
      · exact (mem_shifted old).imp id .inl
      · exact .inr (.inr (.inl second))
    · exact .inr (.inr (.inr new))
  | plain octet text other ih =>
    rw [leftBehind_plain other] at member
    rw [List.mem_cons]
    obtain old | new := ih member
    · exact (mem_shifted old).imp id .inl
    · exact .inr (.inr new)

theorem moved_octet (done gap : List UInt8) (octet : UInt8) (rest : List UInt8) :
    (if 0 < gap.length then
        (done ++ (gap ++ octet :: rest)).set (done.length + gap.length - gap.length)
          ((done ++ (gap ++ octet :: rest)).getD (done.length + gap.length) 0)
      else done ++ (gap ++ octet :: rest)) = done ++ octet :: (shifted gap octet ++ rest) := by
  cases gap with
  | nil => rfl
  | cons first gap =>
    have here : (done ++ (first :: gap ++ octet :: rest)).getD
        (done.length + (first :: gap).length) 0 = octet := by
      simp [List.getD_eq_getElem?_getD]
    simp [shifted]

private theorem moved_read (done gap : List UInt8) (octet : UInt8) (rest : List UInt8) :
    (done ++ octet :: (shifted gap octet ++ rest)).getD (done.length + gap.length) 0 = octet := by
  cases gap with
  | nil => simp [List.getD_eq_getElem?_getD]
  | cons first gap => simp [shifted, List.getD_eq_getElem?_getD]

theorem removeFrom_clear (done gap : List UInt8) (octet : UInt8) (rest : List UInt8) (turns : Nat) :
    removeFrom (done ++ (gap ++ octet :: rest)) (done.length + gap.length) false gap.length
        (turns + 1) = removeFrom ((done ++ [octet]) ++ (shifted gap octet ++ rest))
        ((done ++ [octet]).length + (shifted gap octet).length) (octet = backslash)
        (shifted gap octet).length turns := by
  rw [removeFrom]
  simp only [moved_octet, moved_read, Bool.false_eq_true, if_false, length_shifted,
    List.length_append, List.length_singleton, List.append_assoc, List.singleton_append]
  rw [Nat.add_right_comm]

theorem removeFrom_behind (done gap : List UInt8) (octet : UInt8) (rest : List UInt8)
    (turns : Nat) :
    removeFrom (done ++ (gap ++ octet :: rest)) (done.length + gap.length) true gap.length
        (turns + 1) = removeFrom ((done ++ [octet]) ++ (shifted gap octet ++ rest))
        ((done ++ [octet]).length + (shifted gap octet).length) false
        (if octet = newline then (shifted gap octet).length + 2 else (shifted gap octet).length)
        turns := by
  have written : (done ++ octet :: (shifted gap octet ++ rest)).getD
      (done.length + gap.length - gap.length) 0 = octet := by
    simp [List.getD_eq_getElem?_getD]
  rw [removeFrom]
  simp only [moved_octet, written, if_true, length_shifted, List.length_append,
    List.length_singleton, List.append_assoc, List.singleton_append]
  rw [Nat.add_right_comm]
  by_cases same : octet = newline
  · rw [if_neg (not_not.mpr same), if_pos same]
  · rw [if_pos same, if_neg same]

theorem removeFrom_joined (done gap text : List UInt8) :
    removeFrom (done ++ (gap ++ text)) (done.length + gap.length) false gap.length text.length =
      (done ++ (joined text ++ leftBehind gap text), (leftBehind gap text).length) := by
  induction text using text_induction generalizing done gap with
  | nil => rw [List.length_nil, removeFrom, leftBehind, joined, List.append_nil, List.nil_append]
  | ending =>
    rw [List.length_singleton, removeFrom_clear, removeFrom, leftBehind, joined, List.append_nil,
      List.append_assoc]
  | continuation text ih =>
    have step : removeFrom (done ++ (gap ++ backslash :: newline :: text))
          (done.length + gap.length) false gap.length (backslash :: newline :: text).length =
        removeFrom
          (done ++ (backslash :: newline :: shifted (shifted gap backslash) newline ++ text))
          (done.length +
            (backslash :: newline :: shifted (shifted gap backslash) newline).length) false
          (backslash :: newline :: shifted (shifted gap backslash) newline).length
          text.length := by
      rw [List.length_cons, List.length_cons, removeFrom_clear, decide_eq_true rfl,
        removeFrom_behind, if_pos rfl]
      congr 1
      · simp
      · simp only [List.length_append, List.length_cons, List.length_nil]
        omega
    rw [step, ih, joined_continuation, leftBehind_continuation]
  | escaped octet text other ih =>
    rw [List.length_cons, List.length_cons, removeFrom_clear, decide_eq_true rfl,
      removeFrom_behind, if_neg other, ih, joined_escaped other, leftBehind_escaped other]
    simp
  | plain octet text other ih =>
    rw [List.length_cons, removeFrom_clear, decide_eq_false other, ih, joined_plain other,
      leftBehind_plain other]
    simp

/-- `remove_bslash` on a text without a zero octet. -/
theorem removeBslash_joined (line : List UInt8) (text : 0 ∉ line) : removeBslash line =
      (joined line ++ leftBehind [] line, (leftBehind [] line).length) := by
  have whole : lineText line = line := takeWhile_absent text
  rw [removeBslash, whole]
  exact removeFrom_joined [] [] line

end Removal

end EnetTsn.Uniconf
