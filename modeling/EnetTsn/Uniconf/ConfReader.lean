import EnetTsn.Uniconf.ConfLines

namespace EnetTsn.Uniconf

open EnetTsn.Library

def ReadAsLines (file : List UInt8) : Prop :=
  ∀ procOneLine, yangDbRuntimeReadfile procOneLine file =
    some (processed procOneLine [] (logicalLines file))

/-- The line that is handed over where a fill has no newline: old octets belong to it, up to a
newline among them. -/
def openLine (line : List UInt8) : List UInt8 :=
  joined line ++ (leftBehind [] line).takeWhile (· ≠ newline)

/-- A fill without a newline and without a continuation, where the line is too long or the
last. -/
structure LastFill (kept unread : List UInt8) : Prop where
  noNewline : newline ∉ joined (filled kept unread)
  unchanged : joined (filled kept unread) = filled kept unread
  tooLong : (filled kept unread).length = fillSize →
    ∃ line, (logicalLines (kept ++ unread)).head? = some line ∧ fillSize ≤ line.length

/-- A fill with a continuation and without a newline, where the old octets happen to complete the
line. -/
structure LuckyFill (kept unread : List UInt8) : Prop where
  noNewline : newline ∉ joined (filled kept unread)
  removed : leftBehind [] (filled kept unread) ≠ []
  completes : (logicalLines (kept ++ unread)).head? = some (openLine (filled kept unread))

/-- Every fill has the newline of its first logical line, up to a fill of the given kind. -/
inductive FilledUntil (kind : List UInt8 → List UInt8 → Prop) : List UInt8 → List UInt8 → Prop
  | line {kept unread line behind : List UInt8} :
      joined (filled kept unread) = line ++ newline :: behind → newline ∉ line →
      FilledUntil kind behind (beyond kept unread) → FilledUntil kind kept unread
  | here {kept unread : List UInt8} : kind kept unread → FilledUntil kind kept unread

section Fill

variable {kept unread line behind : List UInt8}

theorem filled_append_beyond (kept unread : List UInt8) :
    filled kept unread ++ beyond kept unread = kept ++ unread := by
  rw [filled, beyond, List.append_assoc, List.take_append_drop]

theorem length_filled (small : kept.length ≤ fillSize) (unread : List UInt8) :
    (filled kept unread).length ≤ fillSize := by
  rw [filled, List.length_append, List.length_take]
  omega

private theorem whole_of_room (room : (filled kept unread).length < fillSize) :
    filled kept unread = kept ++ unread ∧ beyond kept unread = [] := by
  rw [filled, List.length_append, List.length_take] at room
  have short : unread.length ≤ fillSize - kept.length := by omega
  exact ⟨congrArg (kept ++ ·) (List.take_of_length_le short), List.drop_eq_nil_of_le short⟩

theorem length_filled_beyond (kept unread : List UInt8) :
    (filled kept unread).length + (beyond kept unread).length = kept.length + unread.length := by
  rw [← List.length_append, filled_append_beyond, List.length_append]

theorem mem_filled (member : octet ∈ filled kept unread) : octet ∈ kept ++ unread := by
  rw [← filled_append_beyond]
  exact List.mem_append_left _ member

variable (found : joined (filled kept unread) = line ++ newline :: behind)
include found

theorem logicalLines_line (first : newline ∉ line) :
    logicalLines (kept ++ unread) = line :: logicalLines (behind ++ beyond kept unread) := by
  rw [logicalLines, ← filled_append_beyond, joined_append found, getlines_append first]
  rfl

theorem kept_line (small : kept.length ≤ fillSize) (text : 0 ∉ kept ++ unread) :
    behind.length ≤ fillSize ∧ 0 ∉ behind ++ beyond kept unread ∧
      behind.length + (beyond kept unread).length < kept.length + unread.length := by
  have sizes := congrArg List.length found
  rw [List.length_append, List.length_cons] at sizes
  have bound := length_joined (filled kept unread)
  have fits := length_filled small unread
  have total := length_filled_beyond kept unread
  refine ⟨by omega, ?_, by omega⟩
  rw [List.mem_append, not_or]
  constructor
  · intro member
    have inside : 0 ∈ joined (filled kept unread) := by
      rw [found]
      exact List.mem_append_right _ (List.mem_cons_of_mem _ member)
    exact text (mem_filled (mem_of_mem_joined inside))
  · intro member
    rw [← filled_append_beyond] at text
    exact text (List.mem_append_right _ member)

end Fill

section Turns

variable {kept unread line behind : List UInt8} {passed : List (List UInt8)}
  {procOneLine : List (List UInt8) → Int}

/-- What a turn does with the line that it hands over, when the text is moved to the start. -/
def handOver (procOneLine : List (List UInt8) → Int) (reader : LineReader)
    (line kept : List UInt8) : Turn LineReader Int :=
  let passed := reader.passed ++ [line]
  if procOneLine passed < 0 then .leave { reader with passed } (procOneLine passed)
  else .again ⟨kept, beyond reader.kept reader.unread, passed⟩

private theorem pass_kept (fits : size = line.length + (behind.length + 1))
    (shape : buffer = line ++ newline :: (behind ++ left)) :
    LineReader.pass procOneLine reader buffer size line (line.length + 1) =
      handOver procOneLine reader line behind := by
  have nlen : (size : Int) - (line.length + 1 : Nat) = behind.length := by omega
  have rest : buffer.drop (line.length + 1) = behind ++ left := by
    rw [shape, List.drop_length_add_append]
    rfl
  have kept : (if 0 < (behind.length : Int) then behind else []) = behind := by
    cases behind with
    | nil => rfl
    | cons first behind => exact if_pos (Int.natCast_pos.mpr (Nat.succ_pos _))
  simp only [LineReader.pass, handOver, nlen, rest, Int.toNat_natCast, List.take_left, kept]

theorem pass_dropped (ends : size ≤ np) : LineReader.pass procOneLine reader buffer size line np =
      handOver procOneLine reader line [] := by
  have nlen : ¬ 0 < (size : Int) - (np : Nat) := by omega
  simp only [LineReader.pass, handOver, if_neg nlen]

section

variable (text : 0 ∉ filled kept unread)
include text

theorem turn_line
    (found : joined (filled kept unread) = line ++ newline :: behind) (first : newline ∉ line) :
    LineReader.turn procOneLine ⟨kept, unread, passed⟩ =
      handOver procOneLine ⟨kept, unread, passed⟩ line behind := by
  have nonempty : filled kept unread ≠ [] := by
    intro none
    rw [none] at found
    cases line <;> cases found
  have clean : 0 ∉ line ++ newline :: behind := by
    rw [← found]
    exact fun member => text (mem_of_mem_joined member)
  have shown : lineText (joined (filled kept unread) ++ leftBehind [] (filled kept unread)) =
      line ++ newline :: (behind ++ lineText (leftBehind [] (filled kept unread))) := by
    rw [lineText, List.takeWhile_append_of_pos, found, List.append_assoc, List.cons_append]
    · rfl
    · intro octet member
      rw [found] at member
      exact decide_eq_true fun same => clean (same ▸ member)
  have size := length_leftBehind [] (filled kept unread)
  rw [found, List.length_append, List.length_cons, List.length_nil, Nat.zero_add] at size
  rw [LineReader.turn, if_neg nonempty, removeBslash_joined _ text]
  simp only [shown, findIdx?_mark first, List.take_left]
  exact pass_kept (by omega) (by rw [found, List.append_assoc, List.cons_append])

theorem turn_open (nonempty : filled kept unread ≠ [])
    (absent : newline ∉ joined (filled kept unread))
    (room : (joined (filled kept unread)).length ≠ fillSize) :
    LineReader.turn procOneLine ⟨kept, unread, passed⟩ =
      handOver procOneLine ⟨kept, unread, passed⟩ (openLine (filled kept unread)) [] := by
  have clean : ∀ octet ∈ joined (filled kept unread) ++ leftBehind [] (filled kept unread),
      octet ≠ 0 := by
    rintro octet member rfl
    obtain inside | inside := List.mem_append.mp member
    · exact text (mem_of_mem_joined inside)
    · exact (mem_leftBehind inside).elim List.not_mem_nil text
  have shown : lineText (joined (filled kept unread) ++ leftBehind [] (filled kept unread)) =
      joined (filled kept unread) ++ leftBehind [] (filled kept unread) :=
    List.takeWhile_eq_self_iff.mpr fun octet member => decide_eq_true (clean octet member)
  have total := length_leftBehind [] (filled kept unread)
  rw [List.length_nil, Nat.zero_add] at total
  have whole : openLine (filled kept unread) =
      (joined (filled kept unread) ++ leftBehind [] (filled kept unread)).takeWhile
        (· ≠ newline) := by
    rw [List.takeWhile_append_of_pos, openLine]
    exact fun octet member => decide_eq_true fun same => absent (same ▸ member)
  have longer : (joined (filled kept unread)).length ≤ (openLine (filled kept unread)).length := by
    rw [openLine, List.length_append]
    exact Nat.le_add_right _ _
  rw [LineReader.turn, if_neg nonempty, removeBslash_joined _ text]
  simp only [shown]
  cases search : (joined (filled kept unread) ++ leftBehind [] (filled kept unread)).findIdx?
      (· = newline) with
  | some cp =>
    have line := takeWhile_findIdx? search
    rw [← whole] at line
    rw [line] at longer ⊢
    exact pass_dropped (by rw [List.length_take] at longer; omega)
  | none =>
    have line : openLine (filled kept unread) =
        joined (filled kept unread) ++ leftBehind [] (filled kept unread) := by
      rw [whole, List.takeWhile_eq_self_iff]
      intro octet member
      exact decide_eq_true fun same => of_decide_eq_false
        (List.findIdx?_eq_none_iff.mp search octet member) same
    rw [line, List.length_append]
    rw [if_neg (by omega)]
    exact pass_dropped (by omega)

theorem turn_tooLong
    (absent : newline ∉ joined (filled kept unread)) (small : kept.length ≤ fillSize)
    (full : (joined (filled kept unread)).length = fillSize) :
    LineReader.turn procOneLine ⟨kept, unread, passed⟩ = .leave ⟨kept, unread, passed⟩ (-1) := by
  have nonempty : filled kept unread ≠ [] := by
    intro none
    rw [none] at full
    cases full
  have total := length_leftBehind [] (filled kept unread)
  have fits := length_filled small unread
  rw [List.length_nil, Nat.zero_add] at total
  have left : leftBehind [] (filled kept unread) = [] := List.length_eq_zero_iff.mp (by omega)
  have shown : lineText (joined (filled kept unread)) = joined (filled kept unread) :=
    takeWhile_absent fun member => text (mem_of_mem_joined member)
  have search : (joined (filled kept unread)).findIdx? (· = newline) = none :=
    List.findIdx?_eq_none_iff.mpr fun octet member =>
      decide_eq_false fun same => absent (same ▸ member)
  rw [LineReader.turn, if_neg nonempty, removeBslash_joined _ text, left, List.append_nil]
  simp only [shown, search]
  exact if_pos (by rw [List.length_nil]; omega)

end

private theorem turn_end (empty : filled kept unread = []) :
    LineReader.turn procOneLine ⟨kept, unread, passed⟩ = .leave ⟨kept, unread, passed⟩ 0 := by
  rw [LineReader.turn, if_pos empty]

end Turns

def after : Turn LineReader Int → LineReader
  | .again next => next
  | .leave final _ => final

section Runs

variable {kept unread : List UInt8} {passed : List (List UInt8)} {fuel : Nat}
  {procOneLine : List (List UInt8) → Int}

def readFrom (procOneLine : List (List UInt8) → Int) (fuel : Nat) (reader : LineReader) :
    Option (List (List UInt8) × Int) :=
  (iterate (LineReader.turn procOneLine) fuel reader).map fun out => (out.1.passed, out.2)

theorem readFrom_handOver
    (turn : LineReader.turn procOneLine reader = handOver procOneLine reader line next)
    (fits : line.length < fillSize) (rest : readFrom procOneLine fuel
        ⟨next, beyond reader.kept reader.unread, reader.passed ++ [line]⟩ =
      some (processed procOneLine (reader.passed ++ [line]) lines)) :
    readFrom procOneLine (fuel + 1) reader =
      some (processed procOneLine reader.passed (line :: lines)) := by
  rw [readFrom, iterate, turn, handOver, processed, if_neg (Nat.not_le_of_lt fits)]
  by_cases failed : procOneLine (reader.passed ++ [line]) < 0
  · rw [if_pos failed, if_pos failed]
    rfl
  · rw [if_neg failed, if_neg failed]
    exact rest

theorem readFrom_end (empty : filled kept unread = []) (passed : List (List UInt8)) :
    readFrom procOneLine (fuel + 1) ⟨kept, unread, passed⟩ = some (passed, 0) := by
  rw [readFrom, iterate, turn_end empty]
  rfl

theorem readFrom_last (last : LastFill kept unread) (text : 0 ∉ kept ++ unread)
    (small : kept.length ≤ fillSize) (enough : kept.length + unread.length < fuel)
    (passed : List (List UInt8)) : readFrom procOneLine fuel ⟨kept, unread, passed⟩ =
      some (processed procOneLine passed (logicalLines (kept ++ unread))) := by
  have clean : 0 ∉ filled kept unread := fun member => text (mem_filled member)
  obtain ⟨fuel, rfl⟩ : ∃ fuel', fuel = fuel' + 1 := ⟨fuel - 1, by omega⟩
  have total := length_filled_beyond kept unread
  by_cases full : (filled kept unread).length = fillSize
  · obtain ⟨line, first, long⟩ := last.tooLong full
    obtain ⟨lines, shape⟩ := List.head?_eq_some_iff.mp first
    rw [readFrom, iterate, turn_tooLong clean last.noNewline small
        (by rwa [last.unchanged]), shape, processed, if_pos long]
    rfl
  · obtain ⟨whole, none⟩ := whole_of_room (lt_of_le_of_ne (length_filled small unread) full)
    have unchanged := last.unchanged
    have absent := last.noNewline
    by_cases empty : filled kept unread = []
    · rw [readFrom_end empty, ← whole, empty]
      rfl
    · have lines : logicalLines (kept ++ unread) = [filled kept unread] := by
        rw [logicalLines, ← whole, unchanged]
        exact getlines_absent (unchanged ▸ absent) empty
      have left : leftBehind [] (filled kept unread) = [] := by
        have sizes := length_leftBehind [] (filled kept unread)
        rw [unchanged, List.length_nil] at sizes
        exact List.length_eq_zero_iff.mp (by omega)
      have line : openLine (filled kept unread) = filled kept unread := by
        rw [openLine, left, unchanged, List.takeWhile_nil, List.append_nil]
      have turn : LineReader.turn procOneLine ⟨kept, unread, passed⟩ =
          handOver procOneLine ⟨kept, unread, passed⟩ (filled kept unread) [] := by
        rw [turn_open clean empty absent (by rwa [unchanged]), line]
      rw [lines]
      obtain ⟨fuel, rfl⟩ : ∃ fuel', fuel = fuel' + 1 :=
        ⟨fuel - 1, by have := List.length_pos_iff.mpr empty; omega⟩
      refine readFrom_handOver turn (lt_of_le_of_ne (length_filled small unread) full) ?_
      rw [none]
      exact readFrom_end rfl _

theorem readFrom_wellFilled (well : FilledUntil LastFill kept unread) (text : 0 ∉ kept ++ unread)
    (small : kept.length ≤ fillSize) (enough : kept.length + unread.length < fuel)
    (passed : List (List UInt8)) : readFrom procOneLine fuel ⟨kept, unread, passed⟩ =
      some (processed procOneLine passed (logicalLines (kept ++ unread))) := by
  induction well generalizing fuel passed with
  | here last => exact readFrom_last last text small enough passed
  | @line kept unread line behind found first _ ih =>
    obtain ⟨small', text', shorter⟩ := kept_line found small text
    obtain ⟨fuel, rfl⟩ : ∃ fuel', fuel = fuel' + 1 := ⟨fuel - 1, by omega⟩
    have sizes := congrArg List.length found
    rw [List.length_append, List.length_cons] at sizes
    have bound := length_joined (filled kept unread)
    have fits := length_filled small unread
    rw [logicalLines_line found first]
    have clean : 0 ∉ filled kept unread := fun member => text (mem_filled member)
    exact readFrom_handOver (turn_line clean found first) (by omega) (ih text' small' (by omega) _)

section

variable (procOneLine : List (List UInt8) → Int)

private theorem prefix_processed
    (passed lines : List (List UInt8)) : passed <+: (processed procOneLine passed lines).1 := by
  induction lines generalizing passed with
  | nil => exact List.prefix_rfl
  | cons line lines ih =>
    rw [processed]
    split
    · exact List.prefix_rfl
    · split
      · exact List.prefix_append _ _
      · exact (List.prefix_append _ _).trans (ih _)

variable (reader : LineReader)

theorem prefix_pass (buffer : List UInt8) (size : Nat) (line : List UInt8) (np : Nat) :
    reader.passed <+: (after (LineReader.pass procOneLine reader buffer size line np)).passed := by
  rw [LineReader.pass]
  by_cases failed : procOneLine (reader.passed ++ [line]) < 0
  · rw [if_pos failed]
    exact List.prefix_append _ _
  · rw [if_neg failed]
    exact List.prefix_append _ _

theorem prefix_turn : reader.passed <+: (after (LineReader.turn procOneLine reader)).passed := by
  rw [LineReader.turn]
  split
  · exact List.prefix_rfl
  · dsimp only
    split
    · exact prefix_pass _ _ _ _ _ _
    · split
      · exact List.prefix_rfl
      · exact prefix_pass _ _ _ _ _ _

end

private theorem prefix_readFrom (ran : readFrom procOneLine fuel reader = some out) :
    reader.passed <+: out.1 := by
  obtain ⟨⟨final, result⟩, finished, rfl⟩ := Option.map_eq_some_iff.mp ran
  refine (iterate_exits finished).invariant (fun state => reader.passed <+: state.passed)
    (fun final _ => reader.passed <+: final.passed) List.prefix_rfl ?_ ?_
  · intro state next kept turn
    have longer := prefix_turn procOneLine state
    rw [turn] at longer
    exact kept.trans longer
  · intro state final result kept turn
    have longer := prefix_turn procOneLine state
    rw [turn] at longer
    exact kept.trans longer

theorem prefix_processed_cons (fits : ¬ fillSize ≤ line.length) (lines : List (List UInt8)) :
    passed ++ [line] <+: (processed procOneLine passed (line :: lines)).1 := by
  rw [processed, if_neg fits]
  split
  · exact List.prefix_rfl
  · exact prefix_processed _ _ _

theorem not_extended (line : List UInt8) : ¬ passed ++ [line] <+: passed := by
  intro longer
  have sizes := longer.length_le
  rw [List.length_append, List.length_singleton] at sizes
  omega

private theorem head_of_processed (longer : passed ++ [line] <+: (processed procOneLine passed lines).1) :
    lines.head? = some line := by
  cases lines with
  | nil => exact absurd longer (not_extended line)
  | cons first lines =>
    by_cases long : fillSize ≤ first.length
    · rw [processed, if_pos long] at longer
      exact absurd longer (not_extended line)
    · have same := List.prefix_of_prefix_length_le (prefix_processed_cons long lines) longer
        (by simp)
      have pair := List.append_cancel_left (same.eq_of_length (by simp))
      exact congrArg some (List.head_eq_of_cons_eq pair)

private theorem long_of_processed (refused : processed procOneLine passed lines = (passed, -1)) :
    ∃ line, lines.head? = some line ∧ fillSize ≤ line.length := by
  cases lines with
  | nil => cases refused
  | cons line lines =>
    refine ⟨line, rfl, ?_⟩
    by_contra fits
    have longer : passed ++ [line] <+: (processed procOneLine passed (line :: lines)).1 :=
      prefix_processed_cons fits lines
    rw [refused] at longer
    exact not_extended line longer

theorem filledUntil_of_readFrom (ran : readFrom (fun _ => 0) fuel ⟨kept, unread, passed⟩ =
      some (processed (fun _ => 0) passed (logicalLines (kept ++ unread))))
    (text : 0 ∉ kept ++ unread) (small : kept.length ≤ fillSize) :
    FilledUntil LastFill kept unread ∨ FilledUntil LuckyFill kept unread := by
  induction fuel generalizing kept unread passed with
  | zero => cases ran
  | succ fuel ih =>
    have clean : 0 ∉ filled kept unread := fun member => text (mem_filled member)
    have fits := length_filled small unread
    by_cases empty : filled kept unread = []
    · refine .inl (.here ⟨?_, ?_, ?_⟩)
      · rw [empty]
        exact List.not_mem_nil
      · rw [empty]
        rfl
      · rw [empty]
        exact fun full => absurd full (by decide)
    by_cases found : newline ∈ joined (filled kept unread)
    · obtain ⟨line, behind, shape, first⟩ := List.eq_append_cons_of_mem found
      obtain ⟨small', text', -⟩ := kept_line shape small text
      have sizes := congrArg List.length shape
      rw [List.length_append, List.length_cons] at sizes
      have bound := length_joined (filled kept unread)
      rw [logicalLines_line shape first, processed, if_neg (by omega)] at ran
      rw [readFrom, iterate, turn_line clean shape first] at ran
      exact (ih ran text' small').imp (.line shape first) (.line shape first)
    · have sizes := length_leftBehind [] (filled kept unread)
      rw [List.length_nil, Nat.zero_add] at sizes
      by_cases full : (joined (filled kept unread)).length = fillSize
      · rw [readFrom, iterate, turn_tooLong clean found small full] at ran
        have whole : joined (filled kept unread) = filled kept unread := joined_eq_self (by omega)
        exact .inl (.here ⟨found, whole, fun _ => long_of_processed (Option.some.inj ran).symm⟩)
      · rw [readFrom, iterate, turn_open clean empty found full] at ran
        have longer := prefix_readFrom ran
        have first := head_of_processed longer
        by_cases none : leftBehind [] (filled kept unread) = []
        · rw [none, List.length_nil, Nat.zero_add] at sizes
          have whole := joined_eq_self sizes
          exact .inl (.here ⟨found, whole, fun full' => absurd (by rwa [whole]) full⟩)
        · exact .inr (.here ⟨found, none, first⟩)

private theorem processed_all (lines : List (List UInt8)) (fit : ∀ line ∈ lines, line.length < fillSize) :
    (processed (fun _ => 0) passed lines).1 = passed ++ lines := by
  induction lines generalizing passed with
  | nil => exact (List.append_nil passed).symm
  | cons line lines ih =>
    rw [List.forall_mem_cons] at fit
    rw [processed, if_neg (Nat.not_le_of_lt fit.1), if_neg (by decide), ih fit.2,
      List.append_assoc, List.singleton_append]

def Strings (reader : LineReader) : Prop := ∀ line ∈ reader.passed, 0 ∉ line

theorem not_mem_lineText (memory : List UInt8) : 0 ∉ lineText memory := by
  intro member
  exact absurd (List.mem_takeWhile_imp member) (by decide)

theorem strings_pass (strings : Strings reader) (clean : 0 ∉ line) (buffer : List UInt8)
    (size np : Nat) : Strings (after (LineReader.pass procOneLine reader buffer size line np)) := by
  have all : ∀ passed ∈ reader.passed ++ [line], 0 ∉ passed := by
    rw [List.forall_mem_append, List.forall_mem_singleton]
    exact ⟨strings, clean⟩
  rw [LineReader.pass]
  by_cases failed : procOneLine (reader.passed ++ [line]) < 0
  · rw [if_pos failed]
    exact all
  · rw [if_neg failed]
    exact all

theorem strings_turn (procOneLine : List (List UInt8) → Int) (strings : Strings reader) :
    Strings (after (LineReader.turn procOneLine reader)) := by
  rw [LineReader.turn]
  split
  · exact strings
  · dsimp only
    split
    · exact strings_pass strings (fun member => not_mem_lineText _ (List.mem_of_mem_take member))
        _ _ _
    · split
      · exact strings
      · exact strings_pass strings (not_mem_lineText _) _ _ _

private theorem strings_readFrom (ran : readFrom procOneLine fuel reader = some out)
    (strings : Strings reader) : ∀ line ∈ out.1, 0 ∉ line := by
  obtain ⟨⟨final, result⟩, finished, rfl⟩ := Option.map_eq_some_iff.mp ran
  refine (iterate_exits finished).invariant Strings (fun final _ => Strings final) strings ?_ ?_
  · intro state next kept turn
    have strings := strings_turn procOneLine kept
    rwa [turn] at strings
  · intro state final result kept turn
    have strings := strings_turn procOneLine kept
    rwa [turn] at strings

end Runs

private theorem zero_mem_line (zero : 0 ∈ file) : ∃ line ∈ logicalLines file, 0 ∈ line := by
  have inside : 0 ∈ (joined file).filter (· ≠ newline) :=
    List.mem_filter.mpr ⟨mem_joined zero (by decide) (by decide), by decide⟩
  rw [← flatten_getlines] at inside
  exact List.mem_flatten.mp inside

/-- A file without zero octets is read as its logical lines where each fill of the buffer has the
newline of the line that it starts with, up to a fill without continuations whose line is the last
or too long. It is not read so otherwise, but for old octets in the buffer that happen to complete
a line; nor is a file with a zero octet and no line too long. -/
theorem readAsLines_wellFilled (file : List UInt8) :
    (0 ∉ file → FilledUntil LastFill [] file → ReadAsLines file) ∧ (0 ∉ file → ReadAsLines file →
        FilledUntil LastFill [] file ∨ FilledUntil LuckyFill [] file) ∧
      (0 ∈ file → (∀ line ∈ logicalLines file, line.length < fillSize) → ¬ ReadAsLines file) := by
  refine ⟨?_, ?_, ?_⟩
  · intro text well procOneLine
    exact readFrom_wellFilled well text (Nat.zero_le _) (by simp) []
  · intro text read
    exact filledUntil_of_readFrom (read fun _ => 0) text (Nat.zero_le _)
  · intro zero fit read
    obtain ⟨line, member, inside⟩ := zero_mem_line zero
    have strings := strings_readFrom (read fun _ => 0) (fun line member => nomatch member)
    rw [processed_all _ fit, List.nil_append] at strings
    exact strings line member inside

/-- Two lines, the second with a continuation, are read as they are. -/
theorem readAsLines_two : ReadAsLines [97, 10, 98, 92, 10, 99, 10] := by
  refine (readAsLines_wellFilled _).1 (by decide) ?_
  have first : joined (filled [] [97, 10, 98, 92, 10, 99, 10]) = [97] ++ newline :: [98, 99, 10] :=
    by decide
  have second : joined (filled [98, 99, 10] []) = [98, 99] ++ newline :: [] := by decide
  exact .line first (by decide) (.line second (by decide) (.here ⟨by decide, by decide, by decide⟩))

/-- Without its last newline, a line with a continuation gets old octets: what is read of
`abc\`, newline, `def` is not the line `abcdef`. -/
theorem open_line_not_read :
    logicalLines [97, 98, 99, 92, 10, 100, 101, 102] = [[97, 98, 99, 100, 101, 102]] ∧
      yangDbRuntimeReadfile (fun _ => 0) [97, 98, 99, 92, 10, 100, 101, 102] =
        some ([[97, 98, 99, 100, 101, 102, 101, 102]], 0) ∧
      ¬ ReadAsLines [97, 98, 99, 92, 10, 100, 101, 102] := by
  refine ⟨by decide, by decide +kernel, ?_⟩
  intro read
  exact absurd (read fun _ => 0) (by decide +kernel)

end EnetTsn.Uniconf
