import Mathlib.Algebra.Ring.Nat
import Mathlib.Data.List.TakeWhile

/-!
Command lines: `ub_command_line_parser` splits a line into words in place and takes the quotes
off that enclose a word. A line is given by its octets before the final zero.
-/

namespace EnetTsn.Unibase

def whiteSpaces : List UInt8 := [32, 9, 10, 13]

/-- The variables of `ub_find_space`: the quote that is open, and an escape. -/
structure Quoting where
  inq : UInt8
  esc : Bool

def Quoting.outside : Quoting := ⟨0, false⟩

def Quoting.next (state : Quoting) (octet : UInt8) : Option Quoting :=
  if state.esc then some { state with esc := false }
  else if octet = 92 then some { state with esc := true }
  else if state.inq ≠ 0 then
    if octet ≠ state.inq then some state else some { state with inq := 0 }
  else if octet = 34 ∨ octet = 39 then some { state with inq := octet }
  else if octet ∈ whiteSpaces then none
  else some state

def ubFindNospace : List UInt8 → Nat → Option Nat
  | [], _ => none
  | _ :: _, 0 => none
  | octet :: rest, maxn + 1 =>
    if octet ∈ whiteSpaces then (ubFindNospace rest maxn).map (· + 1) else some 0

/-- `ub_find_space` in the middle of its loop. -/
def ubFindSpace (state : Quoting) : List UInt8 → Nat → Option Nat
  | [], _ => none
  | _ :: _, 0 => none
  | octet :: rest, maxn + 1 =>
    match state.next octet with
    | none => some 0
    | some state => (ubFindSpace state rest maxn).map (· + 1)

def textAt (line : List UInt8) (start : Nat) : List UInt8 := (line.drop start).takeWhile (· ≠ 0)

/-- The first loop of `ub_command_line_parser`, with room for some arguments: the line and the
places of the words in it. -/
def splitLine (linelen : Nat) : Nat → Nat → List UInt8 → List UInt8 × List Nat
  | 0, _, line => (line, [])
  | room + 1, p, line =>
    if linelen ≤ p then (line, [])
    else match ubFindNospace (textAt line p) (linelen - p) with
      | none => (line.set p 0, [])
      | some c =>
        match ubFindSpace .outside (textAt line (p + c)) (linelen - (p + c)) with
        | none | some 0 => (line, [p + c])
        | some (last + 1) =>
          let stop := p + c + (last + 1)
          let (line, argv) := splitLine linelen room (stop + 1) (line.set stop 0)
          (line, (p + c) :: argv)

def Quoted (word : List UInt8) : Prop :=
  word.head? = some 34 ∧ word.getLast? = some 34 ∨ word.head? = some 39 ∧ word.getLast? = some 39
  deriving Decidable

def stripQuotes : List Nat → List UInt8 → List UInt8 × List Nat
  | [], line => (line, [])
  | start :: argv, line =>
    if Quoted (textAt line start) then
      let (line, argv) := stripQuotes argv (line.set (start + (textAt line start).length - 1) 0)
      (line, (start + 1) :: argv)
    else
      let (line, argv) := stripQuotes argv line
      (line, start :: argv)

/-- `ub_command_line_parser`: the line it leaves, and where the arguments start. -/
def ubCommandLineParser (line : List UInt8) (maxargc : Int) : List UInt8 × List Nat :=
  let (line, argv) := splitLine (textAt line 0).length maxargc.toNat 0 line
  stripQuotes argv line

def splitWords (state : Quoting) (word : List UInt8) : List UInt8 → List (List UInt8)
  | [] => if word = [] then [] else [word]
  | octet :: rest =>
    match state.next octet with
    | some state => splitWords state (word ++ [octet]) rest
    | none => (if word = [] then [] else [word]) ++ splitWords .outside [] rest

def words (line : List UInt8) : List (List UInt8) := splitWords .outside [] line

def unquote (word : List UInt8) : List UInt8 :=
  if Quoted word ∧ 2 ≤ word.length then word.tail.dropLast else word

/-- What the arguments of a line are: at most `maxargc` texts inside of it, its first words. -/
structure Parsed (line : List UInt8) (maxargc : Int) (result : List UInt8 × List Nat) : Prop where
  few : result.2.length ≤ maxargc.toNat
  length : result.1.length = line.length
  inside : ∀ start ∈ result.2, start ≤ line.length
  arguments : result.2.map (textAt result.1) = ((words line).take maxargc.toNat).map unquote

def LoneQuote (word : List UInt8) : Prop := word = [34] ∨ word = [39]

private theorem next_outside {octet : UInt8} (visible : octet ∉ whiteSpaces) :
    (Quoting.outside.next octet).isSome = true := by
  unfold Quoting.next Quoting.outside
  split_ifs <;> rfl

private theorem words_space {octet : UInt8} (space : octet ∈ whiteSpaces) (rest : List UInt8) :
    words (octet :: rest) = words rest := by
  have skipped : Quoting.outside.next octet = none := by
    simp only [whiteSpaces, List.mem_cons, List.not_mem_nil, or_false] at space
    rcases space with rfl | rfl | rfl | rfl <;> rfl
  rw [words, splitWords, skipped]
  rfl

theorem findNospace_spec {rest : List UInt8} {maxn : Nat} (enough : rest.length ≤ maxn) :
    match ubFindNospace rest maxn with
    | none => words rest = []
    | some c => ∃ gap octet tail, rest = gap ++ octet :: tail ∧ gap.length = c ∧
        octet ∉ whiteSpaces ∧ words rest = words (octet :: tail) := by
  induction rest generalizing maxn with
  | nil => rfl
  | cons octet rest ih =>
    cases maxn with
    | zero => simp at enough
    | succ maxn =>
      rw [ubFindNospace]
      split_ifs with space
      · have later := ih (Nat.le_of_succ_le_succ enough)
        rw [words_space space]
        cases found : ubFindNospace rest maxn with
        | none =>
          rw [found] at later
          exact later
        | some c =>
          rw [found] at later
          obtain ⟨gap, first, tail, rfl, rfl, visible, same⟩ := later
          exact ⟨octet :: gap, first, tail, rfl, rfl, visible, same⟩
      · exact ⟨[], octet, rest, rfl, rfl, space, rfl⟩

theorem findSpace_spec {state : Quoting} {rest : List UInt8} {maxn : Nat} (word : List UInt8)
    (enough : rest.length ≤ maxn) :
    match ubFindSpace state rest maxn with
    | none => splitWords state word rest = if word ++ rest = [] then [] else [word ++ rest]
    | some c => ∃ front space tail, rest = front ++ space :: tail ∧ front.length = c ∧
        splitWords state word rest =
          (if word ++ front = [] then [] else [word ++ front]) ++ words tail := by
  induction rest generalizing maxn state word with
  | nil => simp [ubFindSpace, splitWords]
  | cons octet rest ih =>
    cases maxn with
    | zero => simp at enough
    | succ maxn =>
      rw [ubFindSpace, splitWords]
      cases state.next octet with
      | none => exact ⟨[], octet, rest, rfl, rfl, by rw [List.append_nil]; rfl⟩
      | some next =>
        have later := @ih next maxn (word ++ [octet]) (Nat.le_of_succ_le_succ enough)
        cases found : ubFindSpace next rest maxn with
        | none =>
          simpa [found] using later
        | some c =>
          rw [found] at later
          obtain ⟨front, space, tail, rfl, rfl, split⟩ := later
          simp only [found, Option.map_some]
          exact ⟨octet :: front, space, tail, rfl, rfl, by simpa using split⟩

/-- Words that stand in a line from a place on, each with a zero behind it or at the end. -/
inductive Laid : Nat → List UInt8 → List Nat → List (List UInt8) → Prop
  | done (start : Nat) (line : List UInt8) : Laid start line [] []
  | last (start : Nat) (gap : List UInt8) (plain : 0 ∉ word) :
      Laid start (gap ++ word) [start + gap.length] [word]
  | word (gap : List UInt8) (plain : 0 ∉ word)
      (rest : Laid (start + gap.length + word.length + 1) line argv others) :
      Laid start (gap ++ (word ++ 0 :: line)) ((start + gap.length) :: argv) (word :: others)

theorem textAt_append {word : List UInt8} (front : List UInt8) (plain : 0 ∉ word)
    (line : List UInt8) : textAt (front ++ (word ++ line)) front.length =
      word ++ line.takeWhile (· ≠ 0) := by
  rw [textAt, List.drop_left, List.takeWhile_append_of_pos]
  intro octet member
  have other : octet ≠ 0 := ne_of_mem_of_not_mem member plain
  simpa using other

theorem splitLine_spec (room : Nat) (front rest : List UInt8) (plain : 0 ∉ rest) :
    ∃ line argv, splitLine (front ++ rest).length room front.length (front ++ rest) =
        (front ++ line, argv) ∧ line.length = rest.length ∧
      Laid front.length line argv ((words rest).take room) := by
  induction room generalizing front rest with
  | zero => exact ⟨rest, [], rfl, rfl, .done _ _⟩
  | succ room ih =>
    rw [splitLine]
    by_cases finished : rest = []
    · subst finished
      rw [if_pos (by simp)]
      exact ⟨[], [], rfl, rfl, .done _ _⟩
    have remaining : (front ++ rest).length - front.length = rest.length := by simp
    have here : textAt (front ++ rest) front.length = rest := by
      simpa using textAt_append front plain []
    have positive := List.length_pos_iff.mpr finished
    have more : ¬ (front ++ rest).length ≤ front.length := by
      omega
    rw [if_neg more, here, remaining]
    have found := findNospace_spec (le_refl rest.length)
    cases first : ubFindNospace rest rest.length with
    | none =>
      rw [first] at found
      refine ⟨rest.set 0 0, [], ?_, by simp, ?_⟩
      · simp
      · rw [found]
        exact .done _ _
    | some c =>
      rw [first] at found
      obtain ⟨gap, octet, tail, rfl, rfl, visible, same⟩ := found
      have after : 0 ∉ octet :: tail := fun member => plain (List.mem_append_right _ member)
      have place : front.length + gap.length = (front ++ gap).length := List.length_append.symm
      have there : textAt (front ++ (gap ++ octet :: tail)) (front.length + gap.length) =
          octet :: tail := by
        simpa using textAt_append (front ++ gap) after []
      have enough : (octet :: tail).length ≤
          (front ++ (gap ++ octet :: tail)).length - (front.length + gap.length) := by
        simp
        omega
      have split := @findSpace_spec .outside _ _ [] enough
      rw [same]
      simp only [there]
      obtain ⟨next, moved⟩ := Option.isSome_iff_exists.mp (next_outside visible)
      cases stop : ubFindSpace .outside (octet :: tail)
          ((front ++ (gap ++ octet :: tail)).length - (front.length + gap.length)) with
      | none =>
        rw [stop] at split
        refine ⟨gap ++ octet :: tail, _, rfl, rfl, ?_⟩
        rw [words, split, List.nil_append, if_neg (List.cons_ne_nil _ _), List.take_succ_cons,
          List.take_nil]
        exact .last _ gap after
      | some c =>
        rw [stop] at split
        obtain ⟨word, space, later, whole, rfl, split⟩ := split
        cases word with
        | nil =>
          -- a word does not start with whitespace
          obtain ⟨rfl, rfl⟩ := List.cons.inj whole
          obtain ⟨more, room⟩ := Nat.exists_eq_succ_of_ne_zero
            (Nat.ne_of_gt (Nat.lt_of_lt_of_le (Nat.succ_pos _) enough))
          rw [room, ubFindSpace, moved] at stop
          simp at stop
        | cons head word =>
          obtain ⟨rfl, rest⟩ := List.cons.inj whole
          have rest : tail = word ++ space :: later := rest
          subst rest
          have plainWord : 0 ∉ octet :: word := fun member =>
            after (List.mem_append_left (space :: later) member)
          have plainLater : 0 ∉ later := fun member =>
            after (List.mem_append_right (octet :: word) (List.mem_cons_of_mem _ member))
          obtain ⟨line, argv, splits, length, laid⟩ :=
            ih (front ++ gap ++ (octet :: word) ++ [0]) later plainLater
          have ends : front.length + gap.length + (word.length + 1) =
              (front ++ gap ++ octet :: word).length := by
            simp
            omega
          have shape : front ++ (gap ++ octet :: (word ++ space :: later)) =
              (front ++ gap ++ octet :: word) ++ space :: later := by simp
          have stopped : (front ++ (gap ++ octet :: (word ++ space :: later))).set
              (front.length + gap.length + (word.length + 1)) 0 =
                front ++ gap ++ (octet :: word) ++ [0] ++ later := by
            rw [shape, ends, List.set_append_right _ _ (le_refl _), Nat.sub_self]
            simp
          have size : (front ++ (gap ++ octet :: (word ++ space :: later))).length =
              (front ++ gap ++ (octet :: word) ++ [0] ++ later).length := by simp
          have beyond : front.length + gap.length + (word.length + 1) + 1 =
              (front ++ gap ++ (octet :: word) ++ [0]).length := by
            simp
            omega
          refine ⟨gap ++ ((octet :: word) ++ 0 :: line), (front.length + gap.length) :: argv,
            ?_, by simp [length], ?_⟩
          · simp only [List.length_cons, stopped, size]
            rw [beyond, splits]
            simp
          · rw [words, split, List.nil_append, if_neg (List.cons_ne_nil _ _), List.singleton_append,
              List.take_succ_cons]
            refine .word gap plainWord ?_
            rw [← beyond] at laid
            exact laid

/-- What the second loop makes of the octets of a word, and where the argument starts. -/
def stripped (word : List UInt8) : List UInt8 :=
  if Quoted word then word.dropLast ++ [0] else word

def argument (word : List UInt8) : List UInt8 := if Quoted word then word.tail.dropLast else word

theorem Quoted.ne_nil {word : List UInt8} (quoted : Quoted word) : word ≠ [] := by
  rintro rfl
  simp [Quoted] at quoted

theorem Quoted.concat {word : List UInt8} (quoted : Quoted word) :
    ∃ init last, word = init ++ [last] :=
  ⟨_, _, (List.dropLast_concat_getLast quoted.ne_nil).symm⟩

def skipped (word : List UInt8) : Nat := if Quoted word then 1 else 0

@[simp] theorem stripped_length (word : List UInt8) : (stripped word).length = word.length := by
  unfold stripped
  split_ifs with quoted
  · have filled := List.length_pos_iff.mpr quoted.ne_nil
    simp
    omega
  · rfl

section Word

variable {word : List UInt8} (front after : List UInt8) (plain : 0 ∉ word)
  (ends : after.takeWhile (· ≠ 0) = [])

include plain ends

theorem stripQuotes_word (argv : List Nat) :
    stripQuotes (front.length :: argv) (front ++ (word ++ after)) =
      ((stripQuotes argv (front ++ (stripped word ++ after))).1,
        (front.length + skipped word) :: (stripQuotes argv (front ++ (stripped word ++ after))).2) := by
  have here : textAt (front ++ (word ++ after)) front.length = word := by
    rw [textAt_append front plain, ends, List.append_nil]
  rw [stripQuotes, here]
  unfold stripped skipped
  split_ifs with quoted
  · obtain ⟨init, last, rfl⟩ := quoted.concat
    have cut : (front ++ (init ++ [last] ++ after)).set (front.length + (init ++ [last]).length - 1) 0
        = front ++ ((init ++ [last]).dropLast ++ [0] ++ after) := by
      have index : front.length + (init ++ [last]).length - 1 = (front ++ init).length := by
        simp
      have shape : front ++ (init ++ [last] ++ after) = (front ++ init) ++ last :: after := by simp
      simp
    rw [cut]
  · rfl

theorem textAt_stripped :
    textAt (front ++ (stripped word ++ after)) (front.length + skipped word) = argument word := by
  unfold stripped skipped argument
  split_ifs with quoted
  · obtain ⟨init, last, rfl⟩ := quoted.concat
    rw [List.dropLast_concat, List.append_assoc]
    cases init with
    | nil =>
      have shape : front ++ ([] ++ ([0] ++ after)) = (front ++ [0]) ++ ([] ++ after) := by simp
      have place : front.length + 1 = (front ++ [0]).length := by simp
      rw [shape, place, textAt_append _ List.not_mem_nil, ends]
      rfl
    | cons first init =>
      have inner : 0 ∉ init := fun member => plain (by simp [member])
      have shape : front ++ (first :: init ++ ([0] ++ after)) =
          (front ++ [first]) ++ (init ++ 0 :: after) := by simp
      have place : front.length + 1 = (front ++ [first]).length := by simp
      rw [shape, place, textAt_append _ inner]
      simp
  · rw [Nat.add_zero, textAt_append _ plain, ends, List.append_nil]

end Word

theorem skipped_le (word : List UInt8) : skipped word ≤ word.length := by
  unfold skipped
  split_ifs with quoted
  · exact List.length_pos_iff.mpr quoted.ne_nil
  · exact Nat.zero_le _

theorem stripQuotes_spec {start : Nat} {line : List UInt8} {argv : List Nat}
    {found : List (List UInt8)} (laid : Laid start line argv found) (front : List UInt8)
    (here : front.length = start) :
    ∃ line' argv', stripQuotes argv (front ++ line) = (front ++ line', argv') ∧
      line'.length = line.length ∧ (∀ place ∈ argv', place ≤ start + line.length) ∧
      argv'.map (textAt (front ++ line')) = found.map argument := by
  induction laid generalizing front with
  | done start line => exact ⟨line, [], rfl, rfl, by simp, rfl⟩
  | @last word start gap plain =>
    subst here
    have size : front.length + gap.length = (front ++ gap).length := by simp
    have strips := stripQuotes_word (front ++ gap) [] plain rfl []
    have text := textAt_stripped (front ++ gap) [] plain rfl
    have least := skipped_le word
    rw [List.append_nil, List.append_assoc] at strips text
    rw [List.append_nil, List.append_assoc] at strips
    refine ⟨gap ++ stripped word, _, by rw [size, strips]; rfl, by simp, ?_, ?_⟩
    · simp only [stripQuotes, List.mem_singleton, forall_eq, List.length_append]
      omega
    · simpa [stripQuotes] using text
  | @word word start line argv others gap plain rest ih =>
    subst here
    have size : front.length + gap.length = (front ++ gap).length := by simp
    have strips := stripQuotes_word (front ++ gap) (0 :: line) plain (by simp) argv
    have least := skipped_le word
    obtain ⟨line', argv', later, length, bound, texts⟩ :=
      ih (front ++ gap ++ stripped word ++ [0]) (by simp; omega)
    have text := textAt_stripped (front ++ gap) (0 :: line') plain (by simp)
    have shape (line : List UInt8) : front ++ gap ++ stripped word ++ [0] ++ line =
        front ++ gap ++ (stripped word ++ 0 :: line) := by simp
    rw [shape] at later
    rw [shape] at texts later
    rw [later] at strips
    refine ⟨gap ++ (stripped word ++ 0 :: line'), ((front ++ gap).length + skipped word) :: argv', ?_,
      by simp [length], ?_, ?_⟩
    · rw [size, ← List.append_assoc, strips, List.append_assoc]
    · intro place member
      rcases List.mem_cons.mp member with rfl | member
      · simp
        omega
      · have bound := bound place member
        simp
        omega
    · rw [List.map_cons, List.map_cons, ← List.append_assoc, text, texts]

theorem parser_spec {line : List UInt8} (plain : 0 ∉ line) (maxargc : Int) :
    ∃ result, ubCommandLineParser line maxargc = result ∧ result.1.length = line.length ∧
      (∀ start ∈ result.2, start ≤ line.length) ∧
      result.2.map (textAt result.1) = ((words line).take maxargc.toNat).map argument := by
  have whole : textAt line 0 = line := by simpa using textAt_append [] plain []
  obtain ⟨split, argv, splits, length, laid⟩ := splitLine_spec maxargc.toNat [] line plain
  obtain ⟨stripped, argv', strips, size, inside, texts⟩ := stripQuotes_spec laid [] rfl
  refine ⟨(stripped, argv'), ?_, size.trans length, ?_, texts⟩
  · simp only [List.nil_append, List.length_nil] at splits strips
    rw [ubCommandLineParser, whole, splits]
    exact strips
  · intro place member
    have bound := inside place member
    rwa [List.length_nil, Nat.zero_add, length] at bound

theorem argument_eq_iff (word : List UInt8) : argument word = unquote word ↔ ¬ LoneQuote word := by
  unfold argument unquote LoneQuote
  match word with
  | [] => simp
  | [octet] =>
    by_cases quoted : Quoted [octet]
    · have lone : octet = 34 ∨ octet = 39 := by simpa [Quoted] using quoted
      simp [quoted, lone]
    · have other : ¬ (octet = 34 ∨ octet = 39) := by simpa [Quoted] using quoted
      simp [quoted, other]
  | _ :: _ :: _ => simp

/-- A line is split into its words, without quotes, if none of those that are asked for is a lone
quote. -/
theorem line_parsed_iff {line : List UInt8} (plain : 0 ∉ line) (maxargc : Int) :
    Parsed line maxargc (ubCommandLineParser line maxargc) ↔
      ∀ word ∈ (words line).take maxargc.toNat, ¬ LoneQuote word := by
  obtain ⟨result, parsed, length, inside, texts⟩ := parser_spec plain maxargc
  rw [parsed]
  constructor
  · intro parsed word member
    have same := parsed.arguments
    rw [texts] at same
    exact (argument_eq_iff word).mp (List.map_inj_left.mp same word member)
  · intro noLone
    refine ⟨?_, length, inside, ?_⟩
    · have count := congrArg List.length texts
      rw [List.length_map, List.length_map, List.length_take] at count
      omega
    · rw [texts]
      exact List.map_congr_left fun word member => (argument_eq_iff word).mpr (noLone word member)

theorem line_parsed_pair : Parsed [97, 32, 34, 32, 34] 2 (ubCommandLineParser [97, 32, 34, 32, 34] 2) :=
  (line_parsed_iff (by decide) 2).mpr (by unfold LoneQuote; decide)

/-- The line that is one quote. -/
theorem lone_quote_lost : ¬ ∀ line maxargc, 0 ∉ line →
    Parsed line maxargc (ubCommandLineParser line maxargc) := by
  intro always
  have arguments := (always [34] 1 (by decide)).arguments
  revert arguments
  decide

end EnetTsn.Unibase
