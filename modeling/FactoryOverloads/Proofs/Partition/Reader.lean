import FactoryOverloads.Proofs.Partition.Counting

/-!
# Readers of an enumeration

An enumeration of an arity is read one partition after the other, by several
readers that may be cloned from each other at any time. A reader keeps what was
read up to its cursor, and recurs to single steps of the cursor for everything
else: passing over partitions (`Reader.nth`) and reading several of them
(`Reader.take`).

* `next?_eq`, `toList_eq`: a cursor reads the one counting sequence of its
  arity from its place on;
* `Reader.nth_upTo`, `Reader.take_upTo`: steps of a reader that has read all
  that stands before its cursor end where `Enumeration.drop` does, and with
  what `Enumeration.head?` and `Enumeration.take` give, by induction on the
  steps;
* `readAll_run`: such readers are left by every run of commands, by induction
  on the commands;
* `run_getElem?`: a reader answers the requests made to it and no others;
* `Reader.conforms_of_run`: every reader that a run leaves accounts for the
  whole sequence.
-/

namespace FactoryOverloads

namespace Enumeration

/-- The counting sequence of the arity, of which the cursor marks a place. -/
def sequence (e : Enumeration) : List Partition :=
  (List.range (2 ^ e.arity)).map e.partitionAt

@[simp] theorem length_sequence (e : Enumeration) : e.sequence.length = 2 ^ e.arity := by
  simp [sequence]

@[simp] theorem sequence_drop (e : Enumeration) (n : Nat) : (e.drop n).sequence = e.sequence := rfl

/-- Passing over partitions consumes as many of them as remain. -/
theorem consumed_drop (e : Enumeration) (n : Nat) :
    (e.drop n).consumed = e.consumed + min n e.remaining := by
  have bound := e.consumed_le
  show min (e.consumed + n) (2 ^ e.arity) = _
  rw [remaining]
  omega

theorem arity_of_mem_sequence {e : Enumeration} {p : Partition} (h : p ∈ e.sequence) :
    p.arity = e.arity := by
  obtain ⟨place, -, rfl⟩ := List.mem_map.mp h
  rfl

/-- Every partition of the sequence has its place for its bits. -/
theorem map_bits_sequence (e : Enumeration) :
    e.sequence.map Partition.bits = List.range (2 ^ e.arity) := by
  rw [sequence, List.map_map]
  refine (List.map_congr_left fun place mem => ?_).trans (List.map_id _)
  exact e.bits_partitionAt (List.mem_range.mp mem)

theorem bits_of_sequence_getElem? {e : Enumeration} {place : Nat} {p : Partition}
    (h : e.sequence[place]? = some p) : p.bits = place := by
  have own : e.sequence.map Partition.bits = List.range e.sequence.length := by
    rw [map_bits_sequence, length_sequence]
  exact ((Partition.getElem?_iff_of_map own).mp h).2

theorem drop_zero (e : Enumeration) : e.drop 0 = e := by
  simp [drop, Nat.min_eq_left e.consumed_le]

theorem drop_drop (e : Enumeration) (m n : Nat) : (e.drop m).drop n = e.drop (m + n) := by
  simp only [drop, mk.injEq, true_and]
  omega

/-- A cursor at the end of the sequence stays there. -/
theorem drop_of_remaining_eq_zero {e : Enumeration} (h : e.remaining = 0) (n : Nat) :
    e.drop n = e := by
  have done := e.consumed_le
  obtain ⟨arity, consumed, arity_le, consumed_le⟩ := e
  simp only [drop, remaining, mk.injEq, true_and] at h done ⊢
  omega

theorem take_of_remaining_eq_zero {e : Enumeration} (h : e.remaining = 0) (n : Nat) :
    e.take n = [] := by
  rw [take_eq, h, Nat.min_zero]
  rfl

/-- A step reads the sequence at the counter, and counts up. -/
theorem next?_eq (e : Enumeration) :
    e.next? = e.sequence[e.consumed]?.map fun p => (p, e.drop 1) := by
  unfold next?
  split
  case isTrue more =>
    have behind : e.drop 1 = ⟨e.arity, e.consumed + 1, e.arity_le, more⟩ := by
      simp [drop, Nat.min_eq_left more]
    simp [sequence, List.getElem?_range more, behind]
  case isFalse done =>
    rw [List.getElem?_eq_none (by rw [length_sequence]; omega)]
    rfl

theorem head?_eq (e : Enumeration) : e.head? = e.sequence[e.consumed]? := by
  rw [head?, next?_eq, Option.map_map]
  exact Option.map_id'

theorem head?_eq_none_iff {e : Enumeration} : e.head? = none ↔ e.remaining = 0 := by
  rw [head?_eq, List.getElem?_eq_none_iff, length_sequence, remaining, Nat.sub_eq_zero_iff_le]

theorem exists_head? {e : Enumeration} (h : e.remaining ≠ 0) :
    ∃ p, e.head? = some p ∧ p.arity = e.arity ∧ p.bits = e.consumed := by
  obtain ⟨p, head⟩ := Option.ne_none_iff_exists'.mp (mt head?_eq_none_iff.mp h)
  have found := head
  rw [head?_eq] at found
  exact ⟨p, head, arity_of_mem_sequence (List.mem_of_getElem? found),
    bits_of_sequence_getElem? found⟩

/-- What remains is the sequence from the counter on. -/
theorem toList_eq (e : Enumeration) : e.toList = e.sequence.drop e.consumed := by
  rw [toList, take_eq, Nat.min_self, sequence, ← List.map_drop, List.range_eq_range',
    List.drop_range', Nat.zero_add, Nat.mul_one, remaining]

theorem toList_drop (e : Enumeration) (n : Nat) : (e.drop n).toList = e.toList.drop n := by
  have bound := e.consumed_le
  rw [toList_eq, toList_eq, List.drop_drop, sequence_drop, consumed_drop, List.drop_eq_drop_iff,
    length_sequence, remaining]
  omega

theorem take_eq_take_toList (e : Enumeration) (n : Nat) : e.take n = e.toList.take n := by
  rw [toList, take_eq, take_eq, Nat.min_self, ← List.map_take, List.range'_eq_map_range,
    List.range'_eq_map_range, ← List.map_take, List.take_range]

theorem head?_eq_head?_toList (e : Enumeration) : e.head? = e.toList.head? := by
  rw [head?_eq, toList_eq, List.head?_drop]

theorem head?_drop (e : Enumeration) (n : Nat) :
    (e.drop n).head? = e.sequence[e.consumed + n]? := by
  rw [head?_eq_head?_toList, toList_drop, toList_eq, List.drop_drop, List.head?_drop]

theorem take_one (e : Enumeration) : e.take 1 = e.head?.toList := by
  rw [take_eq_take_toList, head?_eq_head?_toList, List.take_one]

theorem take_add (e : Enumeration) (m n : Nat) : e.take (m + n) = e.take m ++ (e.drop m).take n := by
  simp only [take_eq_take_toList, toList_drop, List.take_add]

/-- A reader of a sequence: what was read up to the cursor, by itself or by the
reader it was cloned from, and the cursor. -/
structure Reader where
  read : List Partition
  cursor : Enumeration

namespace Reader

/-- The number of partitions the reader has yet to read. -/
def size (r : Reader) : Nat := r.cursor.remaining

/-- Reads the next partition. -/
def next (r : Reader) : Option Partition × Reader :=
  match r.cursor.next? with
  | some (p, rest) => (some p, ⟨r.read ++ [p], rest⟩)
  | none => (none, r)

/-- Reads `n` partitions and the one behind them, which is the answer. -/
def nth : Nat → Reader → Option Partition × Reader
  | 0, r => r.next
  | n + 1, r =>
    match r.next with
    | (some _, later) => later.nth n
    | (none, later) => (none, later)

/-- Reads up to `n` partitions, which are the answer. -/
def take : Nat → Reader → List Partition × Reader
  | 0, r => ([], r)
  | n + 1, r =>
    match r.next with
    | (some p, later) => (p :: (later.take n).1, (later.take n).2)
    | (none, later) => ([], later)

/-- The reader that has read all that stands before a cursor. -/
def upTo (e : Enumeration) : Reader := ⟨e.sequence.take e.consumed, e⟩

@[simp] theorem cursor_upTo (e : Enumeration) : (upTo e).cursor = e := rfl

@[simp] theorem size_upTo (e : Enumeration) : (upTo e).size = e.remaining := rfl

@[simp] theorem length_read_upTo (e : Enumeration) : (upTo e).read.length = e.consumed := by
  rw [upTo, List.length_take, length_sequence, Nat.min_eq_left e.consumed_le]

/-- Passing over partitions reads what taking them lists. -/
theorem read_upTo_drop (e : Enumeration) (n : Nat) :
    (upTo (e.drop n)).read = (upTo e).read ++ e.take n := by
  show e.sequence.take (e.drop n).consumed = e.sequence.take e.consumed ++ e.take n
  rw [consumed_drop, List.take_add, take_eq_take_toList, toList_eq]
  congr 1
  rw [List.take_eq_take_iff, List.length_drop, length_sequence, remaining]
  omega

theorem next_upTo (e : Enumeration) : (upTo e).next = (e.head?, upTo (e.drop 1)) := by
  rw [next, cursor_upTo, next?_eq, ← head?_eq]
  cases head : e.head? with
  | some p =>
    have read : (upTo (e.drop 1)).read = (upTo e).read ++ [p] := by
      rw [read_upTo_drop, take_one, head]
      rfl
    simp only [Option.map_some, ← read]
    rfl
  | none =>
    rw [drop_of_remaining_eq_zero (head?_eq_none_iff.mp head)]
    rfl

theorem nth_upTo (n : Nat) (e : Enumeration) :
    (upTo e).nth n = ((e.drop n).head?, upTo (e.drop (n + 1))) := by
  induction n generalizing e with
  | zero => rw [nth, next_upTo, drop_zero]
  | succ n ih =>
    rw [nth, next_upTo]
    cases head : e.head? with
    | some p => simp only [ih, drop_drop, Nat.add_comm 1]
    | none => simp only [drop_of_remaining_eq_zero (head?_eq_none_iff.mp head), head]

theorem take_upTo (n : Nat) (e : Enumeration) :
    (upTo e).take n = (e.take n, upTo (e.drop n)) := by
  induction n generalizing e with
  | zero =>
    rw [take, drop_zero]
    rfl
  | succ n ih =>
    rw [take, next_upTo, Nat.add_comm n, take_add, take_one]
    cases head : e.head? with
    | some p => simp only [ih, drop_drop, Option.toList_some, List.singleton_append]
    | none =>
      have done := head?_eq_none_iff.mp head
      simp only [drop_of_remaining_eq_zero done, take_of_remaining_eq_zero done,
        Option.toList_none, List.append_nil]

/-- What a reader is asked for. -/
inductive Request where
  | next
  | nth (n : Nat)
  | take (n : Nat)
  | size
  deriving DecidableEq, Repr

/-- The reader after a request. -/
def serve (r : Reader) : Request → Reader
  | .next => r.next.2
  | .nth n => (r.nth n).2
  | .take n => (r.take n).2
  | .size => r

/-- The reader has read all that stands before its cursor, in the sequence of
an arity. -/
def ReadAll (arity : Nat) (r : Reader) : Prop := r.cursor.arity = arity ∧ r = upTo r.cursor

theorem readAll_upTo {arity : Nat} {e : Enumeration} (h : e.arity = arity) :
    (upTo e).ReadAll arity := ⟨h, rfl⟩

/-- No request leaves a gap, one case for each. -/
theorem ReadAll.serve {arity : Nat} {r : Reader} (h : r.ReadAll arity) (request : Request) :
    (r.serve request).ReadAll arity := by
  obtain ⟨same, whole⟩ := h
  rw [whole]
  cases request with
  | next =>
    rw [Reader.serve, next_upTo]
    exact readAll_upTo same
  | nth n =>
    rw [Reader.serve, nth_upTo]
    exact readAll_upTo same
  | take n =>
    rw [Reader.serve, take_upTo]
    exact readAll_upTo same
  | size => exact readAll_upTo same

end Reader

open Reader (Request)

/-- What is done with several readers, which are told apart by their places:
one of them is asked for something, or a clone of it becomes the last one. -/
inductive Command where
  | request (reader : Nat) (request : Request)
  | clone (reader : Nat)
  deriving DecidableEq, Repr

/-- The readers after a command. -/
def perform (readers : List Reader) : Command → List Reader
  | .request i request => readers.modify i (·.serve request)
  | .clone i => readers ++ readers[i]?.toList

/-- The readers after several commands. -/
def run (readers : List Reader) (commands : List Command) : List Reader :=
  commands.foldl perform readers

theorem run_cons (readers : List Reader) (command : Command) (commands : List Command) :
    run readers (command :: commands) = run (perform readers command) commands := rfl

theorem run_append (readers : List Reader) (commands later : List Command) :
    run readers (commands ++ later) = run (run readers commands) later := List.foldl_append

theorem readAll_perform {arity : Nat} {readers : List Reader}
    (h : ∀ r ∈ readers, r.ReadAll arity) (command : Command) :
    ∀ r ∈ perform readers command, r.ReadAll arity := by
  intro r mem
  cases command with
  | request i request =>
    obtain ⟨j, found⟩ := List.mem_iff_getElem?.mp mem
    rw [perform, List.getElem?_modify] at found
    obtain ⟨before, there, rfl⟩ := Option.map_eq_some_iff.mp found
    have known := h before (List.mem_of_getElem? there)
    split
    · exact known.serve request
    · exact known
  | clone i =>
    obtain old | new := List.mem_append.mp mem
    · exact h r old
    · exact h r (List.mem_of_getElem? (Option.mem_toList.mp new))

theorem readAll_run {arity : Nat} {readers : List Reader} (h : ∀ r ∈ readers, r.ReadAll arity)
    (commands : List Command) : ∀ r ∈ run readers commands, r.ReadAll arity := by
  induction commands generalizing readers with
  | nil => exact h
  | cons command commands ih => exact ih (readAll_perform h command)

/-- The requests made to the reader at a place. -/
def requestsTo (i : Nat) (commands : List Command) : List Request :=
  commands.filterMap fun
    | .request j request => if j = i then some request else none
    | .clone _ => none

/-- A reader is where the requests made to it have led, whatever is done with
the other readers. -/
theorem run_getElem? {readers : List Reader} {i : Nat} {r : Reader} (h : readers[i]? = some r)
    (commands : List Command) :
    (run readers commands)[i]? = some ((requestsTo i commands).foldl Reader.serve r) := by
  induction commands generalizing readers r with
  | nil => exact h
  | cons command commands ih =>
    cases command with
    | request j request =>
      by_cases same : j = i
      · have served : (perform readers (.request j request))[i]? = some (r.serve request) := by
          simp [perform, same, h]
        simpa [run_cons, requestsTo, same] using ih served
      · have kept : (perform readers (.request j request))[i]? = some r := by
          simp [perform, same, h]
        simpa [run_cons, requestsTo, same] using ih kept
    | clone j =>
      have kept : (perform readers (.clone j))[i]? = some r := by
        obtain ⟨bound, -⟩ := List.getElem?_eq_some_iff.mp h
        rw [perform, List.getElem?_append_left bound, h]
      exact ih kept

/-- A clone is made from the reader as it is. -/
theorem perform_clone_getElem? {readers : List Reader} {i : Nat} {r : Reader}
    (h : readers[i]? = some r) :
    (perform readers (.clone i))[i]? = some r ∧
      (perform readers (.clone i))[readers.length]? = some r := by
  obtain ⟨bound, -⟩ := List.getElem?_eq_some_iff.mp h
  rw [perform, List.getElem?_append_left bound, List.getElem?_append_right (Nat.le_refl _), h]
  simp

namespace Reader

/-- How a reader accounts for the whole sequence of an arity. -/
structure Conforms (arity : Nat) (whole : List Partition) (r : Reader) : Prop where
  /-- The counter is the number of partitions read, and does not pass the end. -/
  counted : r.cursor.consumed = r.read.length ∧ r.read.length ≤ 2 ^ arity
  /-- Nothing is cut off in the size. -/
  size : r.size + r.read.length = 2 ^ arity
  /-- What was read and what remains are the whole sequence. -/
  split : r.read ++ r.cursor.toList = whole
  /-- While there is a next partition, its bits are the number of those read. -/
  next : r.size ≠ 0 → ∃ p, r.next = (some p, ⟨r.read ++ [p], r.cursor.drop 1⟩) ∧
    p.arity = arity ∧ p.bits = r.read.length
  /-- Passing over partitions yields the one behind them, if there is one. -/
  nth (n : Nat) : r.nth n = ((r.cursor.drop n).head?,
      ⟨whole.take (r.read.length + min (n + 1) r.size), r.cursor.drop (n + 1)⟩) ∧
    (r.cursor.drop n).head? = whole[r.read.length + n]? ∧
    (r.cursor.drop (n + 1)).consumed = r.cursor.consumed + min (n + 1) r.size
  /-- What is taken follows what was read. -/
  take (n : Nat) : r.take n = (r.cursor.take n, ⟨r.read ++ r.cursor.take n, r.cursor.drop n⟩) ∧
    r.cursor.take n = (whole.drop r.read.length).take n
  /-- Once exhausted, a reader yields nothing and stays as it is. -/
  exhausted : r.size = 0 → r.next = (none, r) ∧ ∀ n, r.nth n = (none, r) ∧ r.take n = ([], r)

theorem upTo_conforms (e : Enumeration) : (upTo e).Conforms e.arity e.sequence := by
  have bound := e.consumed_le
  constructor <;> simp only [cursor_upTo, size_upTo, length_read_upTo]
  case counted => exact ⟨trivial, bound⟩
  case size =>
    rw [remaining]
    omega
  case split => rw [toList_eq, upTo, List.take_append_drop]
  case next =>
    intro more
    obtain ⟨p, head, labels⟩ := exists_head? more
    refine ⟨p, ?_, labels⟩
    have one : e.take 1 = [p] := by rw [take_one, head, Option.toList_some]
    rw [next_upTo, head, ← one, ← read_upTo_drop]
    rfl
  case nth =>
    intro n
    rw [nth_upTo, ← consumed_drop]
    exact ⟨rfl, head?_drop e n, rfl⟩
  case take =>
    intro n
    rw [take_upTo, ← read_upTo_drop]
    exact ⟨rfl, toList_eq e ▸ take_eq_take_toList e n⟩
  case exhausted =>
    intro done
    have stays : ∀ n, e.drop n = e := drop_of_remaining_eq_zero done
    have nothing : e.head? = none := head?_eq_none_iff.mpr done
    have empty : ∀ n, e.take n = [] := take_of_remaining_eq_zero done
    refine ⟨?_, fun n => ⟨?_, ?_⟩⟩
    · rw [next_upTo, stays, nothing]
    · rw [nth_upTo, stays, stays, nothing]
    · rw [take_upTo, stays, empty]

end Reader

/-- The sequence is that of the arity. -/
theorem sequence_congr {e f : Enumeration} (h : e.arity = f.arity) : e.sequence = f.sequence := by
  obtain ⟨arity, consumed, arity_le, consumed_le⟩ := e
  cases h
  rfl

/-- However partitions of an arity are read, passed over and taken, and however
often a reader is cloned on the way, every reader accounts for the whole
sequence; and a reader and its clone go on with what neither has read, each
with the requests made to it. -/
theorem Reader.conforms_of_run {arity : Nat} (h : arity ≤ 32) :
    ∃ start whole, ofArity arity = .ok start ∧ Partition.all arity = .ok whole ∧
      Partition.count arity = .ok whole.length ∧
      whole.map Partition.bits = List.range (2 ^ arity) ∧ (∀ p ∈ whole, p.arity = arity) ∧
      ∀ commands, (∀ r ∈ run [⟨[], start⟩] commands, r.Conforms arity whole) ∧
        ∀ i r, (run [⟨[], start⟩] commands)[i]? = some r → ∀ later,
          let clone := (run [⟨[], start⟩] commands).length
          let readers := run [⟨[], start⟩] (commands ++ .clone i :: later)
          readers[i]? = some ((requestsTo i later).foldl serve r) ∧
            readers[clone]? = some ((requestsTo clone later).foldl serve r) := by
  let start : Enumeration := ⟨arity, 0, h, Nat.zero_le _⟩
  have begun : ofArity arity = .ok start := dif_pos h
  have whole : Partition.all arity = .ok start.sequence := by
    rw [Partition.all, begun]
    exact congrArg Except.ok (toList_eq start)
  have count : Partition.count arity = .ok start.sequence.length := by
    rw [Partition.count, if_pos (by omega), length_sequence]
  refine ⟨start, start.sequence, begun, whole, count, map_bits_sequence start,
    fun p => arity_of_mem_sequence, fun commands => ⟨fun r mem => ?_, fun i r found later => ?_⟩⟩
  · have first : ∀ r ∈ [(⟨[], start⟩ : Reader)], r.ReadAll arity := by
      intro r mem
      rw [List.mem_singleton.mp mem]
      exact readAll_upTo rfl
    obtain ⟨same, read⟩ := readAll_run first commands r mem
    have conforms := upTo_conforms r.cursor
    rw [← read, same, sequence_congr (f := start) same] at conforms
    exact conforms
  · obtain ⟨kept, new⟩ := perform_clone_getElem? found
    rw [run_append, run_cons]
    exact ⟨run_getElem? kept later, run_getElem? new later⟩

/-- The last counter of the largest arity, which fills a machine word, keeps all
its bits. -/
theorem Reader.conforms_of_run_at_last_word :
    ∃ start p, ofArity 32 = .ok start ∧ ((⟨[], start⟩ : Reader).nth (2 ^ 32 - 1)).1 = some p ∧
      p.bits = 2 ^ 32 - 1 := by
  obtain ⟨start, whole, begun, -, -, bits, -, conforms⟩ := Reader.conforms_of_run (Nat.le_refl 32)
  have last : (whole.map Partition.bits)[2 ^ 32 - 1]? = some (2 ^ 32 - 1) := by
    rw [bits, List.getElem?_range (by decide)]
  rw [List.getElem?_map] at last
  obtain ⟨p, found, whole_word⟩ := Option.map_eq_some_iff.mp last
  obtain ⟨passed, answer, -⟩ :=
    ((conforms []).1 ⟨[], start⟩ (List.mem_singleton_self _)).nth (2 ^ 32 - 1)
  refine ⟨start, p, begun, ?_, whole_word⟩
  rw [passed, answer, List.length_nil, Nat.zero_add, found]

end Enumeration

end FactoryOverloads
