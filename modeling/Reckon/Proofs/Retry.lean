import Mathlib.Logic.Function.Iterate
import Reckon.Proofs.Answers

/-! Reads that are tried again after a failure. A failure between two characters costs nothing,
and one inside of a character costs the bytes in front of it: they are gone when the read is
tried again, and the bytes behind it are decoded by themselves. -/

namespace Reckon

namespace Utf8

/-- The bytes at the end that begin a sequence and do not make it up. -/
def unfinished : List UInt8 → List UInt8
  | [] => []
  | lead :: rest =>
    let taken := continuations lead rest
    if taken = rest ∧ taken.length < sequenceLength lead - 1 then lead :: rest
    else unfinished (rest.drop taken.length)
termination_by bytes => bytes.length

/-- The segments that need no look at what is behind the bytes: all of them, or all but the
last one where that is unfinished. -/
def finished (bytes : List UInt8) : List Segment :=
  if unfinished bytes = [] then segments bytes else (segments bytes).dropLast

/-- Nothing, or the beginning of a sequence. -/
def BrokenOff (bytes : List UInt8) : Prop :=
  bytes = [] ∨ ∃ lead taken, bytes = lead :: taken ∧ taken.length < sequenceLength lead - 1 ∧
    ∀ byte ∈ taken, isContinuation byte

private theorem isContinuation_of_mem {lead byte : UInt8} {rest : List UInt8}
    (member : byte ∈ continuations lead rest) : isContinuation byte :=
  List.mem_takeWhile_imp member

theorem unfinished_cons (lead : UInt8) (rest : List UInt8) : unfinished (lead :: rest) =
    if continuations lead rest = rest ∧ (continuations lead rest).length < sequenceLength lead - 1
      then lead :: rest
    else unfinished (rest.drop (continuations lead rest).length) := by
  rw [unfinished]

private theorem finished_cons (lead : UInt8) (rest : List UInt8) : finished (lead :: rest) =
    if continuations lead rest = rest ∧ (continuations lead rest).length < sequenceLength lead - 1
      then []
    else segment lead (continuations lead rest) ::
      finished (rest.drop (continuations lead rest).length) := by
  rw [finished, unfinished_cons, segments]
  split
  · rename_i broken
    rw [if_neg (List.cons_ne_nil _ _), broken.1, List.drop_length, segments]
    rfl
  · rw [finished]
    split
    · rfl
    · rename_i left
      refine List.dropLast_cons_of_ne_nil fun none => left ?_
      generalize rest.drop (continuations lead rest).length = others at none
      cases others with
      | nil => rw [unfinished]
      | cons => simp [segments] at none

/-- What is behind finished bytes has no part in how they are cut. -/
theorem continuations_append {lead : UInt8} {rest : List UInt8}
    (settled : ¬ (continuations lead rest = rest ∧
      (continuations lead rest).length < sequenceLength lead - 1)) (more : List UInt8) :
    continuations lead (rest ++ more) = continuations lead rest := by
  by_cases enough : sequenceLength lead - 1 ≤ rest.length
  · rw [continuations, continuations, List.take_append_of_le_length enough]
  · have whole : rest.take (sequenceLength lead - 1) = rest := List.take_of_length_le (by omega)
    have same : continuations lead rest = rest.takeWhile isContinuation := by
      rw [continuations, whole]
    rw [same] at settled ⊢
    have ended : (rest.takeWhile isContinuation).length ≠ rest.length := by
      intro full
      exact settled ⟨(List.takeWhile_prefix _).eq_of_length full, by omega⟩
    rw [continuations, List.take_append, whole, List.takeWhile_append, if_neg ended]

private theorem segments_append_of_finished {front : List UInt8} (whole : unfinished front = [])
    (back : List UInt8) : segments (front ++ back) = segments front ++ segments back := by
  fun_induction segments front with
  | case1 => rfl
  | case2 lead rest taken ih =>
    rw [unfinished_cons] at whole
    split at whole
    · cases whole
    · rename_i settled
      have within : taken.length ≤ rest.length :=
        ((List.takeWhile_prefix _).trans (List.take_prefix ..)).length_le
      rw [List.cons_append, segments, continuations_append settled,
        List.drop_append_of_le_length within, ih whole]
      rfl

end Utf8

/-- The bytes of a reader in stretches, all of which but the last are ended by a failure. -/
inductive Course where
  | last (stretch : List UInt8)
  | broken (stretch : List UInt8) (error : ReadError) (later : Course)
deriving DecidableEq, Repr

namespace Course

open Utf8

def preceded (front : List UInt8) : Course → Course
  | last stretch => last (front ++ stretch)
  | broken stretch error later => broken (front ++ stretch) error later

/-- Interruptions break nothing off. -/
def ofSupplies : List Supply → Course
  | [] => last []
  | .bytes buffer :: supplies => preceded buffer (ofSupplies supplies)
  | .endOfInput :: supplies => ofSupplies supplies
  | .failure error :: supplies =>
    if error.kind = .interrupted then ofSupplies supplies
    else broken [] error (ofSupplies supplies)

def bytes : Course → List UInt8
  | last stretch => stretch
  | broken stretch _ later => stretch ++ later.bytes

def failures : Course → List ReadError
  | last _ => []
  | broken _ error later => error :: later.failures

/-- The characters that reads hand out which are tried again after every failure. -/
def characters : Course → List Char
  | last stretch => Utf8.characters stretch
  | broken stretch _ later => (finished stretch).map Segment.character ++ later.characters

/-- No failure stands inside of a sequence. -/
def Whole : Course → Prop
  | last _ => True
  | broken stretch _ later => unfinished stretch = [] ∧ later.Whole

def size : Course → Nat
  | last stretch => stretch.length
  | broken stretch _ later => stretch.length + 1 + later.size

/-- One read: its answer, and the course of what it leaves. A failure that is met inside of a
sequence takes the bytes in front of it along. -/
def read : Course → Answer × Course
  | last [] => (.ok none, last [])
  | last (lead :: rest) =>
    let taken := continuations lead rest
    (.ok (some (segment lead taken).character), last (rest.drop taken.length))
  | broken [] error later => (.error error, later)
  | broken (lead :: rest) error later =>
    let taken := continuations lead rest
    if taken = rest ∧ taken.length < sequenceLength lead - 1 then (.error error, later)
    else (.ok (some (segment lead taken).character), broken (rest.drop taken.length) error later)

theorem preceded_nil (course : Course) : preceded [] course = course := by
  cases course <;> rfl

theorem preceded_cons (byte : UInt8) (front : List UInt8) (course : Course) :
    preceded (byte :: front) course = preceded [byte] (preceded front course) := by
  cases course <;> rfl

theorem bytes_preceded (front : List UInt8) (course : Course) :
    (preceded front course).bytes = front ++ course.bytes := by
  cases course with
  | last => rfl
  | broken => exact List.append_assoc ..

theorem eq_last_of_size {course : Course} (empty : course.size = 0) : course = last [] := by
  cases course with
  | last stretch => rw [List.length_eq_zero_iff.mp empty]
  | broken => simp [size] at empty

private theorem characters_read (course : Course) :
    Answer.returned [course.read.1] ++ course.read.2.characters = course.characters := by
  fun_cases read course with
  | case1 => rfl
  | case2 lead rest taken =>
    rw [characters, characters, Utf8.characters, Utf8.characters, segments]
    rfl
  | case3 error later =>
    rw [characters, finished, unfinished, if_pos rfl, segments]
    rfl
  | case4 lead rest error later taken broken =>
    rw [characters, finished_cons, if_pos broken]
    rfl
  | case5 lead rest error later taken settled =>
    rw [characters, characters, finished_cons, if_neg settled]
    rfl

private theorem failures_read (course : Course) :
    Answer.failures [course.read.1] ++ course.read.2.failures = course.failures := by
  fun_cases read course <;> rfl

theorem size_read (course : Course) : course.read.2.size ≤ course.size - 1 := by
  fun_cases read course with
  | case1 => exact Nat.le_refl _
  | case2 lead rest taken => simp [size]
  | case3 error later => simp [size]
  | case4 lead rest error later =>
    simp only [size]
    omega
  | case5 lead rest error later =>
    simp only [size, List.length_drop, List.length_cons]
    omega

/-- A read that fails has taken the broken sequence in front of the failure, if there is one. -/
theorem bytes_read_error {course : Course} {error : ReadError}
    (failed : course.read.1 = .error error) :
    ∃ lost, lost ++ course.read.2.bytes = course.bytes ∧ BrokenOff lost := by
  revert failed
  fun_cases read course with
  | case1 | case2 | case5 =>
    intro answered
    cases answered
  | case3 error later => exact fun _ => ⟨[], rfl, .inl rfl⟩
  | case4 lead rest error later taken broken =>
    intro _
    have continues : ∀ byte ∈ rest, isContinuation byte := by
      rw [← broken.1]
      exact fun byte => isContinuation_of_mem
    exact ⟨lead :: rest, rfl, .inr ⟨lead, rest, rfl, broken.1 ▸ broken.2, continues⟩⟩

/-- A read keeps a course whole and takes nothing of it but what it hands out. -/
theorem Whole.read {course : Course} (whole : course.Whole) : course.read.2.Whole ∧
    ∀ error, course.read.1 = .error error → course.read.2.bytes = course.bytes := by
  revert whole
  fun_cases Course.read course with
  | case1 | case2 =>
    intro _
    refine ⟨trivial, fun _ answered => ?_⟩
    cases answered
  | case3 error later => exact fun whole => ⟨whole.2, fun _ _ => rfl⟩
  | case4 lead rest error later taken broken =>
    intro whole
    have settled := whole.1
    rw [unfinished_cons, if_pos broken] at settled
    cases settled
  | case5 lead rest error later taken settled =>
    intro whole
    have others := whole.1
    rw [unfinished_cons, if_neg settled] at others
    refine ⟨⟨others, whole.2⟩, fun _ answered => ?_⟩
    cases answered

private theorem Whole.of_read {course : Course} (later : course.read.2.Whole)
    (free : ∀ error, course.read.1 = .error error → course.read.2.bytes = course.bytes) :
    course.Whole := by
  revert later free
  fun_cases Course.read course with
  | case1 | case2 => exact fun _ _ => trivial
  | case3 error later =>
    intro whole _
    exact ⟨by rw [unfinished], whole⟩
  | case4 lead rest error later taken broken =>
    intro _ free
    have longer := congrArg List.length (free error rfl)
    simp only [bytes, List.length_append, List.length_cons] at longer
    omega
  | case5 lead rest error later taken settled =>
    intro whole _
    exact ⟨by rw [unfinished_cons, if_neg settled, whole.1], whole.2⟩

theorem Whole.characters_eq {course : Course} (whole : course.Whole) :
    course.characters = Utf8.characters course.bytes := by
  induction course with
  | last => rfl
  | broken stretch error later ih =>
    obtain ⟨settled, others⟩ := whole
    rw [characters, bytes, Utf8.characters, segments_append_of_finished settled, List.map_append,
      finished, if_pos settled, ih others]
    rfl

def after (reads : Nat) (course : Course) : Course := (fun course => course.read.2)^[reads] course

theorem after_succ (reads : Nat) (course : Course) :
    after (reads + 1) course = (after reads course).read.2 :=
  Function.iterate_succ_apply' ..

private theorem after_read (reads : Nat) (course : Course) :
    after reads course.read.2 = after (reads + 1) course :=
  (Function.iterate_succ_apply ..).symm

private theorem size_after (reads : Nat) (course : Course) :
    (after reads course).size ≤ course.size - reads := by
  induction reads with
  | zero => exact Nat.le_refl _
  | succ reads ih =>
    have step := (after reads course).size_read
    rw [after_succ]
    omega

private theorem after_eq_last {reads : Nat} {course : Course} (enough : course.size ≤ reads) :
    after reads course = last [] := by
  have bound := size_after reads course
  exact eq_last_of_size (by omega)

theorem whole_iff (course : Course) : course.Whole ↔
    ∀ reads error, (after reads course).read.1 = .error error →
      (after (reads + 1) course).bytes = (after reads course).bytes := by
  constructor
  · intro whole reads error failed
    have kept : (after reads course).Whole := by
      clear failed
      induction reads with
      | zero => exact whole
      | succ reads ih =>
        rw [after_succ]
        exact ih.read.1
    rw [after_succ]
    exact kept.read.2 error failed
  · intro free
    -- By induction on the reads that come to the end, where the course is whole.
    generalize enough : course.size = reads
    replace enough := Nat.le_of_eq enough
    induction reads generalizing course with
    | zero =>
      rw [eq_last_of_size (Nat.le_zero.mp enough)]
      trivial
    | succ reads ih =>
      have smaller := course.size_read
      refine .of_read (ih _ ?_ (by omega)) (free 0)
      intro reads error
      rw [after_read, after_read]
      exact free (reads + 1) error

/-- Takes up to `missing` continuation bytes, and meets a failure where the stretch that it
ends does not hold as many and nothing else. -/
def take (missing : Nat) : Course → Except ReadError (List UInt8) × Course
  | last stretch =>
    let taken := (stretch.take missing).takeWhile isContinuation
    (.ok taken, last (stretch.drop taken.length))
  | broken stretch error later =>
    let taken := (stretch.take missing).takeWhile isContinuation
    if taken = stretch ∧ taken.length < missing then (.error error, later)
    else (.ok taken, broken (stretch.drop taken.length) error later)

private theorem take_zero (course : Course) : course.take 0 = (.ok [], course) := by
  cases course <;> simp [take]

private theorem take_continuation {byte : UInt8} (continues : isContinuation byte) (missing : Nat)
    (course : Course) : (preceded [byte] course).take (missing + 1) =
      ((course.take missing).1.map (byte :: ·), (course.take missing).2) := by
  cases course with
  | last stretch => simp [take, preceded, continues, Except.map]
  | broken stretch error later =>
    simp only [take, preceded, List.singleton_append, List.take_succ_cons, List.takeWhile_cons,
      continues, if_true, List.cons.injEq, true_and, List.length_cons, Nat.add_lt_add_iff_right,
      List.drop_succ_cons]
    split <;> rfl

private theorem take_other {byte : UInt8} (other : isContinuation byte = false) (missing : Nat)
    (course : Course) :
    (preceded [byte] course).take missing = (.ok [], preceded [byte] course) := by
  have none (stretch : List UInt8) :
      ((byte :: stretch).take missing).takeWhile isContinuation = [] := by
    cases missing with
    | zero => rfl
    | succ missing => simp [other]
  cases course <;> simp [take, preceded, none]

private theorem read_preceded (lead : UInt8) (course : Course) : (preceded [lead] course).read =
    ((course.take (sequenceLength lead - 1)).1.map fun taken =>
        some (segment lead taken).character,
      (course.take (sequenceLength lead - 1)).2) := by
  cases course with
  | last stretch => rfl
  | broken stretch error later =>
    change (broken (lead :: stretch) error later).read = _
    by_cases broken : continuations lead stretch = stretch ∧
      (continuations lead stretch).length < sequenceLength lead - 1
    · have failed : take (sequenceLength lead - 1) (.broken stretch error later) =
          (.error error, later) := if_pos broken
      rw [failed]
      exact if_pos broken
    · have taken : take (sequenceLength lead - 1) (.broken stretch error later) =
          (.ok (continuations lead stretch),
            .broken (stretch.drop (continuations lead stretch).length) error later) :=
        if_neg broken
      rw [taken]
      exact if_neg broken

end Course

namespace ByteReader

def course (reader : ByteReader) : Course :=
  (Course.ofSupplies reader.supplies).preceded reader.buffer

private theorem bytes_ofSupplies (supplies : List Supply) :
    (Course.ofSupplies supplies).bytes = (ofSupplies supplies).unread := by
  induction supplies with
  | nil => rfl
  | cons supply supplies ih =>
    simp only [unread, ofSupplies, List.nil_append] at ih ⊢
    cases supply with
    | bytes buffer => simp [Course.ofSupplies, Course.bytes_preceded, ih]
    | endOfInput => simpa [Course.ofSupplies] using ih
    | failure error =>
      simp only [Course.ofSupplies]
      split <;> simpa [Course.bytes] using ih

theorem bytes_course (reader : ByteReader) : reader.course.bytes = reader.unread := by
  rw [course, Course.bytes_preceded, bytes_ofSupplies]
  rfl

/-- The reader has the course in front of it, and never reports an end before its last byte. -/
structure Follows (reader : ByteReader) (course : Course) : Prop where
  unending : .endOfInput ∉ reader.supplies
  course : reader.course = course

theorem Follows.unread {reader : ByteReader} {course : Course} (follows : reader.Follows course) :
    reader.unread = course.bytes := by
  rw [← follows.course, bytes_course]

/-- What is met at the front of a course: nothing any more, a failure, or a byte. -/
inductive Front (reader : ByteReader) : Course → Prop where
  | ended (peeked : reader.peek = .ok none rest) (left : rest.Follows (.last [])) :
      Front reader (.last [])
  | failed (peeked : reader.peek = .error error rest) (left : rest.Follows later) :
      Front reader (.broken [] error later)
  | shown (peeked : reader.peek = .ok (some byte) held)
      (kept : held.Follows (.preceded [byte] later))
      (skipped : held.skip = .ok () rest) (left : rest.Follows later) :
      Front reader (.preceded [byte] later)

private theorem Front.congr {reader other : ByteReader} {course : Course}
    (same : other.peek = reader.peek) (front : reader.Front course) : other.Front course := by
  cases front with
  | ended peeked left => exact .ended (same.trans peeked) left
  | failed peeked left => exact .failed (same.trans peeked) left
  | shown peeked kept skipped left => exact .shown (same.trans peeked) kept skipped left

theorem front_buffer (byte : UInt8) (buffer : List UInt8) {supplies : List Supply}
    (unending : .endOfInput ∉ supplies) : Front ⟨byte :: buffer, supplies⟩
      (.preceded [byte] (.preceded buffer (Course.ofSupplies supplies))) :=
  .shown rfl ⟨unending, Course.preceded_cons ..⟩ rfl ⟨unending, rfl⟩

private theorem front_ofSupplies (supplies : List Supply) (unending : .endOfInput ∉ supplies) :
    (ofSupplies supplies).Front (Course.ofSupplies supplies) := by
  fun_induction request supplies with
  | case1 => exact .ended rfl ⟨unending, rfl⟩
  | case2 supplies ih =>
    have again : (ofSupplies (.bytes [] :: supplies)).peek = (ofSupplies supplies).peek := by
      change request _ = request _
      rw [request]
    rw [Course.ofSupplies, Course.preceded_nil]
    exact (ih (List.not_mem_of_not_mem_cons unending)).congr again
  | case3 byte buffer supplies =>
    have fetched : (ofSupplies (.bytes (byte :: buffer) :: supplies)).peek =
        peek ⟨byte :: buffer, supplies⟩ := by
      change request _ = _
      rw [request]
      rfl
    rw [Course.ofSupplies, Course.preceded_cons]
    exact (front_buffer byte buffer (List.not_mem_of_not_mem_cons unending)).congr fetched
  | case4 supplies => exact absurd List.mem_cons_self unending
  | case5 error supplies interrupted ih =>
    have again : (ofSupplies (.failure error :: supplies)).peek = (ofSupplies supplies).peek := by
      change request _ = request _
      rw [request, if_pos interrupted]
    rw [Course.ofSupplies, if_pos interrupted]
    exact (ih (List.not_mem_of_not_mem_cons unending)).congr again
  | case6 error supplies hard =>
    have failed : (ofSupplies (.failure error :: supplies)).peek =
        .error error (ofSupplies supplies) := by
      change request _ = _
      rw [request, if_neg hard]
      rfl
    rw [Course.ofSupplies, if_neg hard]
    exact .failed failed ⟨List.not_mem_of_not_mem_cons unending, Course.preceded_nil _⟩

theorem Follows.front {reader : ByteReader} {course : Course} (follows : reader.Follows course) :
    reader.Front course := by
  obtain ⟨unending, rfl⟩ := follows
  rcases reader with ⟨_ | ⟨byte, buffer⟩, supplies⟩
  · rw [ByteReader.course, Course.preceded_nil]
    exact front_ofSupplies supplies unending
  · rw [ByteReader.course, Course.preceded_cons]
    exact front_buffer byte buffer unending

/-- A step of a reader comes out as a step of its course does. -/
inductive Comes {α : Type} : EStateM.Result ReadError ByteReader α →
    Except ReadError α × Course → Prop where
  | ok (left : rest.Follows later) : Comes (.ok value rest) (.ok value, later)
  | error (left : rest.Follows later) : Comes (.error error rest) (.error error, later)

end ByteReader

namespace Utf8

private theorem takeContinuations_comes (missing : Nat) {reader : ByteReader} {course : Course}
    (follows : reader.Follows course) :
    ByteReader.Comes (takeContinuations missing reader) (course.take missing) := by
  induction missing generalizing reader course with
  | zero =>
    rw [Course.take_zero]
    exact .ok follows
  | succ missing ih =>
    simp only [takeContinuations, bind, EStateM.bind]
    cases follows.front with
    | ended peeked left =>
      rw [peeked]
      exact .ok left
    | failed peeked left =>
      rw [peeked]
      exact .error left
    | @shown byte held later rest peeked kept skipped left =>
      simp only [peeked]
      by_cases continues : isContinuation byte
      · have others := ih left
        rw [Course.take_continuation continues]
        simp only [continues, if_true, EStateM.bind, skipped]
        generalize takeContinuations missing rest = result, later.take missing = step at others ⊢
        cases others with
        | ok left => exact .ok left
        | error left => exact .error left
      · rw [Course.take_other (by simpa using continues), if_neg continues]
        exact .ok kept

/-- To read from a reader is to read from its course. -/
theorem next_comes {reader : ByteReader} {course : Course} (follows : reader.Follows course) :
    ByteReader.Comes (next reader) course.read := by
  simp only [next, bind, EStateM.bind]
  cases follows.front with
  | ended peeked left =>
    rw [peeked]
    exact .ok left
  | failed peeked left =>
    rw [peeked]
    exact .error left
  | @shown lead held later rest peeked kept skipped left =>
    have others := takeContinuations_comes (sequenceLength lead - 1) left
    rw [Course.read_preceded]
    simp only [peeked, EStateM.bind, skipped]
    generalize takeContinuations (sequenceLength lead - 1) rest = result,
      later.take (sequenceLength lead - 1) = step at others ⊢
    cases others with
    | ok left => exact .ok left
    | error left => exact .error left

end Utf8

namespace Utf8Stream

variable {stream : Utf8Stream} {course : Course}

/-- A read of the stream comes out as a read of its course, and one that fails adds nothing to
what was delivered. -/
inductive Comes (stream : Utf8Stream) :
    EStateM.Result ReadError Utf8Stream (Option Char) → Answer × Course → Prop where
  | ok (left : rest.bytes.Follows later) : Comes stream (.ok answer rest) (.ok answer, later)
  | error (left : rest.bytes.Follows later) (kept : rest.delivered = stream.delivered) :
      Comes stream (.error error rest) (.error error, later)

theorem next_comes (follows : stream.bytes.Follows course) :
    stream.Comes (CharStream.next stream) course.read := by
  have step := Utf8.next_comes follows
  simp only [CharStream.next, next]
  generalize Utf8.next stream.bytes = result, course.read = read at step ⊢
  cases step with
  | @ok answer rest later left => cases answer <;> exact .ok left
  | error left => exact .error left rfl

/-- After any number of reads the stream follows what they leave of its course, and what they
were answered with makes up the rest. -/
theorem ask_follows (follows : stream.bytes.Follows course) (reads : Nat) :
    (CharStream.ask stream reads).2.bytes.Follows (course.after reads) ∧
      Answer.returned (CharStream.ask stream reads).1 ++ (course.after reads).characters =
        course.characters ∧
      Answer.failures (CharStream.ask stream reads).1 ++ (course.after reads).failures =
        course.failures := by
  induction reads with
  | zero => exact ⟨follows, rfl, rfl⟩
  | succ reads ih =>
    obtain ⟨before, characters, failures⟩ := ih
    rw [← Course.characters_read] at characters
    rw [← Course.failures_read] at failures
    have step := next_comes before
    rw [Course.after_succ]
    simp only [CharStream.ask]
    generalize CharStream.next (CharStream.ask stream reads).2 = result,
      (course.after reads).read = read at step characters failures ⊢
    cases step with
    | ok left =>
      refine ⟨left, ?_, ?_⟩
      · rw [Answer.returned_append, List.append_assoc, characters]
      · rw [Answer.failures_append, List.append_assoc, failures]
    | error left =>
      refine ⟨left, ?_, ?_⟩
      · rw [Answer.returned_append, List.append_assoc, characters]
      · rw [Answer.failures_append, List.append_assoc, failures]

/-- What a failed read leaves: the text, and all bytes but for a sequence that is broken off. -/
structure Fails (stream rest : Utf8Stream) : Prop where
  text : rest.text = stream.text
  lost : ∃ lost, lost ++ rest.bytes.unread = stream.bytes.unread ∧ Utf8.BrokenOff lost

theorem fails_of_next {rest : Utf8Stream} {error : ReadError}
    (follows : stream.bytes.Follows course)
    (failed : CharStream.next stream = .error error rest) :
    course.read.1 = .error error ∧ rest.bytes.Follows course.read.2 ∧ stream.Fails rest := by
  have step := next_comes follows
  rw [failed] at step
  have cost (met : course.read.1 = .error error) := Course.bytes_read_error met
  generalize course.read = read at step cost ⊢
  cases step with
  | error left kept =>
    obtain ⟨lost, split, brokenOff⟩ := cost rfl
    refine ⟨rfl, left, by rw [text, kept, text], lost, ?_, brokenOff⟩
    rw [left.unread, follows.unread, split]

private theorem next_of_fails {error : ReadError} (follows : stream.bytes.Follows course)
    (met : course.read.1 = .error error) :
    ∃ rest, CharStream.next stream = .error error rest ∧ rest.bytes.Follows course.read.2 := by
  have step := next_comes follows
  generalize CharStream.next stream = result, course.read = read at step met ⊢
  cases step with
  | ok => cases met
  | error left =>
    cases met
    exact ⟨_, rfl, left⟩

/-- The reads of a whole course, and of no other, fail at no cost. -/
theorem whole_iff (follows : stream.bytes.Follows course) : course.Whole ↔
    ∀ reads error rest, CharStream.next (CharStream.ask stream reads).2 = .error error rest →
      rest.bytes.unread = (CharStream.ask stream reads).2.bytes.unread := by
  rw [Course.whole_iff]
  constructor
  · intro free reads error rest failed
    have before := (ask_follows follows reads).1
    obtain ⟨met, left, _⟩ := fails_of_next before failed
    rw [left.unread, before.unread, ← free reads error met, Course.after_succ]
  · intro free reads error met
    have before := (ask_follows follows reads).1
    obtain ⟨rest, failed, left⟩ := next_of_fails before met
    rw [Course.after_succ, ← left.unread, free reads error rest failed, before.unread]

end Utf8Stream

/-- Reads are tried again after every failure. A failed one leaves the text, and takes what is
left unfinished in front of the failure; at the end all else was handed out, and every failure
was met once. So no read that fails takes a byte exactly if no failure stands inside of a
sequence, and then the characters are those of a reader without failures. -/
theorem reads_retried (reader plain : ByteReader) (unending : .endOfInput ∉ reader.supplies)
    (delivers : plain.Delivers reader.unread) :
    let stream : Utf8Stream := { bytes := reader }
    (∀ reads error rest, CharStream.next (CharStream.ask stream reads).2 = .error error rest →
      (CharStream.ask stream reads).2.Fails rest) ∧
    (∃ enough, ∀ reads ≥ enough,
      Answer.returned (CharStream.ask stream reads).1 = reader.course.characters ∧
      Answer.failures (CharStream.ask stream reads).1 = reader.course.failures ∧
      (CharStream.ask stream reads).2.bytes.unread = []) ∧
    (reader.course.Whole ↔ ∀ reads error rest,
      CharStream.next (CharStream.ask stream reads).2 = .error error rest →
        rest.bytes.unread = (CharStream.ask stream reads).2.bytes.unread) ∧
    (reader.course.Whole → ∃ last, CharStream.drain ({ bytes := plain } : Utf8Stream) =
      .ok reader.course.characters last) := by
  intro stream
  have follows : stream.bytes.Follows reader.course := ⟨unending, rfl⟩
  have run := Utf8Stream.ask_follows follows
  refine ⟨?_, ⟨reader.course.size, ?_⟩, Utf8Stream.whole_iff follows, ?_⟩
  · intro reads error rest failed
    exact (Utf8Stream.fails_of_next (run reads).1 failed).2.2
  · intro reads enough
    obtain ⟨left, characters, failures⟩ := run reads
    rw [Course.after_eq_last enough] at left characters failures
    refine ⟨?_, ?_, left.unread⟩
    · rw [← characters, Course.characters, Utf8.characters_nil, List.append_nil]
    · rw [← failures, Course.failures, List.append_nil]
  · intro whole
    have held : ({ bytes := plain } : Utf8Stream).bytes.Delivers reader.unread := delivers
    obtain ⟨last, drained, _⟩ := Utf8Stream.drain_delivers held
    refine ⟨last, ?_⟩
    rw [drained, whole.characters_eq, reader.bytes_course]

/-- Failures stand in front of a character, behind one and between two; an interruption inside
of one is no failure. -/
theorem reads_retried_betweenCharacters :
    let error := ReadError.mk .other "boom"
    let reader := ByteReader.ofSupplies [.failure error, .bytes [0xC3, 0xA9], .failure error,
      .bytes [0xE2, 0x82], .failure ⟨.interrupted, "try again"⟩, .bytes [0xAC], .failure error]
    let plain := ByteReader.ofSupplies [.bytes [0xC3, 0xA9, 0xE2, 0x82, 0xAC]]
    let stream : Utf8Stream := { bytes := reader }
    .endOfInput ∉ reader.supplies ∧ plain.Delivers reader.unread ∧ reader.course.Whole ∧
      (∃ last, CharStream.drain ({ bytes := plain } : Utf8Stream) = .ok ['é', '€'] last) ∧
      ∃ enough, ∀ reads ≥ enough,
        Answer.returned (CharStream.ask stream reads).1 = ['é', '€'] ∧
        Answer.failures (CharStream.ask stream reads).1 = [error, error, error] ∧
        (CharStream.ask stream reads).2.bytes.unread = [] := by
  intro error reader plain stream
  have unending : .endOfInput ∉ reader.supplies := by decide
  have delivers : plain.Delivers reader.unread := ⟨by decide, rfl⟩
  have course : reader.course = .broken [] error (.broken [0xC3, 0xA9] error
      (.broken [0xE2, 0x82, 0xAC] error (.last []))) := rfl
  have whole : reader.course.Whole := by
    rw [course]
    refine ⟨?_, ?_, ?_, trivial⟩ <;> cbv
  have characters : reader.course.characters = ['é', '€'] := by
    rw [course]
    cbv
  have failures : reader.course.failures = [error, error, error] := rfl
  obtain ⟨_, ended, _, drained⟩ := reads_retried reader plain unending delivers
  rw [characters, failures] at ended
  rw [characters] at drained
  exact ⟨unending, delivers, whole, drained whole, ended⟩

/-- A failure inside of an `é` takes its first byte: the read that is tried again finds the
second alone. -/
theorem read_brokenOff :
    let error := ReadError.mk .other "boom"
    let stream : Utf8Stream :=
      { bytes := .ofSupplies [.bytes [0xC3], .failure error, .bytes [0xA9]] }
    let plain : Utf8Stream := { bytes := .ofSupplies [.bytes [0xC3, 0xA9]] }
    stream.bytes.unread = [0xC3, 0xA9] ∧
      (∃ rest, CharStream.next stream = .error error rest ∧ rest.bytes.unread = [0xA9]) ∧
      (CharStream.ask stream 3).1 = [.error error, .ok (some '\ufffd'), .ok none] ∧
      (CharStream.ask plain 2).1 = [.ok (some 'é'), .ok none] := by
  intro error stream plain
  refine ⟨rfl, ⟨⟨⟨[], [.bytes [0xA9]]⟩, []⟩, ?_, rfl⟩, ?_, ?_⟩
  all_goals
    dsimp only [stream, plain, error]
    cbv

end Reckon
