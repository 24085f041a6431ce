import Mathlib.Data.List.TakeWhile
import Reckon.Proofs.Places
import Reckon.Text.Document

namespace Reckon

/-- A line of a text, between what stands in front of it and what stands behind it. -/
structure LineOf (text before line after : List Char) : Prop where
  spelled : text = before ++ (line ++ after)
  oneLine : '\n' ∉ line
  starts : before = [] ∨ ∃ front, before = front ++ ['\n']
  ends : after = [] ∨ ∃ others, after = '\n' :: others

theorem lineAfter_feed (skipped : Nat) (text : List Char) :
    lineAfter (skipped + 1) ('\n' :: text) = lineAfter skipped text := by
  simp [lineAfter]

theorem lineAfter_inLine (skipped : Nat) {character : Char} (inLine : character ≠ '\n')
    (text : List Char) :
    lineAfter (skipped + 1) (character :: text) = lineAfter (skipped + 1) text := by
  simp [lineAfter, inLine]

theorem lineAfter_lineFeed (skipped : Nat) (front text : List Char) :
    lineAfter (skipped + (front ++ ['\n']).count '\n') (front ++ '\n' :: text) =
      lineAfter skipped text := by
  induction front with
  | nil => exact lineAfter_feed skipped text
  | cons character front ih =>
    rw [List.cons_append, List.cons_append]
    by_cases feed : character = '\n'
    · subst feed
      rw [List.count_cons_self, ← Nat.add_assoc, lineAfter_feed, ih]
    · rw [List.count_cons_of_ne feed]
      rw [List.count_append] at ih ⊢
      exact (lineAfter_inLine _ feed _).trans ih

/-- The offsets right behind the line feeds of a text that starts at this offset. -/
def offsetsBehindFeeds (offset : Nat) : (text : List Char) → List Nat
  | [] => []
  | character :: text =>
    let behind := offset + character.utf8Size
    if character = '\n' then behind :: offsetsBehindFeeds behind text
    else offsetsBehindFeeds behind text

/-- The table of the offsets at which the lines of a text start. -/
def lineStarts (text : List Char) : List Nat := 0 :: offsetsBehindFeeds 0 text

private theorem utf8ByteSize_cons (character : Char) (text : List Char) :
    (String.ofList (character :: text)).utf8ByteSize =
      character.utf8Size + (String.ofList text).utf8ByteSize := by
  rw [String.ofList_cons, String.utf8ByteSize_append, String.utf8ByteSize_singleton]

private theorem offsetsBehindFeeds_append (offset : Nat) (text more : List Char) :
    offsetsBehindFeeds offset (text ++ more) = offsetsBehindFeeds offset text ++
      offsetsBehindFeeds (offset + (String.ofList text).utf8ByteSize) more := by
  induction text generalizing offset with
  | nil => rfl
  | cons character text ih =>
    rw [utf8ByteSize_cons, ← Nat.add_assoc]
    by_cases feed : character = '\n'
    · simp [offsetsBehindFeeds, feed, ih]
    · simp [offsetsBehindFeeds, feed, ih]

theorem length_offsetsBehindFeeds (offset : Nat) (text : List Char) :
    (offsetsBehindFeeds offset text).length = text.count '\n' := by
  induction text generalizing offset with
  | nil => rfl
  | cons character text ih =>
    by_cases feed : character = '\n'
    · simp [offsetsBehindFeeds, feed, ih]
    · simp [offsetsBehindFeeds, feed, ih]

private theorem offsetsBehindFeeds_oneLine (offset : Nat) {line : List Char}
    (oneLine : '\n' ∉ line) : offsetsBehindFeeds offset line = [] := by
  rw [← List.length_eq_zero_iff, length_offsetsBehindFeeds]
  exact List.count_eq_zero.mpr oneLine

namespace LineOf

variable {text before line after : List Char}

theorem inLine (isLine : LineOf text before line after) :
    ∀ character ∈ line, decide (character ≠ '\n') = true := by
  intro character member
  refine decide_eq_true ?_
  rintro rfl
  exact isLine.oneLine member

private theorem takeWhile (isLine : LineOf text before line after) :
    (line ++ after).takeWhile (· ≠ '\n') = line := by
  rw [List.takeWhile_append_of_pos isLine.inLine]
  rcases isLine.ends with rfl | ⟨others, rfl⟩ <;> simp

private theorem lineAfter (isLine : LineOf text before line after) :
    Reckon.lineAfter (before.count '\n') text = some line := by
  rw [isLine.spelled]
  have first : Reckon.lineAfter 0 (line ++ after) = some line :=
    congrArg some isLine.takeWhile
  rcases isLine.starts with rfl | ⟨front, rfl⟩
  · exact first
  · have skipped := lineAfter_lineFeed 0 front (line ++ after)
    rw [Nat.zero_add] at skipped
    rw [List.append_assoc]
    exact skipped.trans first

theorem lineStarts (isLine : LineOf text before line after) :
    ∃ earlier, earlier.length = before.count '\n' ∧
      Reckon.lineStarts text = earlier ++ (String.ofList before).utf8ByteSize ::
        offsetsBehindFeeds (String.ofList (before ++ line)).utf8ByteSize after := by
  have behind : offsetsBehindFeeds (String.ofList before).utf8ByteSize (line ++ after) =
      offsetsBehindFeeds (String.ofList (before ++ line)).utf8ByteSize after := by
    rw [offsetsBehindFeeds_append, offsetsBehindFeeds_oneLine _ isLine.oneLine, List.nil_append,
      String.ofList_append, String.utf8ByteSize_append]
  rw [isLine.spelled, ← behind]
  rcases isLine.starts with rfl | ⟨front, rfl⟩
  · exact ⟨[], rfl, rfl⟩
  · refine ⟨Reckon.lineStarts front, ?_, ?_⟩
    · rw [Reckon.lineStarts, List.length_cons, length_offsetsBehindFeeds, List.count_append]
      rfl
    · have feed : offsetsBehindFeeds (0 + (String.ofList front).utf8ByteSize) ['\n'] =
          [(String.ofList (front ++ ['\n'])).utf8ByteSize] := by
        rw [Nat.zero_add, String.ofList_append, String.utf8ByteSize_append]
        rfl
      rw [Reckon.lineStarts, offsetsBehindFeeds_append, offsetsBehindFeeds_append, feed,
        Nat.zero_add, List.append_assoc]
      rfl

theorem lineStart (isLine : LineOf text before line after) :
    (Reckon.lineStarts text)[before.count '\n']? = some (String.ofList before).utf8ByteSize := by
  obtain ⟨earlier, length, table⟩ := isLine.lineStarts
  rw [table, ← length, List.getElem?_append_right (Nat.le_refl _), Nat.sub_self]
  rfl

/-- The line stops in front of the line feed that the next line starts behind, and the last one
at the end of the text. -/
theorem lineStop (isLine : LineOf text before line after) :
    ((Reckon.lineStarts text)[before.count '\n' + 1]?.map (· - 1)).getD
      (String.ofList text).utf8ByteSize = (String.ofList (before ++ line)).utf8ByteSize := by
  obtain ⟨earlier, length, table⟩ := isLine.lineStarts
  rw [table, ← length, List.getElem?_append_right (Nat.le_add_right _ 1),
    Nat.add_sub_cancel_left, List.getElem?_cons_succ]
  rcases isLine.ends with rfl | ⟨others, rfl⟩
  · rw [isLine.spelled, List.append_nil]
    rfl
  · have size : Char.utf8Size '\n' = 1 := rfl
    simp [offsetsBehindFeeds, size]

private theorem lastLine (isLine : LineOf text before line after) (place : Nat) :
    Reckon.lastLine (before ++ line.take place) = line.take place := by
  have read : ∀ character ∈ (line.take place).reverse, decide (character ≠ '\n') = true := by
    intro character member
    exact isLine.inLine character (List.mem_of_mem_take (List.mem_reverse.mp member))
  rw [Reckon.lastLine, List.reverse_append, List.takeWhile_append_of_pos read]
  rcases isLine.starts with rfl | ⟨front, rfl⟩ <;> simp

private theorem position (isLine : LineOf text before line after) {place : Nat}
    (within : place ≤ line.length) :
    Position.start.afterAll (before ++ line.take place) = ⟨1 + before.count '\n', 1 + place,
      (String.ofList (before ++ line.take place)).utf8ByteSize⟩ := by
  have oneLine : (line.take place).count '\n' = 0 :=
    List.count_eq_zero.mpr fun member => isLine.oneLine (List.mem_of_mem_take member)
  rw [Position.afterAll_start, isLine.lastLine, List.count_append, oneLine, Nat.add_zero,
    List.length_take_of_le within]

end LineOf

theorem dropWhile_feed (text : List Char) :
    text.dropWhile (· ≠ '\n') = [] ∨ ∃ others, text.dropWhile (· ≠ '\n') = '\n' :: others := by
  induction text with
  | nil => exact .inl rfl
  | cons character text ih =>
    by_cases feed : character = '\n'
    · exact .inr ⟨text, by simp [feed]⟩
    · simpa [feed] using ih

/-- Every place in a text is in one of its lines, or right behind it. -/
theorem LineOf.around (front back : List Char) :
    ∃ before, LineOf (front ++ back) before (Reckon.lastLine front ++ back.takeWhile (· ≠ '\n'))
      (back.dropWhile (· ≠ '\n')) ∧ front = before ++ Reckon.lastLine front := by
  -- Read from its end, the front begins with what it holds of the line.
  have split : front =
      (front.reverse.dropWhile (· ≠ '\n')).reverse ++ Reckon.lastLine front := by
    rw [Reckon.lastLine, ← List.reverse_append, List.takeWhile_append_dropWhile,
      List.reverse_reverse]
  refine ⟨_, ⟨?_, ?_, ?_, dropWhile_feed back⟩, split⟩
  · rw [List.append_assoc, List.takeWhile_append_dropWhile, ← List.append_assoc, ← split]
  · intro member
    rcases List.mem_append.mp member with inFront | inBack
    · simpa using List.mem_takeWhile_imp (List.mem_reverse.mp inFront)
    · simpa using List.mem_takeWhile_imp inBack
  · rcases dropWhile_feed front.reverse with none | ⟨others, feed⟩
    · exact .inl (by rw [none, List.reverse_nil])
    · exact .inr ⟨others.reverse, by rw [feed, List.reverse_cons]⟩

def Position.ofIndex (text : String) (index : Nat) : Position :=
  start.afterAll (text.toList.take index)

/-- The position in front of the character with this index tells where it stands. Its number finds
the line, in the document and in the table of the lines' starts, and its column counts the
characters of the line in front of it. -/
structure Locates (text : String) (index : Nat) (position : Position)
    (before line after : List Char) : Prop where
  isLine : LineOf text.toList before line after
  behind : before.length ≤ index
  within : index ≤ before.length + line.length
  number : position.line = 1 + before.count '\n'
  column : position.column = 1 + (index - before.length)
  offset : position.offset = (String.ofList (text.toList.take index)).utf8ByteSize
  front : text.toList.take index = before ++ line.take (position.column - 1)
  found : ∀ name, Document.line? ⟨name, text⟩ position.line = some (String.ofList line)
  lineStart : (lineStarts text.toList)[position.line - 1]? =
    some (String.ofList before).utf8ByteSize
  lineStop : ((lineStarts text.toList)[position.line]?.map (· - 1)).getD text.utf8ByteSize =
    (String.ofList (before ++ line)).utf8ByteSize

theorem LineOf.locates {text : String} {before line after : List Char} {index : Nat}
    (isLine : LineOf text.toList before line after) (behind : before.length ≤ index)
    (within : index ≤ before.length + line.length) :
    Locates text index (.ofIndex text index) before line after := by
  obtain ⟨place, rfl⟩ := Nat.exists_eq_add_of_le behind
  have inLine : place ≤ line.length := Nat.le_of_add_le_add_left within
  have front : text.toList.take (before.length + place) = before ++ line.take place := by
    rw [isLine.spelled, List.take_length_add_append, List.take_append_of_le_length inLine]
  rw [Position.ofIndex, front, isLine.position inLine, ← front]
  refine ⟨isLine, behind, within, rfl, ?_, rfl, ?_, ?_, ?_, ?_⟩ <;> dsimp only
  · rw [Nat.add_sub_cancel_left]
  · rw [Nat.add_sub_cancel_left, front]
  · intro name
    rw [Nat.add_comm 1, Document.line?, isLine.lineAfter]
    rfl
  · rw [Nat.add_sub_cancel_left, isLine.lineStart]
  · rw [Nat.add_comm 1, ← isLine.lineStop, String.ofList_toList]

/-- Every character of a text stands in a line, and so does its end. -/
theorem locates_ofIndex (text : String) {index : Nat} (inside : index ≤ text.toList.length) :
    ∃ before line after, Locates text index (.ofIndex text index) before line after := by
  obtain ⟨before, isLine, front⟩ :=
    LineOf.around (text.toList.take index) (text.toList.drop index)
  rw [List.take_append_drop] at isLine
  have length : before.length + (lastLine (text.toList.take index)).length = index := by
    rw [← List.length_append, ← front, List.length_take_of_le inside]
  refine ⟨_, _, _, isLine.locates (Nat.le.intro length) ?_⟩
  rw [List.length_append, ← Nat.add_assoc, length]
  exact Nat.le_add_right _ _

namespace Locates

variable {text : String} {index : Nat} {position : Position} {before line after : List Char}

theorem drop (located : Locates text index position before line after) :
    text.toList.drop index = line.drop (position.column - 1) ++ after := by
  have place : index = before.length + (position.column - 1) := by
    rw [located.column, Nat.add_sub_cancel_left, Nat.add_sub_cancel' located.behind]
  have inLine : position.column - 1 ≤ line.length := by
    rw [located.column, Nat.add_sub_cancel_left]
    exact Nat.sub_le_iff_le_add'.mpr located.within
  rw [located.isLine.spelled, place, List.drop_length_add_append,
    List.drop_append_of_le_length inLine]

theorem inLine (located : Locates text index position before line after) {count : Nat}
    (oneLine : '\n' ∉ (text.toList.drop index).take count)
    (inside : index + count ≤ text.toList.length) :
    index + count ≤ before.length + line.length := by
  by_contra farther
  have column := located.column
  have behind := located.behind
  have within := located.within
  have length := congrArg List.length located.isLine.spelled
  rw [List.length_append, List.length_append] at length
  rcases located.isLine.ends with rfl | ⟨others, rfl⟩
  · rw [List.length_nil] at length
    omega
  · -- What is left of the stretch behind the line begins with the line feed there.
    obtain ⟨more, left⟩ : ∃ more, count - (line.drop (position.column - 1)).length = more + 1 := by
      refine Nat.exists_eq_add_one.mpr ?_
      rw [List.length_drop]
      omega
    apply oneLine
    rw [located.drop, List.take_append, left, List.take_succ_cons]
    exact List.mem_append_right _ List.mem_cons_self

theorem atLineEnd (located : Locates text index position before line after)
    (ended : text.toList[index]? = none ∨ text.toList[index]? = some '\n') :
    position.column - 1 = line.length := by
  have column := located.column
  have behind := located.behind
  have within := located.within
  by_contra different
  have more : line.drop (position.column - 1) ≠ [] := by
    rw [ne_eq, List.drop_eq_nil_iff]
    omega
  obtain ⟨character, others, left⟩ := List.exists_cons_of_ne_nil more
  have found : text.toList[index]? = some character := by
    rw [← List.head?_drop, located.drop, left]
    rfl
  have member : character ∈ line := by
    apply List.mem_of_mem_drop
    rw [left]
    exact List.mem_cons_self
  rcases ended with absent | feed
  · cases found.symm.trans absent
  · cases found.symm.trans feed
    exact located.isLine.oneLine member

end Locates

end Reckon
