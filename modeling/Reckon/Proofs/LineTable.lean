import Mathlib
import Reckon.Proofs.Lines

namespace Reckon

/-- The part of a text from one offset up to another, in bytes. There is none if an offset is
inside a character or behind the end of the text, or if they are in the wrong order. -/
def sliceAt? (text : String) (start stop : Nat) : Option String := do
  let first ← text.pos? ⟨start⟩
  let last ← text.pos? ⟨stop⟩
  (text.slice? first last).map String.Slice.copy

private theorem exists_pos {text front back : String} (spelled : text = front ++ back) :
    ∃ position : text.Pos,
      text.pos? ⟨front.utf8ByteSize⟩ = some position ∧ position.Splits front back := by
  have valid : String.Pos.Raw.IsValid text ⟨front.utf8ByteSize⟩ :=
    String.Pos.Raw.isValid_iff_exists_append.mpr ⟨front, back, spelled, rfl⟩
  have inSlice : String.Pos.Raw.isValidForSlice text.toSlice ⟨front.utf8ByteSize⟩ = true :=
    String.Pos.Raw.isValidForSlice_eq_true_iff.mpr valid.toSlice
  refine ⟨text.pos _ valid, ?_, spelled, rfl⟩
  rw [String.pos?, String.Slice.pos?, dif_pos inSlice]
  rfl

private theorem sliceAt?_between {text front middle back : String}
    (spelled : text = front ++ middle ++ back) :
    sliceAt? text front.utf8ByteSize (front ++ middle).utf8ByteSize = some middle := by
  obtain ⟨last, found', split'⟩ := exists_pos spelled
  rw [String.append_assoc] at spelled
  obtain ⟨first, found, split⟩ := exists_pos spelled
  obtain ⟨forward, copied⟩ := String.copy_slice_eq_iff_splits.mpr ⟨front, back, split, split'⟩
  have sliced : text.slice? first last = some (text.slice first last forward) := dif_pos forward
  rw [sliceAt?, found, found', ← copied]
  exact congrArg (Option.map String.Slice.copy) sliced

namespace Document

/-- Where a line starts and where it stops, as the table tells it. The next line starts one byte
behind where this one stops, and the last line stops with the text. -/
def bounds? (document : Document) (index : Nat) : Option (Nat × Nat) := do
  let starts := lineStarts document.text.toList
  let start ← starts[index]?
  return (start, (starts[index + 1]?.map (· - 1)).getD document.text.utf8ByteSize)

/-- The line that is looked up in the table. -/
def tabled? (document : Document) : (number : Nat) → Option String
  | 0 => none
  | index + 1 => do
    let (start, stop) ← document.bounds? index
    sliceAt? document.text start stop

end Document

/-- The lines of a text are the pieces between its line feeds. -/
theorem lineAfter_eq_splitOn (index : Nat) (text : List Char) :
    lineAfter index text = (text.splitOn '\n')[index]? := by
  induction text generalizing index with
  | nil => cases index <;> rfl
  | cons character text ih =>
    rw [List.splitOn_cons_eq_if_modifyHead]
    by_cases feed : character = '\n'
    · subst feed
      cases index with
      | zero => simp [lineAfter]
      | succ index =>
        rw [lineAfter_feed, ih]
        rfl
    · have inLine : (character == '\n') = false := beq_eq_false_iff_ne.mpr feed
      rw [inLine, if_neg Bool.false_ne_true, List.getElem?_modifyHead]
      cases index with
      | zero =>
        rw [if_pos rfl, ← ih]
        simp [lineAfter, feed]
      | succ index => rw [if_neg (Nat.succ_ne_zero _), lineAfter_inLine _ feed, ih]

theorem length_splitOn (text : List Char) : (text.splitOn '\n').length = 1 + text.count '\n' := by
  induction text with
  | nil => rfl
  | cons character text ih =>
    rw [List.splitOn_cons_eq_if_modifyHead]
    by_cases feed : character = '\n'
    · simp [feed, ih, Nat.add_comm 1]
    · simp [feed, ih]

private theorem lineAfter_eq_none {index : Nat} {text : List Char} :
    lineAfter index text = none ↔ text.count '\n' < index := by
  rw [lineAfter_eq_splitOn, List.getElem?_eq_none_iff, length_splitOn]
  omega

namespace LineOf

variable {text before line after : List Char}

private theorem behindFeed (isLine : LineOf text before line after) (front : List Char) :
    LineOf (front ++ '\n' :: text) (front ++ '\n' :: before) line after where
  spelled := by rw [isLine.spelled, List.append_assoc, List.cons_append]
  oneLine := isLine.oneLine
  starts := by
    rcases isLine.starts with rfl | ⟨others, rfl⟩
    · exact .inr ⟨front, rfl⟩
    · exact .inr ⟨front ++ '\n' :: others, by simp⟩
  ends := isLine.ends

theorem ofFound {index : Nat} (found : Reckon.lineAfter index text = some line) :
    ∃ before after, LineOf text before line after ∧ before.count '\n' = index := by
  induction index generalizing text with
  | zero =>
    cases found
    have oneLine : '\n' ∉ text.takeWhile (· ≠ '\n') := by
      intro member
      simpa using List.mem_takeWhile_imp member
    have cut := text.takeWhile_append_dropWhile (p := (· ≠ '\n'))
    exact ⟨[], _, ⟨cut.symm, oneLine, .inl rfl, dropWhile_feed text⟩, rfl⟩
  | succ index ih =>
    by_cases feeds : '\n' ∈ text
    · obtain ⟨front, rest, rfl, oneLine⟩ := List.eq_append_cons_of_mem feeds
      have skipped : (front ++ ['\n']).count '\n' = 1 := by
        simp [List.count_eq_zero.mpr oneLine]
      rw [← skipped, lineAfter_lineFeed] at found
      obtain ⟨before, after, isLine, count⟩ := ih found
      refine ⟨_, after, isLine.behindFeed front, ?_⟩
      simp [List.count_eq_zero.mpr oneLine, count]
    · rw [lineAfter_eq_splitOn, List.splitOn_eq_singleton feeds] at found
      cases found

end LineOf

private theorem oneLine_of_mem_splitOn {text piece : List Char}
    (member : piece ∈ text.splitOn '\n') : '\n' ∉ piece := by
  obtain ⟨index, found⟩ := List.mem_iff_getElem?.mp member
  rw [← lineAfter_eq_splitOn] at found
  obtain ⟨_, _, isLine, _⟩ := LineOf.ofFound found
  exact isLine.oneLine

namespace Document

variable {document : Document}

private theorem bounds?_of_line {before line after : List Char}
    (isLine : LineOf document.text.toList before line after) :
    document.bounds? (before.count '\n') = some ((String.ofList before).utf8ByteSize,
      (String.ofList (before ++ line)).utf8ByteSize) := by
  have stop := isLine.lineStop
  rw [String.ofList_toList] at stop
  simp [bounds?, isLine.lineStart, stop]

theorem spelled_of_line {before line after : List Char}
    (isLine : LineOf document.text.toList before line after) :
    document.text = String.ofList before ++ String.ofList line ++ String.ofList after := by
  rw [← String.ofList_append, ← String.ofList_append, List.append_assoc, ← isLine.spelled,
    String.ofList_toList]

private theorem bounds?_eq_none {index : Nat} (beyond : document.text.toList.count '\n' < index) :
    document.bounds? index = none := by
  have missing : (lineStarts document.text.toList)[index]? = none := by
    rw [List.getElem?_eq_none_iff, lineStarts, List.length_cons, length_offsetsBehindFeeds]
    exact beyond
  simp [bounds?, missing]

/-- Either there is no such line, or the table has the offsets at which it starts and stops. -/
theorem bounds?_told (document : Document) (index : Nat) :
    (lineAfter index document.text.toList = none ∧ document.bounds? index = none) ∨
      ∃ before line after, LineOf document.text.toList before line after ∧
        lineAfter index document.text.toList = some line ∧
        document.bounds? index = some ((String.ofList before).utf8ByteSize,
          (String.ofList (before ++ line)).utf8ByteSize) := by
  cases found : lineAfter index document.text.toList with
  | none => exact .inl ⟨rfl, bounds?_eq_none (lineAfter_eq_none.mp found)⟩
  | some line =>
    obtain ⟨before, after, isLine, rfl⟩ := LineOf.ofFound found
    exact .inr ⟨before, line, after, isLine, rfl, bounds?_of_line isLine⟩

/-- The table finds the lines of the document, and no others. -/
private theorem tabled?_eq_line? (document : Document) (number : Nat) :
    document.tabled? number = document.line? number := by
  cases number with
  | zero => rfl
  | succ index =>
    rw [tabled?, line?]
    rcases document.bounds?_told index with ⟨none, unbounded⟩ | ⟨_, _, _, isLine, found, bounded⟩
    · rw [none, unbounded]
      rfl
    · have slice := sliceAt?_between (spelled_of_line isLine)
      rw [← String.ofList_append] at slice
      rw [found, bounded]
      exact slice

theorem bounds?_valid {index start stop : Nat}
    (bounds : document.bounds? index = some (start, stop)) :
    start ≤ stop ∧ String.Pos.Raw.IsValid document.text ⟨start⟩ ∧
      String.Pos.Raw.IsValid document.text ⟨stop⟩ := by
  rcases document.bounds?_told index with ⟨_, unbounded⟩ | ⟨_, _, _, isLine, _, bounded⟩
  · cases bounds.symm.trans unbounded
  · cases bounds.symm.trans bounded
    have spelled := spelled_of_line isLine
    refine ⟨?_, ?_, ?_⟩
    · rw [String.ofList_append, String.utf8ByteSize_append]
      exact Nat.le_add_right _ _
    · rw [String.append_assoc] at spelled
      exact String.Pos.Raw.isValid_iff_exists_append.mpr ⟨_, _, spelled, rfl⟩
    · rw [← String.ofList_append] at spelled
      exact String.Pos.Raw.isValid_iff_exists_append.mpr ⟨_, _, spelled, rfl⟩

/-- The lines of a document, from the first to the last: what is found under each number, in the
text and by the table, and how the lines make up the text. -/
structure CutInto (document : Document) (lines : List String) : Prop where
  pieces : lines.map String.toList = document.text.toList.splitOn '\n'
  length : lines.length = 1 + document.text.toList.count '\n'
  unnumbered : document.line? 0 = none
  numbered : ∀ index, document.line? (index + 1) = lines[index]?
  tabled : ∀ number, document.tabled? number = document.line? number
  boundaries : ∀ index start stop, document.bounds? index = some (start, stop) →
    start ≤ stop ∧ String.Pos.Raw.IsValid document.text ⟨start⟩ ∧
      String.Pos.Raw.IsValid document.text ⟨stop⟩
  oneLine : ∀ line ∈ lines, '\n' ∉ line.toList
  joined : "\n".intercalate lines = document.text

/-- Every document is cut at its line feeds, and the lines put together again are its text. -/
theorem cutInto (document : Document) : ∃ lines, document.CutInto lines := by
  refine ⟨(document.text.toList.splitOn '\n').map String.ofList, ?_⟩
  have pieces : ((document.text.toList.splitOn '\n').map String.ofList).map String.toList =
      document.text.toList.splitOn '\n' := by
    simp
  refine ⟨pieces, ?_, rfl, ?_, tabled?_eq_line? document, ?_, ?_, ?_⟩
  · rw [List.length_map, length_splitOn]
  · intro index
    rw [line?, lineAfter_eq_splitOn, List.getElem?_map]
  · exact fun index start stop => bounds?_valid
  · intro line member
    obtain ⟨piece, listed, rfl⟩ := List.mem_map.mp member
    rw [String.toList_ofList]
    exact oneLine_of_mem_splitOn listed
  · apply String.toList_inj.mp
    rw [String.toList_intercalate, pieces]
    exact List.intercalate_splitOn '\n'

end Document

end Reckon
