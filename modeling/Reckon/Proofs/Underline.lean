import Mathlib
import Reckon.Proofs.Lines
import Reckon.Proofs.Printed

namespace Reckon

/-- A diagnostic with this label is printed with the line in full, and so many marks below it
from this place on. -/
structure Label.Shown (label : Label) (documents : Documents) (name : String) (line : List Char)
    (place count : Nat) : Prop where
  rendered : ∀ diagnostic : Diagnostic, label ∈ diagnostic.labels → ∃ above below,
    diagnostic.render documents false =
      printed (above ++ (label.extract name line).lines ++ below)
  underlines : (label.extract name line).Underlines place count

/-- A label is shown below the line that its start is in, whatever else the diagnostic says. -/
theorem Label.shown {label : Label} {documents : Documents} {name text : String} {index : Nat}
    {before line after : List Char}
    (held : documents.get? label.span.document = some ⟨name, text⟩)
    (located : Locates text index label.span.start before line after) :
    label.Shown documents name line (label.extract name line).place label.span.width where
  rendered := by
    intro diagnostic member
    obtain ⟨earlier, later, labels⟩ := List.append_of_mem member
    rw [diagnostic.render_lines, Diagnostic.lines, labels, List.flatMap_append, List.flatMap_cons,
      Label.lines_of_line held (located.found name)]
    refine ⟨diagnostic.headlineWords :: earlier.flatMap (·.lines documents),
      later.flatMap (·.lines documents) ++ diagnostic.notes.map ("  = note: " ++ ·) ++
        diagnostic.helps.map ("  = help: " ++ ·), ?_⟩
    simp only [List.cons_append, List.append_assoc]
  underlines := by
    refine (label.extract name line).underlines ?_
    rw [extract]
    by_cases primary : label.primary <;> simp [primary]

/-- The characters of a text from one index up to another. -/
def stretch (text : String) (first last : Nat) : List Char :=
  (text.toList.drop first).take (last - first)

namespace Locates

variable {text : String} {first last : Nat} {span : Span} {before line after : List Char}

private theorem width (located : Locates text first span.start before line after)
    (located' : Locates text last span.stop before line after) (forward : first < last) :
    span.width = last - first := by
  have same : span.start.line = span.stop.line := located.number.trans located'.number.symm
  have behind := located.behind
  rw [Span.width, if_pos same, located.column, located'.column]
  omega

private theorem size (located : Locates text first span.start before line after)
    (located' : Locates text last span.stop before line after) (forward : first < last) :
    span.size = (String.ofList (stretch text first last)).utf8ByteSize := by
  have split : text.toList.take last = text.toList.take first ++ stretch text first last := by
    rw [stretch, ← List.take_add, Nat.add_sub_cancel' (Nat.le_of_lt forward)]
  rw [Span.size, located.offset, located'.offset, split, String.ofList_append,
    String.utf8ByteSize_append, Nat.add_sub_cancel_left]

private theorem stretch_eq (located : Locates text first span.start before line after)
    (located' : Locates text last span.stop before line after) (forward : first < last) :
    (line.drop (span.start.column - 1)).take (last - first) = stretch text first last := by
  have inLine : last - first ≤ (line.drop (span.start.column - 1)).length := by
    have within := located'.within
    have behind := located.behind
    rw [located.column, List.length_drop]
    omega
  rw [stretch, located.drop, List.take_append_of_le_length inLine]

private theorem length_quoted {label : Label} {name : String}
    (located : Locates text first label.span.start before line after)
    (ended : text.toList[first]? = none ∨ text.toList[first]? = some '\n') :
    (label.extract name line).quoted.toList.length = (label.extract name line).place := by
  rw [Extract.quoted, Extract.place, String.toList_append, List.length_append,
    String.toList_ofList]
  exact congrArg _ (located.atLineEnd ended).symm

end Locates

/-- A label on a stretch of one line is printed with that line and marks its characters. Where a
line feed or the end of the text is found, one mark stands in the column behind the line. -/
theorem label_underlines (documents : Documents) {number : Nat} {name text : String}
    (held : documents.get? number = some ⟨name, text⟩) :
    (∀ first last, first < last → last ≤ text.toList.length → '\n' ∉ stretch text first last →
      ∃ before line after,
        Locates text first (.ofIndex text first) before line after ∧
        Locates text last (.ofIndex text last) before line after ∧
        ∀ label : Label, label.span = ⟨.ofIndex text first, .ofIndex text last, number⟩ →
          label.span.size = (String.ofList (stretch text first last)).utf8ByteSize ∧
          ∃ place, label.Shown documents name line place (last - first) ∧
            ((label.extract name line).quoted.toList.drop place).take (last - first) =
              stretch text first last) ∧
    ∀ index, index ≤ text.toList.length →
      text.toList[index]? = none ∨ text.toList[index]? = some '\n' →
      ∃ before line after,
        Locates text index (.ofIndex text index) before line after ∧
        ∀ label : Label,
          label.span = .ofCharacter (.ofIndex text index) text.toList[index]? number →
          label.Shown documents name line (label.extract name line).quoted.toList.length 1 := by
  constructor
  · intro first last forward inside oneLine
    obtain ⟨before, line, after, located⟩ :=
      locates_ofIndex text (Nat.le_of_lt (Nat.lt_of_lt_of_le forward inside))
    -- Without a line feed in between, the last place is in the line of the first.
    have whole : first + (last - first) = last := Nat.add_sub_cancel' (Nat.le_of_lt forward)
    have within := located.inLine oneLine (by rwa [whole])
    rw [whole] at within
    have behind := Nat.le_trans located.behind (Nat.le_of_lt forward)
    have located' := located.isLine.locates behind within
    refine ⟨before, line, after, located, located', ?_⟩
    intro label covers
    have start : label.span.start = .ofIndex text first := congrArg Span.start covers
    have stop : label.span.stop = .ofIndex text last := congrArg Span.stop covers
    have document : label.span.document = number := congrArg Span.document covers
    rw [← start] at located
    rw [← stop] at located'
    rw [← document] at held
    have shown := Label.shown held located
    rw [located.width located' forward] at shown
    refine ⟨located.size located' forward, _, shown, ?_⟩
    rw [Extract.quoted_drop]
    exact located.stretch_eq located' forward
  · intro index inside ended
    obtain ⟨before, line, after, located⟩ := locates_ofIndex text inside
    refine ⟨before, line, after, located, ?_⟩
    intro label covers
    have start : label.span.start = .ofIndex text index := by
      rw [covers, Span.ofCharacter_start]
    have document : label.span.document = number := by
      rw [covers, Span.ofCharacter_document]
    have single : label.span.width = 1 := by
      rw [covers, Span.width_ofCharacter]
    rw [← start] at located
    rw [← document] at held
    have shown := Label.shown held located
    rwa [single, ← located.length_quoted ended] at shown

/-- The number of the line has two digits, and not every character of it is ASCII. -/
theorem label_underlines_tenthLine :
    (Documents.add {} ⟨"in", "\n\n\n\n\n\n\n\n\n1+été\n"⟩).1.get? 0 =
        some ⟨"in", "\n\n\n\n\n\n\n\n\n1+été\n"⟩ ∧
      '\n' ∉ stretch "\n\n\n\n\n\n\n\n\n1+été\n" 11 14 ∧
      "\n\n\n\n\n\n\n\n\n1+été\n".toList[14]? = some '\n' ∧
      Span.size ⟨⟨10, 3, 11⟩, ⟨10, 6, 16⟩, 0⟩ = 5 ∧
      (∀ diagnostic : Diagnostic,
        ⟨⟨⟨10, 3, 11⟩, ⟨10, 6, 16⟩, 0⟩, "no number", true⟩ ∈ diagnostic.labels →
        ∃ above below,
          diagnostic.render (Documents.add {} ⟨"in", "\n\n\n\n\n\n\n\n\n1+été\n"⟩).1 false =
            printed (above ++ [
              " --> in:10:3",
              "    |",
              " 10 | 1+été",
              "    |   ^^^ no number"] ++ below)) ∧
      ∀ diagnostic : Diagnostic,
        ⟨.ofCharacter ⟨10, 6, 16⟩ (some '\n') 0, "the line ends", false⟩ ∈ diagnostic.labels →
        ∃ above below,
          diagnostic.render (Documents.add {} ⟨"in", "\n\n\n\n\n\n\n\n\n1+été\n"⟩).1 false =
            printed (above ++ [
              " --> in:10:6",
              "    |",
              " 10 | 1+été",
              "    |      - the line ends"] ++ below) := by
  have held : (Documents.add {} ⟨"in", "\n\n\n\n\n\n\n\n\n1+été\n"⟩).1.get? 0 =
      some ⟨"in", "\n\n\n\n\n\n\n\n\n1+été\n"⟩ := rfl
  have oneLine : '\n' ∉ stretch "\n\n\n\n\n\n\n\n\n1+été\n" 11 14 := by
    decide
  have feed : "\n\n\n\n\n\n\n\n\n1+été\n".toList[14]? = some '\n' := by
    cbv
  have start : Position.ofIndex "\n\n\n\n\n\n\n\n\n1+été\n" 11 = ⟨10, 3, 11⟩ := by
    cbv
  have stop : Position.ofIndex "\n\n\n\n\n\n\n\n\n1+été\n" 14 = ⟨10, 6, 16⟩ := by
    cbv
  have quoted : Document.line? ⟨"in", "\n\n\n\n\n\n\n\n\n1+été\n"⟩ 10 = some "1+été" := by
    cbv
  obtain ⟨stretches, ends⟩ := label_underlines _ held
  obtain ⟨_, line, _, located, _, marked⟩ := stretches 11 14 (by decide) (by decide) oneLine
  obtain ⟨_, line', _, located', marked'⟩ := ends 14 (by decide) (.inr feed)
  rw [start, stop] at marked
  rw [stop, feed] at marked'
  obtain ⟨size, _, shown, -⟩ := marked ⟨_, "no number", true⟩ rfl
  have shown' := marked' ⟨_, "the line ends", false⟩ rfl
  have found := located.found "in"
  have found' := located'.found "in"
  rw [start, quoted] at found
  rw [stop, quoted] at found'
  have same : line = "1+été".toList := by
    rw [Option.some.inj found, String.toList_ofList]
  have same' : line' = "1+été".toList := by
    rw [Option.some.inj found', String.toList_ofList]
  subst same same'
  refine ⟨held, oneLine, feed, ?_, ?_, ?_⟩
  · exact size.trans (by cbv)
  · exact shown.rendered
  · exact shown'.rendered

end Reckon
