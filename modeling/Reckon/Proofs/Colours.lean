import Mathlib
import Reckon.Proofs.LineTable
import Reckon.Proofs.Printed
import Reckon.Proofs.Terminal

namespace Reckon

structure Documents.Lack (documents : Documents) (character : Char) : Prop where
  names : ∀ document ∈ documents.entries, character ∉ document.name.toList
  texts : ∀ document ∈ documents.entries, character ∉ document.text.toList

private theorem Document.notMem_line {document : Document} {number : Nat} {line : String}
    {character : Char} (lacks : character ∉ document.text.toList)
    (found : document.line? number = some line) : character ∉ line.toList := by
  cases number with
  | zero => cases found
  | succ skipped =>
    obtain ⟨characters, located, rfl⟩ := Option.map_eq_some_iff.mp found
    obtain ⟨before, after, isLine, -⟩ := LineOf.ofFound located
    rw [isLine.spelled] at lacks
    rw [String.toList_ofList]
    exact fun member => lacks (List.mem_append_right _ (List.mem_append_left _ member))

namespace Diagnostic

/-- No message has the character, and it is not the category of the code. -/
structure MessagesLack (diagnostic : Diagnostic) (character : Char) : Prop where
  message : character ∉ diagnostic.message.toList
  labels : ∀ label ∈ diagnostic.labels, character ∉ label.message.toList
  category : ∀ code ∈ diagnostic.code, code.category ≠ character

structure RemarksLack (diagnostic : Diagnostic) (character : Char) : Prop where
  notes : ∀ note ∈ diagnostic.notes, character ∉ note.toList
  helps : ∀ help ∈ diagnostic.helps, character ∉ help.toList

end Diagnostic

section

variable {character : Char} (control : character < ' ')
include control

theorem notMem_visible {text : List Char} (visible : ∀ other ∈ text, ' ' ≤ other) :
    character ∉ text :=
  fun member => absurd control (not_lt.mpr (visible character member))

theorem notMem_toDigits (number : Nat) : character ∉ Nat.toDigits 10 number := by
  refine notMem_visible control fun digit member => ?_
  have isDigit := Nat.isDigit_of_mem_toDigits (by decide) (by decide) member
  rw [Char.isDigit, Bool.and_eq_true, decide_eq_true_iff, decide_eq_true_iff] at isDigit
  exact le_trans (by decide : (32 : UInt32) ≤ 48) isDigit.1

theorem Level.notMem_name (level : Level) : character ∉ level.name.toList := by
  refine notMem_visible control ?_
  cases level <;> simp [name]

private theorem ErrorCode.notMem_shown {code : ErrorCode} (category : code.category ≠ character) :
    character ∉ code.shown.toList := by
  have letter : character ≠ 'E' := ne_of_lt (lt_trans control (by decide))
  have zero : character ≠ '0' := ne_of_lt (lt_trans control (by decide))
  simp [shown, letter, zero, Ne.symm category, notMem_toDigits control]

theorem ErrorCode.notMem_bracketed {code : Option ErrorCode}
    (category : ∀ given ∈ code, given.category ≠ character) :
    character ∉ (code.elim "" fun given => "[" ++ given.shown ++ "]").toList := by
  have opening : character ≠ '[' := ne_of_lt (lt_trans control (by decide))
  have closing : character ≠ ']' := ne_of_lt (lt_trans control (by decide))
  cases code with
  | none => simp
  | some given => simp [opening, closing, notMem_shown control (category given rfl)]

theorem Label.notMem_underline (label : Label) : character ∉ label.underline.toList := by
  refine notMem_visible control ?_
  cases kind : label.primary <;> simp [underline, kind]

end

theorem escape_control : '\x1b' < ' ' := by decide

theorem lineFeed_control : '\n' < ' ' := by decide

namespace Label

variable {label : Label} (level : Level)

private theorem lacks_arrow {document : Document} (name : '\x1b' ∉ document.name.toList) :
    ∀ mark ∈ label.arrow document, mark.Lacks '\x1b' := by
  simp [arrow, Mark.Lacks, Position.shown, toString_words, name, notMem_toDigits escape_control]

private theorem lacks_snippet {line : String} (quoted : '\x1b' ∉ line.toList)
    (message : '\x1b' ∉ label.message.toList) :
    ∀ mark ∈ label.snippet level line, mark.Lacks '\x1b' := by
  have number := notMem_toDigits escape_control label.span.start.line
  have underline := label.notMem_underline escape_control
  simp [snippet, Mark.Lacks, spaces, toString_words, number, quoted, underline, message]

private theorem lacks_marks {documents : Documents} (lack : documents.Lack '\x1b')
    (message : '\x1b' ∉ label.message.toList) :
    ∀ mark ∈ label.marks level documents, mark.Lacks '\x1b' := by
  unfold marks
  cases stored : documents.get? label.span.document with
  | none => simp
  | some document =>
    have member : document ∈ documents.entries := Array.mem_of_getElem? stored
    have arrow : ∀ mark ∈ label.arrow document, mark.Lacks '\x1b' :=
      lacks_arrow (lack.names document member)
    dsimp only
    cases found : document.line? label.span.start.line with
    | none => rwa [List.append_nil]
    | some line =>
      have quoted := Document.notMem_line (lack.texts document member) found
      exact List.forall_mem_append.mpr ⟨arrow, lacks_snippet level quoted message⟩

private theorem rests_arrow (document : Document) : Mark.Rests false (label.arrow document) := by
  simp [arrow, Mark.Rests]

private theorem rests_snippet (line : String) (message : '\n' ∉ label.message.toList) :
    Mark.Rests false (label.snippet level line) := by
  have number := notMem_toDigits lineFeed_control label.span.start.line
  have underline := label.notMem_underline lineFeed_control
  simp [snippet, Mark.Rests, toString_words, number, underline, message]

private theorem rests_marks (documents : Documents) (message : '\n' ∉ label.message.toList) :
    Mark.Rests false (label.marks level documents) := by
  unfold marks
  cases documents.get? label.span.document with
  | none => rfl
  | some document =>
    refine Mark.rests_append (rests_arrow document) ?_
    cases document.line? label.span.start.line with
    | none => rfl
    | some line => exact rests_snippet level line message

end Label

namespace Diagnostic

variable {diagnostic : Diagnostic}

private theorem lacks_headline (messages : diagnostic.MessagesLack '\x1b') :
    ∀ mark ∈ diagnostic.headline, mark.Lacks '\x1b' := by
  have level := diagnostic.level.notMem_name escape_control
  have code := ErrorCode.notMem_bracketed escape_control messages.category
  simp [headline, Mark.Lacks, toString_words, level, code, messages.message]

private theorem rests_headline (messages : diagnostic.MessagesLack '\n') :
    Mark.Rests false diagnostic.headline := by
  have level := diagnostic.level.notMem_name lineFeed_control
  have code := ErrorCode.notMem_bracketed lineFeed_control messages.category
  simp [headline, Mark.Rests, toString_words, level, code, messages.message]

private theorem lacks_remark (style : Style) {name text : String} (named : '\x1b' ∉ name.toList)
    (lacks : '\x1b' ∉ text.toList) : ∀ mark ∈ remark style name text, mark.Lacks '\x1b' := by
  simp [remark, Mark.Lacks, toString_words, named, lacks]

private theorem rests_remark (style : Style) {name : String} (named : '\n' ∉ name.toList)
    (text : String) : Mark.Rests false (remark style name text) := by
  simp [remark, Mark.Rests, named]

private theorem lacks_marks {documents : Documents} (lack : documents.Lack '\x1b')
    (messages : diagnostic.MessagesLack '\x1b') (remarks : diagnostic.RemarksLack '\x1b') :
    ∀ mark ∈ diagnostic.marks documents, mark.Lacks '\x1b' := by
  have labels : ∀ label ∈ diagnostic.labels,
      ∀ mark ∈ label.marks diagnostic.level documents, mark.Lacks '\x1b' :=
    fun label member => label.lacks_marks _ lack (messages.labels label member)
  have notes : ∀ note ∈ diagnostic.notes, ∀ mark ∈ remark .plain "note" note, mark.Lacks '\x1b' :=
    fun note member => lacks_remark _ (by simp) (remarks.notes note member)
  have helps : ∀ help ∈ diagnostic.helps,
      ∀ mark ∈ remark Level.help.style "help" help, mark.Lacks '\x1b' :=
    fun help member => lacks_remark _ (by simp) (remarks.helps help member)
  simp only [marks, List.forall_mem_append, List.forall_mem_flatMap]
  exact ⟨⟨⟨lacks_headline messages, labels⟩, notes⟩, helps⟩

private theorem rests_marks (documents : Documents) (messages : diagnostic.MessagesLack '\n') :
    Mark.Rests false (diagnostic.marks documents) := by
  have labels : Mark.Rests false
      (diagnostic.labels.flatMap (·.marks diagnostic.level documents)) :=
    Mark.rests_flatMap fun label member =>
      label.rests_marks _ documents (messages.labels label member)
  have remarks (style : Style) {name : String} (named : '\n' ∉ name.toList) (texts : List String) :
      Mark.Rests false (texts.flatMap (remark style name)) :=
    Mark.rests_flatMap fun text _ => rests_remark style named text
  rw [marks]
  exact Mark.rests_append (Mark.rests_append
    (Mark.rests_append (rests_headline messages) labels)
    (remarks _ (by simp) _)) (remarks _ (by simp) _)

private theorem begins_marks (diagnostic : Diagnostic) (documents : Documents) :
    ∃ others, diagnostic.marks documents = .style diagnostic.level.style :: others := by
  simp [marks, headline]

/-- The coloured report is the report without colours, with sequences in it. It begins with the
colour of its level. If no message has a line feed, every line of it ends with no style on: the
last sequence before its end, if there is one, turns all of them off. -/
structure OnlyColoured (diagnostic : Diagnostic) (documents : Documents) : Prop where
  begins : (Terminal.sequences (diagnostic.render documents true).toList).head? =
    some diagnostic.level.style.sequence.toList
  bare : Terminal.bare (diagnostic.render documents true).toList =
    (diagnostic.render documents false).toList
  rests : diagnostic.MessagesLack '\n' → ∀ {line rest : List Char},
    (diagnostic.render documents true).toList = line ++ '\n' :: rest →
    ∀ last ∈ (Terminal.sequences line).getLast?, last = resetSequence

theorem onlyColoured {documents : Documents} (lack : documents.Lack '\x1b')
    (messages : diagnostic.MessagesLack '\x1b') (remarks : diagnostic.RemarksLack '\x1b') :
    diagnostic.OnlyColoured documents where
  begins := by
    obtain ⟨others, begun⟩ := diagnostic.begins_marks documents
    rw [render, begun, Mark.paint_cons, String.toList_append]
    have first := Terminal.sequences_sequence diagnostic.level.style.isSequence
      (Mark.paint true others).toList
    exact congrArg List.head? first
  bare := Mark.bare_paint (lacks_marks lack messages remarks)
  rests := by
    intro oneLine line rest spelled last found
    have rests := rests_marks documents oneLine
    rcases Mark.last_sequence rests (lacks_marks lack messages remarks) spelled with
      reset | ⟨none, -⟩
    · cases found.symm.trans reset
      rfl
    · rw [none] at found
      cases found

theorem onlyColoured_loneStar :
    let documents : Documents := ⟨#[⟨"in", "1*2\n"⟩]⟩
    let diagnostic : Diagnostic := ⟨.error, some ⟨'P', 4⟩, "expected a second star",
      [⟨⟨⟨1, 3, 2⟩, ⟨1, 4, 3⟩, 0⟩, "found 2", true⟩, ⟨⟨⟨1, 2, 1⟩, ⟨1, 3, 2⟩, 0⟩, "first", false⟩],
      ["one star is not an operator"], ["powers are written with two"]⟩
    documents.Lack '\x1b' ∧ diagnostic.MessagesLack '\x1b' ∧ diagnostic.RemarksLack '\x1b' ∧
      diagnostic.MessagesLack '\n' ∧ diagnostic.OnlyColoured documents := by
  intro documents diagnostic
  have lack : documents.Lack '\x1b' := ⟨by simp [documents], by simp [documents]⟩
  have messages : diagnostic.MessagesLack '\x1b' :=
    ⟨by simp [diagnostic], by simp [diagnostic], by simp [diagnostic]⟩
  have remarks : diagnostic.RemarksLack '\x1b' := ⟨by simp [diagnostic], by simp [diagnostic]⟩
  have oneLine : diagnostic.MessagesLack '\n' :=
    ⟨by simp [diagnostic], by simp [diagnostic], by simp [diagnostic]⟩
  exact ⟨lack, messages, remarks, oneLine, onlyColoured lack messages remarks⟩

/-- Notes and hints are printed as they are given. A sequence in one of them is not deleted from
the report without colours, and in colours it leaves a style on at the end of its line. -/
theorem recoloured_remarks :
    let noted : Diagnostic := ⟨.error, none, "", [], ["\x1b[31m"], []⟩
    let hinted : Diagnostic := ⟨.error, none, "", [], [], ["\x1b[31m"]⟩
    let headline := "\x1b[1;31merror\x1b[0m\x1b[1m: \x1b[0m\n"
    let note := "  = \x1b[1mnote\x1b[0m: \x1b[31m"
    let hint := "  = \x1b[1;32mhelp\x1b[0m: \x1b[31m"
    Documents.Lack {} '\x1b' ∧
      (noted.MessagesLack '\x1b' ∧ noted.MessagesLack '\n' ∧ noted.RemarksLack '\n' ∧
        Terminal.bare (noted.render {} true).toList ≠ (noted.render {} false).toList ∧
        noted.render {} true = headline ++ note ++ "\n" ∧
        (Terminal.sequences (headline ++ note).toList).getLast? = some "\x1b[31m".toList) ∧
      (hinted.MessagesLack '\x1b' ∧ hinted.MessagesLack '\n' ∧ hinted.RemarksLack '\n' ∧
        Terminal.bare (hinted.render {} true).toList ≠ (hinted.render {} false).toList ∧
        hinted.render {} true = headline ++ hint ++ "\n" ∧
        (Terminal.sequences (headline ++ hint).toList).getLast? = some "\x1b[31m".toList) := by
  intro noted hinted headline note hint
  refine ⟨⟨by simp, by simp⟩, ⟨?_, ?_, ?_, ?_⟩, ?_, ?_, ?_, ?_⟩
  · exact ⟨by simp [noted], by simp [noted], by simp [noted]⟩
  · exact ⟨by simp [noted], by simp [noted], by simp [noted]⟩
  · exact ⟨by simp [noted], by simp [noted]⟩
  · decide +kernel
  · exact ⟨by simp [hinted], by simp [hinted], by simp [hinted]⟩
  · exact ⟨by simp [hinted], by simp [hinted], by simp [hinted]⟩
  · exact ⟨by simp [hinted], by simp [hinted]⟩
  · decide +kernel

end Diagnostic

end Reckon
