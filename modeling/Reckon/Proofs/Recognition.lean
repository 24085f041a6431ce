import Reckon.Proofs.Bookkeeping
import Reckon.Proofs.Follow

/-! What each rule of the grammar recognises, from any scanner of a text. A rule reads the
one word that fits in front of the rest, and where no word fits it rejects the input. -/

namespace Reckon

variable {σ α β : Type}

/-- A step that succeeds meets the postcondition, and one that fails is a rejection. -/
def Yields (post : α → Scanner σ → Prop) : EStateM.Result EvaluationError (Scanner σ) α → Prop
  | .ok value rest => post value rest
  | .error error _ => ∃ rejection, error = .rejected rejection

namespace Yields

variable {post : α → Scanner σ → Prop}

theorem bind {first : Scan σ α} {start : Scanner σ} {later : α → Scan σ β}
    {final : β → Scanner σ → Prop} (yields : Yields post (first start))
    (next : ∀ value rest, post value rest → Yields final (later value rest)) :
    Yields final ((first >>= later) start) := by
  change Yields final (EStateM.bind first later start)
  unfold EStateM.bind
  cases outcome : first start with
  | ok value rest => exact next value rest (by rwa [outcome] at yields)
  | error error rest => rwa [outcome] at yields

theorem mono {weaker : α → Scanner σ → Prop}
    {outcome : EStateM.Result EvaluationError (Scanner σ) α} (yields : Yields post outcome)
    (implied : ∀ value rest, post value rest → weaker value rest) : Yields weaker outcome := by
  cases outcome with
  | ok value rest => exact implied value rest yields
  | error error rest => exact yields

theorem reject (cause : Cause) (start : Scanner σ) : Yields post (Scanner.reject cause start) :=
  ⟨_, rfl⟩

end Yields

namespace Sign

variable {lookahead : Option Char} {sign : Sign}

theorem bind_ofCharacter?_eq_some :
    lookahead.bind ofCharacter? = some sign ↔ lookahead = some sign.character := by
  cases lookahead with
  | none => simp
  | some character => simp [ofCharacter?_eq_some]

private theorem bind_ofCharacter?_eq_none :
    lookahead.bind ofCharacter? = none ↔ ∀ sign : Sign, lookahead ≠ some sign.character := by
  simp only [Option.eq_none_iff_forall_ne_some, ne_eq, bind_ofCharacter?_eq_some]

end Sign

namespace Scanner

def advance (scanner : Scanner (List Char)) (character : Char) : Scanner (List Char) :=
  ⟨scanner.source.tail, scanner.source.head?, scanner.position.after character, scanner.depth,
    .consumed character scanner.position.column :: scanner.events⟩

def past (scanner : Scanner (List Char)) (word : List Char) : Scanner (List Char) :=
  word.foldl advance scanner

variable {scanner : Scanner (List Char)} {word others : List Char} {character : Char}

theorem past_append (scanner : Scanner (List Char)) (word others : List Char) :
    scanner.past (word ++ others) = (scanner.past word).past others :=
  List.foldl_append

@[simp] theorem past_depth (scanner : Scanner (List Char)) (word : List Char) :
    (scanner.past word).depth = scanner.depth := by
  induction word generalizing scanner with
  | nil => rfl
  | cons character word ih => exact ih (scanner.advance character)

private theorem past_position (scanner : Scanner (List Char)) (word : List Char) :
    (scanner.past word).position = scanner.position.afterAll word := by
  induction word generalizing scanner with
  | nil => rfl
  | cons character word ih => exact ih (scanner.advance character)

private theorem past_atDepth (scanner : Scanner (List Char)) (depth : Nat) (word : List Char) :
    past { scanner with depth } word = { scanner.past word with depth } := by
  induction word generalizing scanner with
  | nil => rfl
  | cons character word ih => exact ih (scanner.advance character)

theorem ascend_past (scanner : Scanner (List Char)) (word : List Char) :
    (past { scanner with depth := scanner.depth + 1 } word).ascend = scanner.past word := by
  rw [past_atDepth, ascend, Nat.add_sub_cancel, ← scanner.past_depth word]

/-- The scanner has the text in front of it. -/
structure Ahead (scanner : Scanner (List Char)) (text : List Char) : Prop where
  lookahead : scanner.lookahead = text.head?
  source : scanner.source = text.tail

namespace Ahead

theorem isAt_iff (ahead : scanner.Ahead word) :
    scanner.isAt character = true ↔ ∃ others, word = character :: others := by
  rw [isAt, beq_iff_eq, ahead.lookahead, List.head?_eq_some_iff]

private theorem atDepth (ahead : scanner.Ahead word) (depth : Nat) :
    Ahead { scanner with depth } word :=
  ⟨ahead.lookahead, ahead.source⟩

theorem consume (ahead : scanner.Ahead (character :: others)) :
    Scanner.consume character scanner = .ok () (scanner.past [character]) := by
  have here := ahead.isAt_iff.mpr ⟨others, rfl⟩
  rw [Scanner.consume, if_pos here, next_text]
  rfl

theorem past (ahead : scanner.Ahead (word ++ others)) : (scanner.past word).Ahead others := by
  induction word generalizing scanner with
  | nil => exact ahead
  | cons character word ih =>
    have next : (scanner.advance character).Ahead (word ++ others) := by
      rw [List.cons_append] at ahead
      constructor
      · simp [advance, ahead.source]
      · simp [advance, ahead.source]
    exact ih next

theorem next (ahead : scanner.Ahead (character :: others)) :
    (scanner.past [character]).Ahead others :=
  ahead.past

private theorem pending (ahead : scanner.Ahead word) : scanner.pending = word := by
  rw [Scanner.pending, ahead.lookahead, ahead.source]
  cases word <;> rfl

end Ahead

/-- The scanner has the text in front of it, at this depth. The text has at most `bound`
characters. -/
structure Before (scanner : Scanner (List Char)) (depth : Nat) (text : List Char) (bound : Nat) :
    Prop extends Ahead scanner text where
  level : scanner.depth = depth
  shallow : depth ≤ nestingLimit
  within : text.length ≤ bound

namespace Before

variable {depth bound : Nat}

theorem past (before : scanner.Before depth (word ++ others) bound) :
    (scanner.past word).Before depth others bound where
  toAhead := before.toAhead.past
  level := by rw [past_depth, before.level]
  shallow := before.shallow
  within := by
    have within := before.within
    rw [List.length_append] at within
    omega

theorem next (before : scanner.Before depth (character :: others) bound) :
    others.length < bound ∧ (scanner.past [character]).Before depth others others.length where
  left := before.within
  right :=
    { before.past with
      toAhead := before.toAhead.next
      within := Nat.le_refl _ }

theorem deeper (before : scanner.Before depth word bound) (below : depth < nestingLimit) :
    Before { scanner with depth := scanner.depth + 1 } (depth + 1) word bound :=
  { before.toAhead.atDepth _ with
    level := by rw [before.level]
    shallow := below
    within := before.within }

theorem descend (before : scanner.Before depth word bound) (below : depth < nestingLimit) :
    Scanner.descend scanner = .ok () { scanner with depth := scanner.depth + 1 } :=
  scanner.steady.below (by rw [before.level]; exact Nat.ne_of_lt below)

theorem descend_yields (before : scanner.Before depth word bound) :
    Yields (fun _ inner => depth < nestingLimit ∧
      inner = { scanner with depth := scanner.depth + 1 }) (Scanner.descend scanner) := by
  by_cases below : depth < nestingLimit
  · rw [before.descend below]
    exact ⟨below, rfl⟩
  · have limit : scanner.depth = nestingLimit :=
      before.level.trans (Nat.le_antisymm before.shallow (Nat.le_of_not_lt below))
    rw [scanner.steady.limit limit]
    exact ⟨_, rfl⟩

end Before

end Scanner

/-- What a rule reads from a scanner with the text ahead is a word that fits, whose value is
turned into the result. -/
structure Recognises (nonterminal : Nonterminal) (result : Value → Value)
    (scan : Scan (List Char) Value) (scanner : Scanner (List Char)) (depth : Nat)
    (text : List Char) : Prop where
  complete : ∀ word value rest, text = word ++ rest → Fits nonterminal depth word value rest →
    scan scanner = .ok (result value) (scanner.past word)
  sound : Yields (fun total after => ∃ word value rest, text = word ++ rest ∧
    Fits nonterminal depth word value rest ∧ result value = total ∧ after = scanner.past word)
    (scan scanner)

/-- The rule recognises its words in every text of at most `bound` characters. -/
def RecognisesUpTo (bound : Nat) (nonterminal : Nonterminal) (result : Value → Value)
    (scan : Scan (List Char) Value) : Prop :=
  ∀ scanner depth text, Scanner.Before scanner depth text bound →
    Recognises nonterminal result scan scanner depth text

namespace Numeral

private theorem foldl_appendDigit (digits : List Char) (total : Nat) :
    Int64.ofNat (digits.foldl (fun total digit => 10 * total + (digit.toNat - '0'.toNat)) total) =
      digits.foldl Value.appendDigit (Int64.ofNat total) := by
  induction digits generalizing total with
  | nil => rfl
  | cons digit digits ih =>
    rw [List.foldl_cons, ih, List.foldl_cons, Value.appendDigit, Int64.ofNat_add, Int64.ofNat_mul,
      Int64.mul_comm]
    rfl

private theorem value_of_digits {numeral : Numeral} {first : Char} {rest : List Char}
    (spelled : numeral.digits = first :: rest) :
    Int64.ofNat numeral.toNat = rest.foldl Value.appendDigit (Value.ofDigit first) := by
  rw [toNat, spelled, List.foldl_cons, foldl_appendDigit]
  simp [Value.ofDigit]

private theorem isDigit_of_head {numeral : Numeral} {first : Char} {rest others : List Char}
    (spelled : numeral.digits ++ rest = first :: others) : first.isDigit := by
  rcases numeral.wellFormed with zero | ⟨_, _, digits, _, decimal⟩
  · rw [zero] at spelled
    cases spelled
    rfl
  · rw [digits] at spelled decimal
    cases spelled
    exact decimal _ List.mem_cons_self

private theorem lastDigits_digits (numeral : Numeral) :
    lastDigits numeral.digits = numeral.digits :=
  lastDigits_append (.inl rfl) fun _ => isDigit_of_mem

private theorem takeWhile_of_finished {numeral : Numeral} {first : Char} {more rest : List Char}
    (spelled : numeral.digits = first :: more) (nonzero : first ≠ '0')
    (finished : Finished numeral.digits rest) : (more ++ rest).takeWhile Char.isDigit = more := by
  have decimal : ∀ digit ∈ numeral.digits, digit.isDigit := fun _ => isDigit_of_mem
  rw [List.takeWhile_append_of_pos fun digit member =>
    decimal digit (spelled ▸ List.mem_cons_of_mem _ member)]
  cases rest with
  | nil => simp
  | cons character rest =>
    have other : ¬ character.isDigit := by
      intro isDigit
      have ends := finished character rfl isDigit
      rw [lastDigits_digits, spelled] at ends
      rcases ends with nothing | zero
      · cases nothing
      · exact nonzero (List.cons.inj zero).1
    simp [other]

end Numeral

/-- A digit other than zero begins a numeral of all digits that follow. -/
theorem Fits.ofDigits {first : Char} {depth : Nat} (shallow : depth ≤ nestingLimit)
    (isDigit : first.isDigit) (nonzero : first ≠ '0') (rest : List Char) : ∃ numeral : Numeral,
      numeral.digits = first :: rest.takeWhile Char.isDigit ∧
        Fits .numeral depth numeral.digits (Int64.ofNat numeral.toNat)
          (rest.dropWhile Char.isDigit) := by
  have decimal : ∀ digit ∈ first :: rest.takeWhile Char.isDigit, digit.isDigit :=
    List.forall_mem_cons.mpr ⟨isDigit, fun _ => List.mem_takeWhile_imp⟩
  let numeral : Numeral := ⟨_, .inr ⟨first, _, rfl, nonzero, decimal⟩⟩
  have finished : Finished numeral.digits (rest.dropWhile Char.isDigit) := by
    intro digit ahead more
    have other := List.head?_dropWhile_not Char.isDigit rest
    rw [ahead] at other
    simp [more] at other
  exact ⟨numeral, rfl, Fits.numeral_iff.mpr ⟨numeral, rfl, rfl, shallow, finished⟩⟩

namespace Grammar

open Scanner Script

variable {scanner : Scanner (List Char)} {others : List Char} {bound : Nat}

private theorem digits_ahead {text : List Char} (ahead : scanner.Ahead text) (total : Value) :
    (Call.digits total).scan scanner =
      .ok ((text.takeWhile Char.isDigit).foldl Value.appendDigit total)
        (scanner.past (text.takeWhile Char.isDigit)) := by
  induction text generalizing scanner total with
  | nil =>
    rw [← Call.scan_script, Call.script, scan_look]
    simp only [ahead.lookahead, List.head?_nil]
    rfl
  | cons character text ih =>
    rw [← Call.scan_script, Call.script, scan_look]
    simp only [ahead.lookahead, List.head?_cons]
    by_cases isDigit : character.isDigit
    · simp only [isDigit, if_true]
      rw [scan_consume_ok ahead.consume, scan_call_done, ih ahead.next,
        List.takeWhile_cons_of_pos isDigit]
      rfl
    · simp only [isDigit]
      rw [List.takeWhile_cons_of_neg isDigit]
      rfl

theorem numeral_recognises (bound : Nat) :
    RecognisesUpTo bound .numeral id Call.numeral.scan := by
  intro scanner depth text before
  have ahead := before.toAhead
  rw [← Call.scan_script, Call.script]
  constructor
  · rintro word value rest rfl fits
    obtain ⟨numeral, rfl, rfl, _, finished⟩ := Fits.numeral_iff.mp fits
    rcases numeral.wellFormed with zero | ⟨first, more, spelled, nonzero, decimal⟩
    · rw [zero] at ahead ⊢
      simp only [scan_look, ahead.lookahead, List.cons_append, List.head?_cons, if_true]
      rw [scan_consume_ok ahead.consume, numeral.value_of_digits zero]
      rfl
    · have goesOn := numeral.takeWhile_of_finished spelled nonzero finished
      have isDigit := decimal first (spelled ▸ List.mem_cons_self)
      rw [numeral.value_of_digits spelled]
      rw [spelled, List.cons_append] at ahead
      simp only [scan_look, ahead.lookahead, List.head?_cons, nonzero, if_false, isDigit, if_true]
      rw [scan_consume_ok ahead.consume, scan_call_done, digits_ahead ahead.next, goesOn, spelled]
      rfl
  · cases text with
    | nil =>
      simp only [scan_look, ahead.lookahead, List.head?_nil]
      exact .reject ..
    | cons first rest =>
      simp only [scan_look, ahead.lookahead, List.head?_cons]
      by_cases zero : first = '0'
      · subst zero
        rw [if_pos rfl, scan_consume_ok ahead.consume]
        have finished : Finished ['0'] rest := fun _ _ _ => .inr rfl
        exact ⟨['0'], 0, rest, rfl, Fits.numeral_iff.mpr
          ⟨⟨['0'], .inl rfl⟩, rfl, rfl, before.shallow, finished⟩, rfl, rfl⟩
      · rw [if_neg zero]
        by_cases isDigit : first.isDigit
        · rw [if_pos isDigit, scan_consume_ok ahead.consume, scan_call_done,
            digits_ahead ahead.next]
          obtain ⟨numeral, spelled, fits⟩ := Fits.ofDigits before.shallow isDigit zero rest
          refine ⟨_, _, rest.dropWhile Char.isDigit, ?_, fits, ?_, ?_⟩
          · rw [spelled, List.cons_append, List.takeWhile_append_dropWhile]
          · rw [id, numeral.value_of_digits spelled]
          · rw [spelled]
            rfl
        · rw [if_neg isDigit]
          exact .reject ..

private theorem term_recognises (operands : RecognisesUpTo bound .operand id Call.operand.scan)
    (exponents : RecognisesUpTo bound .exponent id Call.exponent.scan) :
    RecognisesUpTo bound .term id Call.term.scan := by
  intro scanner depth text before
  rw [← Call.scan_script, Call.script]
  constructor
  · rintro word value rest rfl fits
    obtain ⟨head, tail, a, b, rfl, rfl, base, power⟩ := Fits.term_iff.mp fits
    rw [List.append_assoc] at before
    have first := (operands _ _ _ before).complete head a _ rfl base
    have second := (exponents _ _ _ before.past).complete tail b rest rfl power
    rw [scan_call_ok first, scan_call_ok second, past_append]
    rfl
  · refine (operands _ _ _ before).sound.bind ?_
    intro _ _ met
    obtain ⟨head, a, others, rfl, base, rfl, rfl⟩ := met
    refine (exponents _ _ _ before.past).sound.bind ?_
    intro _ _ met
    obtain ⟨tail, b, rest, rfl, power, rfl, rfl⟩ := met
    exact ⟨head ++ tail, a.power b, rest, (List.append_assoc ..).symm,
      Fits.term_iff.mpr ⟨head, tail, a, b, rfl, rfl, base, power⟩, rfl, (past_append ..).symm⟩

/-- The signed terms are recognised one after the other, each added to the total so far. -/
theorem signedTerms_recognises (bound : Nat) (total : Value)
    (terms : ∀ smaller < bound, RecognisesUpTo smaller .term id Call.term.scan) :
    RecognisesUpTo bound .signedTerms (total + ·) (Call.signedTerms total).scan := by
  induction bound using Nat.strongRecOn generalizing total with
  | ind bound ih =>
    intro scanner depth text before
    have others (smaller : Nat) (fewer : smaller < bound) (total : Value) :=
      ih smaller fewer total fun least less => terms least (Nat.lt_trans less fewer)
    -- The rule adds term by term to its total, a word has the sum of all its terms.
    have regroup (sign : Sign) (a b : Value) :
        sign.apply total a + b = total + (sign.apply 0 a + b) := by
      rw [← Int64.add_assoc, sign.apply_zero_add]
    rw [← Call.scan_script, Call.script]
    constructor
    · rintro word value rest rfl fits
      rcases Fits.signedTerms_iff.mp fits with
        ⟨rfl, rfl, _, noSign⟩ | ⟨sign, head, tail, a, b, rfl, rfl, next, further⟩
      · rw [List.nil_append] at before
        simp only [scan_look, before.lookahead, Sign.bind_ofCharacter?_eq_none.mpr noSign]
        rw [Int64.add_zero]
        rfl
      · rw [List.cons_append, List.append_assoc] at before
        obtain ⟨fewer, inside⟩ := before.next
        have present : scanner.lookahead.bind Sign.ofCharacter? = some sign :=
          Sign.bind_ofCharacter?_eq_some.mpr before.lookahead
        have first := (terms _ fewer _ _ _ inside).complete head a _ rfl next
        have second := (others _ fewer (sign.apply total a) _ _ _ inside.past).complete
          tail b rest rfl further
        simp only [scan_look, present]
        rw [scan_consume_ok before.consume, scan_call_ok first, scan_call_done, id, second,
          regroup, ← past_append]
        rfl
    · rw [scan_look]
      cases present : scanner.lookahead.bind Sign.ofCharacter? with
      | none =>
        rw [before.lookahead, Sign.bind_ofCharacter?_eq_none] at present
        exact ⟨[], 0, text, rfl, Fits.signedTerms_iff.mpr (.inl
          ⟨rfl, rfl, before.shallow, present⟩), Int64.add_zero _, rfl⟩
      | some sign =>
        rw [before.lookahead, Sign.bind_ofCharacter?_eq_some] at present
        obtain ⟨text, rfl⟩ := List.head?_eq_some_iff.mp present
        obtain ⟨fewer, inside⟩ := before.next
        dsimp only
        rw [scan_consume_ok before.consume]
        refine (terms _ fewer _ _ _ inside).sound.bind ?_
        intro _ _ met
        obtain ⟨head, a, more, rfl, next, rfl, rfl⟩ := met
        rw [id, scan_call_done]
        refine (others _ fewer (sign.apply total a) _ _ _ inside.past).sound.mono ?_
        intro _ _ met
        obtain ⟨tail, b, rest, rfl, further, rfl, rfl⟩ := met
        exact ⟨sign.character :: (head ++ tail), sign.apply 0 a + b, rest, by simp,
          Fits.signedTerms_iff.mpr (.inr ⟨sign, head, tail, a, b, rfl, rfl, next, further⟩),
          (regroup sign a b).symm, by rw [← past_append]; rfl⟩

private theorem sum_recognises (terms : RecognisesUpTo bound .term id Call.term.scan)
    (others : RecognisesUpTo bound .signedTerms (0 + ·) (Call.signedTerms 0).scan) :
    RecognisesUpTo bound .sum id Call.sum.scan := by
  intro scanner depth text before
  rw [← Call.scan_script, Call.script]
  constructor
  · rintro word value rest rfl fits
    obtain ⟨head, tail, a, b, rfl, rfl, base, power⟩ := Fits.sum_iff.mp fits
    rw [List.append_assoc] at before
    have first := (terms _ _ _ before).complete head a _ rfl base
    have second := (others _ _ _ before.past).complete tail b rest rfl power
    rw [scan_call_ok first, scan_call_ok second, past_append, Int64.zero_add]
    rfl
  · refine (terms _ _ _ before).sound.bind ?_
    intro _ _ met
    obtain ⟨head, a, more, rfl, base, rfl, rfl⟩ := met
    refine (others _ _ _ before.past).sound.bind ?_
    intro _ _ met
    obtain ⟨tail, b, rest, rfl, power, rfl, rfl⟩ := met
    exact ⟨head ++ tail, a + b, rest, (List.append_assoc ..).symm,
      Fits.sum_iff.mpr ⟨head, tail, a, b, rfl, rfl, base, power⟩,
      congrArg (a + ·) (Int64.zero_add b).symm, (past_append ..).symm⟩

theorem exponent_recognises
    (terms : ∀ smaller < bound, RecognisesUpTo smaller .term id Call.term.scan) :
    RecognisesUpTo bound .exponent id Call.exponent.scan := by
  intro scanner depth text before
  rw [← Call.scan_script, Call.script]
  constructor
  · rintro word value rest rfl fits
    rw [scan_look, ← isAt]
    rcases Fits.exponent_iff.mp fits with ⟨rfl, rfl, _, noStar⟩ | ⟨chain, rfl, term⟩
    · have absent : scanner.isAt '*' = false := by
        rw [isAt, before.lookahead]
        simpa using noStar
      rw [absent]
      rfl
    · obtain ⟨_, _, shallow⟩ := term.denotes
      obtain ⟨fewer, afterStar⟩ := before.next
      obtain ⟨fewer', afterStars⟩ := afterStar.next
      have below : depth < nestingLimit := by omega
      have read := (terms _ (Nat.lt_trans fewer' fewer) _ _ _ (afterStars.deeper below)).complete
        chain value rest rfl term
      rw [if_pos (before.isAt_iff.mpr ⟨_, rfl⟩), scan_consume_ok before.consume, scan_look, ← isAt,
        if_pos (afterStar.isAt_iff.mpr ⟨_, rfl⟩), scan_consume_ok afterStar.consume,
        scan_descend_ok (afterStars.descend below), scan_call_ok read, scan_ascend]
      exact congrArg _ (ascend_past _ chain)
  · rw [scan_look, ← isAt]
    by_cases star : scanner.isAt '*'
    · obtain ⟨text, rfl⟩ := before.isAt_iff.mp star
      obtain ⟨fewer, afterStar⟩ := before.next
      rw [if_pos star, scan_consume_ok before.consume, scan_look, ← isAt]
      by_cases secondStar : (scanner.past ['*']).isAt '*'
      · obtain ⟨text, rfl⟩ := afterStar.isAt_iff.mp secondStar
        obtain ⟨fewer', afterStars⟩ := afterStar.next
        rw [if_pos secondStar, scan_consume_ok afterStar.consume]
        refine afterStars.descend_yields.bind ?_
        intro _ _ met
        obtain ⟨below, rfl⟩ := met
        refine (terms _ (Nat.lt_trans fewer' fewer) _ _ _ (afterStars.deeper below)).sound.bind ?_
        intro _ _ met
        obtain ⟨chain, value, rest, rfl, term, rfl, rfl⟩ := met
        exact ⟨'*' :: '*' :: chain, value, rest, rfl,
          Fits.exponent_iff.mpr (.inr ⟨chain, rfl, term⟩), rfl, ascend_past _ chain⟩
      · rw [if_neg secondStar]
        exact .reject ..
    · rw [if_neg star]
      have noStar : text.head? ≠ some '*' := by
        rw [← before.lookahead]
        simpa [isAt] using star
      exact ⟨[], 1, text, rfl, Fits.exponent_iff.mpr (.inl ⟨rfl, rfl, before.shallow, noStar⟩), rfl,
        rfl⟩

private theorem closing_ahead {rest : List Char} (ahead : scanner.Ahead (')' :: rest))
    (opened : Position) (value : Value) :
    (closing opened value : Script rank).scan scanner =
      .ok value (scanner.past [')']).ascend := by
  rw [closing, scan_look, ← isAt, if_pos (ahead.isAt_iff.mpr ⟨rest, rfl⟩),
    scan_consume_ok ahead.consume]
  rfl

/-- An operand is a sum in parentheses, one level deeper, or a numeral. -/
theorem operand_recognises
    (sums : ∀ smaller < bound, RecognisesUpTo smaller .sum id Call.sum.scan) :
    RecognisesUpTo bound .operand id Call.operand.scan := by
  intro scanner depth text before
  let lowered : Scanner (List Char) := { scanner with depth := scanner.depth + 1 }
  have grouped (inside : List Char) : (((lowered.past ['(']).past inside).past [')']).ascend =
      scanner.past ('(' :: (inside ++ [')'])) := by
    rw [← ascend_past scanner, ← past_append, ← past_append]
    rfl
  rw [← Call.scan_script, Call.script]
  constructor
  · rintro word value rest rfl fits
    rw [scan_look, ← isAt]
    rcases Fits.operand_iff.mp fits with ⟨inside, rfl, inner⟩ | numeral
    · obtain ⟨_, _, shallow⟩ := inner.denotes
      have below : depth < nestingLimit := by omega
      rw [List.cons_append, List.append_assoc, List.singleton_append] at before
      have lower := before.deeper below
      obtain ⟨fewer, opened⟩ := lower.next
      have read := (sums _ fewer _ _ _ opened).complete inside value _ rfl inner
      rw [if_pos (before.isAt_iff.mpr ⟨_, rfl⟩), scan_descend_ok (before.descend below),
        scan_consume_ok lower.consume, scan_call_ok read, closing_ahead opened.past.toAhead,
        grouped, id]
    · have noGroup : ¬ scanner.isAt '(' := by
        rw [before.isAt_iff]
        obtain ⟨numeral, rfl, _⟩ := Fits.numeral_iff.mp numeral
        rintro ⟨others, spelled⟩
        have isDigit := Numeral.isDigit_of_head spelled
        cases isDigit
      rw [if_neg noGroup, scan_call_done]
      exact (numeral_recognises bound _ _ _ before).complete word value rest rfl numeral
  · rw [scan_look, ← isAt]
    by_cases group : scanner.isAt '('
    · obtain ⟨text, rfl⟩ := before.isAt_iff.mp group
      rw [if_pos group]
      refine before.descend_yields.bind ?_
      intro _ _ met
      obtain ⟨below, rfl⟩ := met
      have lower := before.deeper below
      obtain ⟨fewer, opened⟩ := lower.next
      rw [scan_consume_ok lower.consume]
      refine (sums _ fewer _ _ _ opened).sound.bind ?_
      intro _ _ met
      obtain ⟨inside, value, others, rfl, inner, rfl, rfl⟩ := met
      by_cases closed : ((lowered.past ['(']).past inside).isAt ')'
      · obtain ⟨rest, rfl⟩ := opened.past.isAt_iff.mp closed
        rw [closing_ahead opened.past.toAhead, grouped]
        exact ⟨'(' :: (inside ++ [')']), value, rest, by simp,
          Fits.operand_iff.mpr (.inl ⟨inside, rfl, inner⟩), rfl, rfl⟩
      · rw [closing, scan_look, ← isAt, if_neg closed]
        exact .reject ..
    · rw [if_neg group, scan_call_done]
      refine (numeral_recognises bound _ _ _ before).sound.mono ?_
      intro _ _ met
      obtain ⟨word, value, rest, rfl, numeral, rfl, rfl⟩ := met
      exact ⟨word, value, rest, rfl, Fits.operand_iff.mpr (.inr numeral), rfl, rfl⟩

private theorem sum_term_recognise (bound : Nat) :
    RecognisesUpTo bound .sum id Call.sum.scan ∧ RecognisesUpTo bound .term id Call.term.scan := by
  induction bound using Nat.strongRecOn with
  | ind bound ih =>
    -- Below an operand or an exponent both rules come back behind a character only.
    have terms : RecognisesUpTo bound .term id Call.term.scan :=
      term_recognises (operand_recognises fun smaller fewer => (ih smaller fewer).1)
        (exponent_recognises fun smaller fewer => (ih smaller fewer).2)
    exact ⟨sum_recognises terms
      (signedTerms_recognises bound 0 fun smaller fewer => (ih smaller fewer).2), terms⟩

end Grammar

def Rule.nonterminal : Rule → Nonterminal
  | sum => .sum
  | signedTerms => .signedTerms
  | term => .term
  | exponent => .exponent
  | operand => .operand
  | numeral => .numeral

theorem Rule.recognises (rule : Rule) (bound : Nat) :
    RecognisesUpTo bound rule.nonterminal id rule.scan := by
  have sums (bound : Nat) := (Grammar.sum_term_recognise bound).1
  have terms (bound : Nat) := (Grammar.sum_term_recognise bound).2
  cases rule with
  | sum => exact sums bound
  | signedTerms =>
    have same : (fun value : Value => 0 + value) = id := funext Int64.zero_add
    exact same ▸ Grammar.signedTerms_recognises bound 0 fun smaller _ => terms smaller
  | term => exact terms bound
  | exponent => exact Grammar.exponent_recognises fun smaller _ => terms smaller
  | operand => exact Grammar.operand_recognises fun smaller _ => sums smaller
  | numeral => exact Grammar.numeral_recognises bound

/-- What a rule promises when it is followed from the scanner. -/
structure RuleContract (rule : Rule) (scanner : Scanner (List Char)) : Prop where
  words : ∀ word, Derives rule.nonterminal word ↔
    ∃ value nesting, Denotes rule.nonterminal word value nesting
  accepts : ∀ value rest, (∃ after, rule.scan scanner = .ok value after ∧ after.pending = rest) ↔
    ∃ word, scanner.pending = word ++ rest ∧ Fits rule.nonterminal scanner.depth word value rest
  unique : ∀ word value rest other value' rest',
    scanner.pending = word ++ rest → Fits rule.nonterminal scanner.depth word value rest →
    scanner.pending = other ++ rest' → Fits rule.nonterminal scanner.depth other value' rest' →
    word = other ∧ value = value'
  leaves : ∀ value after, rule.scan scanner = .ok value after →
    ∃ word, scanner.pending = word ++ after.pending ∧
      Fits rule.nonterminal scanner.depth word value after.pending ∧
      after.position = ⟨scanner.position.line, scanner.position.column + word.length,
        scanner.position.offset + word.length⟩ ∧
      after.depth = scanner.depth
  rejects : (∀ word value rest, scanner.pending = word ++ rest →
      ¬ Fits rule.nonterminal scanner.depth word value rest) →
    ∃ rejection after, rule.scan scanner = .error (.rejected rejection) after

/-- From a scanner that gives account of a text every rule keeps its promise. -/
theorem Accounts.ruleContract {text consumed rest : List Char} {scanner : Scanner (List Char)}
    (accounts : Accounts text consumed rest scanner) (rule : Rule) : RuleContract rule scanner := by
  have ahead : scanner.Ahead rest := ⟨accounts.lookahead, accounts.source⟩
  have recognises := rule.recognises rest.length scanner scanner.depth rest
    ⟨ahead, rfl, accounts.depth, Nat.le_refl _⟩
  rw [← ahead.pending] at recognises ahead
  have left (word rest : List Char) (spelled : scanner.pending = word ++ rest) :
      (scanner.past word).pending = rest :=
    (spelled ▸ ahead : scanner.Ahead (word ++ rest)).past.pending
  have leaves (value : Value) (after : Scanner (List Char))
      (success : rule.scan scanner = .ok value after) :
      ∃ word, scanner.pending = word ++ after.pending ∧
        Fits rule.nonterminal scanner.depth word value after.pending ∧
        after = scanner.past word := by
    have sound := recognises.sound
    rw [success] at sound
    obtain ⟨word, value, rest, spelled, fits, rfl, rfl⟩ := sound
    rw [left word rest spelled]
    exact ⟨word, spelled, fits, rfl⟩
  refine ⟨fun _ => Denotes.derives_iff, ?_, ?_, ?_, ?_⟩
  · intro value rest
    constructor
    · rintro ⟨after, success, rfl⟩
      obtain ⟨word, spelled, fits, _⟩ := leaves value after success
      exact ⟨word, spelled, fits⟩
    · rintro ⟨word, spelled, fits⟩
      exact ⟨_, recognises.complete word value rest spelled fits, left word rest spelled⟩
  · intro word value rest other value' rest' spelled fits spelled' fits'
    have success := recognises.complete word value rest spelled fits
    rw [recognises.complete other value' rest' spelled' fits'] at success
    injection success with value same
    have behind : rest' = rest := by
      rw [← left other rest' spelled', same, left word rest spelled]
    rw [spelled, behind] at spelled'
    exact ⟨List.append_cancel_right spelled', value.symm⟩
  · intro value after success
    obtain ⟨word, spelled, fits, passed⟩ := leaves value after success
    refine ⟨word, spelled, fits, ?_, ?_⟩
    · obtain ⟨_, denotes, _⟩ := fits.denotes
      rw [passed, Scanner.past_position, Position.afterAll_inAlphabet denotes.inAlphabet]
    · rw [passed, Scanner.past_depth]
  · intro none
    have sound := recognises.sound
    cases outcome : rule.scan scanner with
    | ok value after =>
      obtain ⟨word, spelled, fits, _⟩ := leaves value after outcome
      exact absurd fits (none word value after.pending spelled)
    | error error after =>
      rw [outcome] at sound
      obtain ⟨rejection, rfl⟩ := sound
      exact ⟨rejection, after, rfl⟩

/-- Followed from any scanner that can come about, whatever was done before, each rule
recognises exactly the words that fit. -/
theorem rule_contract (text : String) (operations : List Operation) (rule : Rule) :
    ∃ origin, Scanner.ofSource text.toList = .ok origin ∧
      (origin.after operations).depth ≤ nestingLimit ∧
      RuleContract rule (origin.after operations) := by
  refine ⟨_, Scanner.ofSource_text _, ?_⟩
  obtain ⟨consumed, leads⟩ := (Scanner.ofText text.toList).leads_after operations
  obtain ⟨rest, accounts⟩ := leads.accounts (.ofText text.toList)
  exact ⟨accounts.depth, accounts.ruleContract rule⟩

end Reckon
