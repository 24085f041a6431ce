import Reckon.Expression.Tree

/-! Expressions of which only the front has been read. A draft holds what was read
as trees: the layers that are still open, and in the innermost of them the sum and
the chain of exponents that have been left unfinished. -/

namespace Reckon

namespace Sign

private theorem character_injective {first second : Sign}
    (same : first.character = second.character) : first = second := by
  cases first <;> cases second <;> first | rfl | exact absurd same (by decide)

theorem character_distinct (sign : Sign) :
    sign.character ≠ '*' ∧ sign.character ≠ ')' ∧ sign.character.isDigit = false := by
  cases sign <;> decide

theorem ofCharacter?_eq_some {character : Char} {sign : Sign} :
    ofCharacter? character = some sign ↔ character = sign.character := by
  constructor
  · intro found
    unfold ofCharacter? at found
    split at found <;> cases found <;> rfl
  · rintro rfl
    cases sign <;> rfl

end Sign

namespace Numeral

theorem eq_of_digits {first second : Numeral} (same : first.digits = second.digits) :
    first = second := by
  cases first
  cases second
  cases same
  rfl

theorem isDigit_of_mem {numeral : Numeral} {digit : Char} (member : digit ∈ numeral.digits) :
    digit.isDigit := by
  rcases numeral.wellFormed with zero | ⟨_, _, _, _, decimal⟩
  · rw [zero] at member
    rw [List.mem_singleton.mp member]
    rfl
  · exact decimal digit member

def ofDigit (digit : Char) (isDigit : digit.isDigit) : Numeral where
  digits := [digit]
  wellFormed := by
    by_cases zero : digit = '0'
    · exact .inl (by rw [zero])
    · exact .inr ⟨digit, [], rfl, zero, by simpa using isDigit⟩

def append (numeral : Numeral) (digit : Char) (nonzero : numeral.digits ≠ ['0'])
    (isDigit : digit.isDigit) : Numeral where
  digits := numeral.digits ++ [digit]
  wellFormed := by
    rcases numeral.wellFormed with zero | ⟨first, rest, spelled, leading, decimal⟩
    · exact absurd zero nonzero
    · refine .inr ⟨first, rest ++ [digit], by rw [spelled]; rfl, leading, ?_⟩
      intro other member
      rcases List.mem_append.mp member with earlier | last
      · exact decimal other earlier
      · rw [List.mem_singleton.mp last]
        exact isDigit

theorem append_nonzero (numeral : Numeral) (digit : Char) (nonzero : numeral.digits ≠ ['0'])
    (isDigit : digit.isDigit) : (numeral.append digit nonzero isDigit).digits ≠ ['0'] := by
  intro zero
  have length := congrArg List.length zero
  rcases numeral.wellFormed with zero | ⟨first, rest, spelled, _, _⟩
  · exact nonzero zero
  · simp [append, spelled] at length

end Numeral

def InAlphabet (character : Char) : Prop :=
  character.isDigit ∨ character ∈ ['+', '-', '*', '(', ')']

theorem InAlphabet.ne_lineFeed {character : Char} (known : InAlphabet character) :
    character ≠ '\n' := by
  rintro rfl
  rcases known with digit | listed
  · exact absurd digit (by decide)
  · exact absurd listed (by decide)

theorem InAlphabet.utf8Size {character : Char} (known : InAlphabet character) :
    character.utf8Size = 1 := by
  rcases known with digit | listed
  · rw [Char.utf8Size_eq_one_iff]
    simp only [Char.isDigit, Bool.and_eq_true, decide_eq_true_eq] at digit
    exact UInt32.le_trans digit.2 (by decide)
  · simp only [List.mem_cons, List.not_mem_nil, or_false] at listed
    rcases listed with rfl | rfl | rfl | rfl | rfl <;> rfl

/-- One open layer: the sum in front of the current term with the sign that joins
them, and the bases in that term whose exponents have not ended, the latest first. -/
structure Layer where
  front : Option (Tree .sum × Sign)
  bases : List (Tree .operand)

namespace Layer

def empty : Layer := ⟨none, []⟩

/-- The layer once `base` turned out to have an exponent. -/
def raise (layer : Layer) (base : Tree .operand) : Layer :=
  { layer with bases := base :: layer.bases }

def close (layer : Layer) (term : Tree .term) : Tree .sum :=
  let whole := layer.bases.foldl (fun exponent base => .power base exponent) term
  match layer.front with
  | none => .single whole
  | some (front, sign) => .signed front sign whole

theorem close_raise (layer : Layer) (base : Tree .operand) (exponent : Tree .term) :
    (layer.raise base).close exponent = layer.close (.power base exponent) := rfl

def text (layer : Layer) : List Char :=
  let front := match layer.front with
    | none => []
    | some (front, sign) => front.text ++ [sign.character]
  layer.bases.foldr (fun base before => before ++ base.text ++ ['*', '*']) front

theorem text_raise (layer : Layer) (base : Tree .operand) :
    (layer.raise base).text = layer.text ++ base.text ++ ['*', '*'] := rfl

theorem close_text (layer : Layer) (term : Tree .term) :
    (layer.close term).text = layer.text ++ term.text := by
  rcases layer with ⟨front, bases⟩
  induction bases generalizing term with
  | nil => rcases front with _ | ⟨front, sign⟩ <;> simp [close, text, Tree.text]
  | cons base bases ih =>
    have inner := ih (.power base term)
    rw [← close_raise] at inner
    simpa [raise, text, Tree.text] using inner

end Layer

/-- Where a draft stops: before an operand, after one, or after the first star
behind one. -/
inductive Stage where
  | awaiting
  | read (operand : Tree .operand)
  | starred (operand : Tree .operand)

def Stage.text : Stage → List Char
  | awaiting => []
  | read operand => operand.text
  | starred operand => operand.text ++ ['*']

/-- The layers around the innermost one have it inside a group, the nearest first. -/
structure Draft where
  layer : Layer
  outer : List Layer
  stage : Stage

namespace Draft

def blank : Draft := ⟨.empty, [], .awaiting⟩

/-- What was read before the innermost layer, its parenthesis included. -/
def enclosingText : List Layer → List Char
  | [] => []
  | layer :: outer => enclosingText outer ++ layer.text ++ ['(']

def text (draft : Draft) : List Char :=
  enclosingText draft.outer ++ draft.layer.text ++ draft.stage.text

/-- The expression that was read, if it can end here. -/
def tree? : Draft → Option (Tree .sum)
  | ⟨layer, [], .read operand⟩ => some (layer.close (.plain operand))
  | _ => none

@[simp] theorem tree?_awaiting (layer : Layer) (outer : List Layer) :
    tree? ⟨layer, outer, .awaiting⟩ = none := by
  cases outer <;> rfl

@[simp] theorem tree?_starred (layer : Layer) (outer : List Layer) (operand : Tree .operand) :
    tree? ⟨layer, outer, .starred operand⟩ = none := by
  cases outer <;> rfl

theorem tree?_text {draft : Draft} {tree : Tree .sum} (complete : draft.tree? = some tree) :
    tree.text = draft.text := by
  rcases draft with ⟨layer, _ | ⟨_, _⟩, _ | operand | _⟩ <;> simp only [tree?] at complete <;>
    cases complete
  simp [Layer.close_text, text, enclosingText, Stage.text, Tree.text]

inductive Step : Draft → Char → Draft → Prop where
  | opening (ahead : character = '(') :
      Step ⟨current, around, .awaiting⟩ character ⟨.empty, current :: around, .awaiting⟩
  | digit (isDigit : character.isDigit) :
      Step ⟨current, around, .awaiting⟩ character
        ⟨current, around, .read (.numeral (.ofDigit character isDigit))⟩
  | further (nonzero : numeral.digits ≠ ['0']) (isDigit : character.isDigit) :
      Step ⟨current, around, .read (.numeral numeral)⟩ character
        ⟨current, around, .read (.numeral (numeral.append character nonzero isDigit))⟩
  | star (ahead : character = '*') :
      Step ⟨current, around, .read operand⟩ character ⟨current, around, .starred operand⟩
  | secondStar (ahead : character = '*') :
      Step ⟨current, around, .starred operand⟩ character ⟨current.raise operand, around, .awaiting⟩
  | sign (ahead : character = Sign.character sign) :
      Step ⟨current, around, .read operand⟩ character
        ⟨⟨some (current.close (.plain operand), sign), []⟩, around, .awaiting⟩
  | closing (ahead : character = ')') :
      Step ⟨current, enclosing :: around, .read operand⟩ character
        ⟨enclosing, around, .read (.group (current.close (.plain operand)))⟩

namespace Step

theorem text (step : Step draft character after) : after.text = draft.text ++ [character] := by
  cases step with
  | closing ahead =>
    simp [Draft.text, enclosingText, Stage.text, Tree.text, Layer.close_text, ahead]
  | sign ahead =>
    simp [Draft.text, Layer.text, Stage.text, Tree.text, Layer.close_text, ahead]
  | secondStar ahead => simp [Draft.text, Layer.text_raise, Stage.text, ahead]
  | opening ahead => simp [Draft.text, enclosingText, Layer.text, Layer.empty, Stage.text, ahead]
  | digit => simp [Draft.text, Stage.text, Tree.text, Numeral.ofDigit]
  | further => simp [Draft.text, Stage.text, Tree.text, Numeral.append]
  | star ahead => simp [Draft.text, Stage.text, ahead]

theorem unique (first : Step draft character after) (second : Step draft character other) :
    after = other := by
  cases first with
  | opening ahead =>
    cases second with
    | opening => rfl
    | digit isDigit => simp [ahead] at isDigit
  | digit isDigit =>
    cases second with
    | opening ahead => simp [ahead] at isDigit
    | digit => rfl
  | further nonzero isDigit =>
    cases second with
    | further => rfl
    | star ahead => simp [ahead] at isDigit
    | sign ahead => simp [ahead, Sign.character_distinct] at isDigit
    | closing ahead => simp [ahead] at isDigit
  | star ahead =>
    cases second with
    | further nonzero isDigit => simp [ahead] at isDigit
    | star => rfl
    | sign same => exact absurd (same.symm.trans ahead) (Sign.character_distinct _).1
    | closing same => exact absurd (same.symm.trans ahead) (by decide)
  | secondStar =>
    cases second with
    | secondStar => rfl
  | sign ahead =>
    cases second with
    | further nonzero isDigit => simp [ahead, Sign.character_distinct] at isDigit
    | star same => exact absurd (ahead.symm.trans same) (Sign.character_distinct _).1
    | sign same => rw [Sign.character_injective (ahead.symm.trans same)]
    | closing same => exact absurd (ahead.symm.trans same) (Sign.character_distinct _).2.1
  | closing ahead =>
    cases second with
    | further nonzero isDigit => simp [ahead] at isDigit
    | star same => exact absurd (same.symm.trans ahead) (by decide)
    | sign same => exact absurd (same.symm.trans ahead) (Sign.character_distinct _).2.1
    | closing => rfl

theorem inAlphabet (step : Step draft character after) : InAlphabet character := by
  cases step with
  | digit isDigit => exact .inl isDigit
  | further _ isDigit => exact .inl isDigit
  | opening ahead => exact .inr (by simp [ahead])
  | star ahead => exact .inr (by simp [ahead])
  | secondStar ahead => exact .inr (by simp [ahead])
  | closing ahead => exact .inr (by simp [ahead])
  | @sign _ sign _ _ _ ahead => cases sign <;> exact .inr (by simp [ahead, Sign.character])

end Step

inductive Reads : Draft → List Char → Draft → Prop where
  | done : Reads draft [] draft
  | step (first : Step draft character middle) (rest : Reads middle characters after) :
      Reads draft (character :: characters) after

namespace Reads

theorem trans (first : Reads draft characters middle) (second : Reads middle others after) :
    Reads draft (characters ++ others) after := by
  induction first with
  | done => exact second
  | step head _ ih => exact .step head (ih second)

theorem concat (first : Reads draft characters middle) (last : Step middle character after) :
    Reads draft (characters ++ [character]) after :=
  first.trans (.step last .done)

theorem text (reads : Reads draft characters after) : after.text = draft.text ++ characters := by
  induction reads with
  | done => simp
  | step head _ ih => rw [ih, head.text, List.append_assoc, List.singleton_append]

theorem unique (first : Reads draft characters after) (second : Reads draft characters other) :
    after = other := by
  induction first with
  | done =>
    cases second
    rfl
  | step head _ ih =>
    cases second with
    | step head' rest =>
      rw [← head.unique head'] at rest
      exact ih rest

theorem split {characters others : List Char} (reads : Reads draft (characters ++ others) after) :
    ∃ middle, Reads draft characters middle ∧ Reads middle others after := by
  induction characters generalizing draft with
  | nil => exact ⟨draft, .done, reads⟩
  | cons character characters ih =>
    cases reads with
    | step head rest =>
      obtain ⟨middle, front, back⟩ := ih rest
      exact ⟨middle, .step head front, back⟩

theorem inAlphabet (reads : Reads draft characters after) :
    ∀ character ∈ characters, InAlphabet character := by
  induction reads with
  | done => simp
  | step head _ ih =>
    intro character member
    rcases List.mem_cons.mp member with same | later
    · exact same ▸ head.inAlphabet
    · exact ih character later

private theorem digits (numeral longer : Numeral) (more : List Char)
    (nonzero : numeral.digits ≠ ['0'])
    (decimal : ∀ digit ∈ more, digit.isDigit) (spelled : longer.digits = numeral.digits ++ more) :
    Reads ⟨current, around, .read (.numeral numeral)⟩ more
      ⟨current, around, .read (.numeral longer)⟩ := by
  induction more generalizing numeral with
  | nil =>
    rw [Numeral.eq_of_digits (spelled.trans (List.append_nil _))]
    exact .done
  | cons digit more ih =>
    have isDigit := decimal digit List.mem_cons_self
    have nonzero' := numeral.append_nonzero digit nonzero isDigit
    refine .step (.further nonzero isDigit) (ih _ nonzero' ?_ ?_)
    · exact fun other member => decimal other (List.mem_cons_of_mem _ member)
    · simp [spelled, Numeral.append]

private theorem numeral (numeral : Numeral) :
    Reads ⟨current, around, .awaiting⟩ numeral.digits
      ⟨current, around, .read (.numeral numeral)⟩ := by
  have decimal : ∀ digit ∈ numeral.digits, digit.isDigit := fun _ => Numeral.isDigit_of_mem
  rcases numeral.wellFormed with zero | ⟨first, rest, spelled, leading, _⟩
  · have same : numeral = .ofDigit '0' rfl := Numeral.eq_of_digits zero
    rw [same]
    exact .step (.digit rfl) .done
  · rw [spelled] at decimal ⊢
    refine .step (.digit (decimal first List.mem_cons_self)) (digits _ _ rest ?_ ?_ ?_)
    · simpa [Numeral.ofDigit] using leading
    · exact fun digit member => decimal digit (List.mem_cons_of_mem _ member)
    · simp [spelled, Numeral.ofDigit]

end Reads

mutual

theorem reads_operand : (tree : Tree .operand) → ∀ current around,
    Reads ⟨current, around, .awaiting⟩ tree.text ⟨current, around, .read tree⟩
  | .numeral numeral, _, _ => Reads.numeral numeral
  | .group inner, current, around => by
    obtain ⟨layer, operand, reads, closed⟩ := reads_sum inner (current :: around)
    have whole := (Reads.step (.opening rfl) reads).concat (.closing rfl)
    rwa [closed] at whole

/-- Once a term has been read, ending the layer with its last operand is ending the
layer it started in with all of it. -/
theorem reads_term : (tree : Tree .term) → ∀ current around, ∃ layer operand,
    Reads ⟨current, around, .awaiting⟩ tree.text ⟨layer, around, .read operand⟩ ∧
      layer.close (.plain operand) = current.close tree
  | .plain base, current, around => ⟨current, base, reads_operand base current around, rfl⟩
  | .power base exponent, current, around => by
    obtain ⟨layer, operand, reads, closed⟩ := reads_term exponent (current.raise base) around
    refine ⟨layer, operand, ?_, closed⟩
    have stars := Reads.step (.star rfl) (.step (.secondStar rfl) reads)
    exact (reads_operand base current around).trans stars

theorem reads_sum : (tree : Tree .sum) → ∀ around, ∃ layer operand,
    Reads ⟨.empty, around, .awaiting⟩ tree.text ⟨layer, around, .read operand⟩ ∧
      layer.close (.plain operand) = tree
  | .single term, around => reads_term term .empty around
  | .signed front sign term, around => by
    obtain ⟨layer, operand, reads, closed⟩ := reads_sum front around
    obtain ⟨last, final, reads', closed'⟩ := reads_term term ⟨some (front, sign), []⟩ around
    refine ⟨last, final, ?_, closed'⟩
    have signed : Step ⟨layer, around, .read operand⟩ sign.character
        ⟨⟨some (layer.close (.plain operand), sign), []⟩, around, .awaiting⟩ := .sign rfl
    rw [closed] at signed
    exact reads.trans (.step signed reads')

end

theorem reads_tree (tree : Tree .sum) :
    ∃ draft, Reads blank tree.text draft ∧ draft.tree? = some tree := by
  obtain ⟨layer, operand, reads, closed⟩ := reads_sum tree []
  exact ⟨_, reads, by rw [tree?, closed]⟩

end Draft

/-- No text is that of two expressions. -/
theorem Tree.eq_of_text {first second : Tree .sum} (same : first.text = second.text) :
    first = second := by
  obtain ⟨draft, reads, complete⟩ := Draft.reads_tree first
  obtain ⟨other, reads', complete'⟩ := Draft.reads_tree second
  rw [← same] at reads'
  rw [← reads.unique reads', complete] at complete'
  exact Option.some.inj complete'

namespace Draft

private theorem completion_of_read (current : Layer) (around : List Layer)
    (operand : Tree .operand) : ∃ characters after tree,
      Reads ⟨current, around, .read operand⟩ characters after ∧ after.tree? = some tree := by
  induction around generalizing current operand with
  | nil => exact ⟨[], _, _, .done, rfl⟩
  | cons enclosing around ih =>
    obtain ⟨characters, after, tree, reads, complete⟩ :=
      ih enclosing (.group (current.close (.plain operand)))
    exact ⟨')' :: characters, after, tree, .step (.closing rfl) reads, complete⟩

/-- Whatever has been read can be completed. -/
theorem completion (draft : Draft) : ∃ characters after tree,
    Reads draft characters after ∧ after.tree? = some tree := by
  -- Wherever an operand is awaited, a zero will do.
  have afterZero (current : Layer) (around : List Layer) : ∃ characters after tree,
      Reads ⟨current, around, .awaiting⟩ characters after ∧ after.tree? = some tree := by
    obtain ⟨characters, after, tree, reads, complete⟩ := completion_of_read current around
      (.numeral (.ofDigit '0' rfl))
    exact ⟨'0' :: characters, after, tree, .step (.digit rfl) reads, complete⟩
  rcases draft with ⟨current, around, _ | operand | operand⟩
  · exact afterZero current around
  · exact completion_of_read current around operand
  · obtain ⟨characters, after, tree, reads, complete⟩ := afterZero (current.raise operand) around
    exact ⟨'*' :: characters, after, tree, .step (.secondStar rfl) reads, complete⟩

end Draft

end Reckon
