import Mathlib.Algebra.Ring.Nat
import Reckon.Proofs.Draft

/-! How deep a draft is nested. What is open at the moment is its live depth; the
deepest that it has been on the way is its nesting, and for a complete expression
that is the nesting of its tree. -/

namespace Reckon

namespace Layer

/-- The nesting of the layer when its current term ends in something nested `inner`
levels deep. -/
def nesting (layer : Layer) (inner : Nat) : Nat :=
  let front := match layer.front with
    | none => 0
    | some (front, _) => front.nesting
  max front (layer.bases.foldl (fun inner base => max base.nesting (inner + 1)) inner)

private theorem nesting_raise (layer : Layer) (base : Tree .operand) (inner : Nat) :
    (layer.raise base).nesting inner = layer.nesting (max base.nesting (inner + 1)) := rfl

theorem nesting_close (layer : Layer) (term : Tree .term) :
    (layer.close term).nesting = layer.nesting term.nesting := by
  rcases layer with ⟨front, bases⟩
  induction bases generalizing term with
  | nil => rcases front with _ | ⟨front, sign⟩ <;> simp [close, nesting, Tree.nesting]
  | cons base bases ih =>
    have inner := ih (.power base term)
    rw [← close_raise, Tree.nesting, ← nesting_raise] at inner
    exact inner

/-- Depth inside a layer counts once the exponents around it are added to it. -/
theorem nesting_eq_max (layer : Layer) (inner : Nat) :
    layer.nesting inner = max (layer.nesting 0) (inner + layer.bases.length) := by
  rcases layer with ⟨front, bases⟩
  induction bases generalizing inner with
  | nil => simp [nesting]
  | cons base bases ih =>
    have raised (inner : Nat) : nesting ⟨front, base :: bases⟩ inner =
        nesting ⟨front, bases⟩ (max base.nesting (inner + 1)) := rfl
    have here := ih (max base.nesting (inner + 1))
    have least := ih (max base.nesting (0 + 1))
    rw [← raised] at here least
    simp only [List.length_cons] at here least ⊢
    omega

end Layer

def Stage.nesting : Stage → Nat
  | awaiting => 0
  | read operand => operand.nesting
  | starred operand => operand.nesting

namespace Draft

/-- The levels that are open: one for every group and one for every exponent that has
not ended. -/
def live (draft : Draft) : Nat :=
  draft.layer.bases.length + (draft.outer.map fun layer => layer.bases.length + 1).sum

/-- The nesting of the completed expression when what comes next in `layer` is nested
`inner` deep, and nothing else is nested at all. -/
def nestingWith (layer : Layer) (outer : List Layer) (inner : Nat) : Nat :=
  outer.foldl (fun inner enclosing => enclosing.nesting (inner + 1)) (layer.nesting inner)

/-- The least nesting that the completed expression can have. -/
def nesting (draft : Draft) : Nat := nestingWith draft.layer draft.outer draft.stage.nesting

theorem nestingWith_eq_max (layer : Layer) (outer : List Layer) (stage : Stage) (inner : Nat) :
    nestingWith layer outer inner =
      max (nestingWith layer outer 0) (inner + live ⟨layer, outer, stage⟩) := by
  induction outer generalizing layer inner with
  | nil => simpa [nestingWith, live] using layer.nesting_eq_max inner
  | cons enclosing outer ih =>
    have around (inner : Nat) : nestingWith layer (enclosing :: outer) inner =
        nestingWith enclosing outer (layer.nesting inner + 1) := rfl
    have here := ih enclosing (layer.nesting inner + 1)
    have least := ih enclosing (layer.nesting 0 + 1)
    rw [← around] at here least
    have depth := layer.nesting_eq_max inner
    simp only [live, List.map_cons, List.sum_cons] at here least ⊢
    omega

theorem live_le_nesting (draft : Draft) : draft.live ≤ draft.nesting := by
  rcases draft with ⟨layer, outer, stage⟩
  have total := nestingWith_eq_max layer outer stage stage.nesting
  simp only [nesting]
  omega

theorem live_opened (current : Layer) (around : List Layer) :
    live ⟨.empty, current :: around, .awaiting⟩ = live ⟨current, around, .awaiting⟩ + 1 := by
  simp only [live, Layer.empty, List.map_cons, List.sum_cons, List.length_nil]
  omega

theorem live_raised (current : Layer) (around : List Layer) (operand : Tree .operand) :
    live ⟨current.raise operand, around, .awaiting⟩ =
      live ⟨current, around, .starred operand⟩ + 1 := by
  simp only [live, Layer.raise, List.length_cons]
  omega

theorem nesting_of_tree? {draft : Draft} {tree : Tree .sum} (complete : draft.tree? = some tree) :
    draft.nesting = tree.nesting := by
  rcases draft with ⟨layer, _ | ⟨_, _⟩, _ | operand | _⟩ <;> simp only [tree?] at complete <;>
    cases complete
  rw [Layer.nesting_close]
  rfl

theorem Step.live_cases (step : Step draft character after) :
    after.live ≤ draft.live ∨ after.live = draft.live + 1 ∧
      (character = '(' ∨ character = '*' ∧ ∃ operand, draft.stage = .starred operand) := by
  cases step with
  | opening ahead => exact .inr ⟨live_opened .., .inl ahead⟩
  | secondStar ahead => exact .inr ⟨live_raised .., .inr ⟨ahead, _, rfl⟩⟩
  | digit => exact .inl (Nat.le_refl _)
  | further => exact .inl (Nat.le_refl _)
  | star => exact .inl (Nat.le_refl _)
  | sign => exact .inl (by simp [live])
  | closing => exact .inl (by simp [live]; omega)

/-- The nesting of a draft is the greatest live depth on the way to it. -/
theorem Step.nesting (step : Step draft character after) :
    after.nesting = max draft.nesting after.live := by
  -- What is closed keeps its nesting, in the operand that it becomes.
  have within := after.live_le_nesting
  have before := draft.live_le_nesting
  cases step with
  | digit => exact (Nat.max_eq_left before).symm
  | further => exact (Nat.max_eq_left before).symm
  | star => exact (Nat.max_eq_left before).symm
  | @opening _ current around =>
    have begun : Draft.nesting ⟨.empty, current :: around, .awaiting⟩ =
        nestingWith current around 1 := rfl
    have least : Draft.nesting ⟨current, around, .awaiting⟩ = nestingWith current around 0 := rfl
    have total := nestingWith_eq_max current around .awaiting 1
    have deeper := live_opened current around
    omega
  | @secondStar _ current around operand =>
    have begun : Draft.nesting ⟨current.raise operand, around, .awaiting⟩ =
        nestingWith current around (max operand.nesting 1) := rfl
    have least : Draft.nesting ⟨current, around, .starred operand⟩ =
        nestingWith current around operand.nesting := rfl
    have total := nestingWith_eq_max current around (.starred operand) (max operand.nesting 1)
    have total' := nestingWith_eq_max current around (.starred operand) operand.nesting
    have deeper := live_raised current around operand
    omega
  | @sign _ sign current around operand =>
    have begun : Draft.nesting ⟨⟨some (current.close (.plain operand), sign), []⟩, around,
        .awaiting⟩ = Draft.nesting ⟨current, around, .read operand⟩ := by
      simp [Draft.nesting, nestingWith, Layer.nesting, Layer.nesting_close, Stage.nesting,
        Tree.nesting]
    omega
  | @closing _ current enclosing around operand =>
    have ended : Draft.nesting
        ⟨enclosing, around, .read (.group (current.close (.plain operand)))⟩ =
        Draft.nesting ⟨current, enclosing :: around, .read operand⟩ := by
      simp [Draft.nesting, nestingWith, Layer.nesting_close, Stage.nesting, Tree.nesting]
    omega

theorem Reads.nesting_le (reads : Reads draft characters after) :
    draft.nesting ≤ after.nesting := by
  induction reads with
  | done => exact Nat.le_refl _
  | step first _ ih => exact Nat.le_trans (first.nesting ▸ Nat.le_max_left ..) ih

/-- On the way past a limit there is a first character that goes past it, by one level. -/
theorem Reads.crossing {limit : Nat} (reads : Reads draft characters after)
    (within : draft.nesting ≤ limit) (deep : limit < after.nesting) :
    ∃ front character back middle next, characters = front ++ character :: back ∧
      Reads draft front middle ∧ middle.nesting ≤ limit ∧ Step middle character next ∧
      next.live = limit + 1 := by
  induction reads with
  | done => exact absurd deep (Nat.not_lt_of_le within)
  | @step draft character middle characters _ first rest ih =>
    by_cases further : middle.nesting ≤ limit
    · obtain ⟨front, last, back, before, next, spelled, reads, bound, step, live⟩ := ih further deep
      exact ⟨character :: front, last, back, before, next, by rw [spelled]; rfl,
        .step first reads, bound, step, live⟩
    · refine ⟨[], character, characters, draft, middle, rfl, .done, within, first, ?_⟩
      have grown := first.nesting
      have before := draft.live_le_nesting
      have slow := first.live_cases
      omega

end Draft

end Reckon
