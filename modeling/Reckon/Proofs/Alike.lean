import Reckon.Expression.Evaluate
import Reckon.Expression.Script

/-! Evaluation sees nothing of its source but the answers. Two sources that answer alike,
read after read, are evaluated to the same result with the same log, whatever they are
made of. -/

namespace Reckon

variable {σ τ ε α : Type} {related : σ → τ → Prop}

/-- Two steps come out alike: with the same value or the same error, in related states. -/
inductive Alike (related : σ → τ → Prop) :
    EStateM.Result ε σ α → EStateM.Result ε τ α → Prop where
  | ok (value : α) (states : related state twin) : Alike related (.ok value state) (.ok value twin)
  | error (error : ε) (states : related state twin) :
      Alike related (.error error state) (.error error twin)

namespace Alike

variable {result : EStateM.Result ε τ α} {state : σ}

private theorem of_ok {value : α} (alike : Alike related (.ok value state) result) :
    ∃ twin, result = .ok value twin ∧ related state twin := by
  cases alike with
  | ok value states => exact ⟨_, rfl, states⟩

private theorem of_error {error : ε} (alike : Alike related (.error error state) result) :
    ∃ twin, result = .error error twin ∧ related state twin := by
  cases alike with
  | error error states => exact ⟨_, rfl, states⟩

end Alike

inductive Twins (related : σ → τ → Prop) : Scanner σ → Scanner τ → Prop where
  | sharing (sources : related source twin) : Twins related
      ⟨source, lookahead, position, depth, events⟩ ⟨twin, lookahead, position, depth, events⟩

private theorem Twins.descend {scanner : Scanner σ} {twin : Scanner τ}
    (twins : Twins related scanner twin) :
    Alike (Twins related) (Scanner.descend scanner) (Scanner.descend twin) := by
  cases twins with
  | sharing sources =>
    unfold Scanner.descend
    split
    · exact .error _ (.sharing sources)
    · exact .ok () (.sharing sources)

variable [CharStream σ] [CharStream τ]

/-- Related sources answer the next read alike, and are related afterwards. -/
def AnswersAlike (related : σ → τ → Prop) : Prop :=
  ∀ source twin, related source twin → Alike related (CharStream.next source) (CharStream.next twin)

private theorem Twins.consume (answers : AnswersAlike related) (expected : Char)
    {scanner : Scanner σ} {twin : Scanner τ} (twins : Twins related scanner twin) :
    Alike (Twins related) (Scanner.consume expected scanner) (Scanner.consume expected twin) := by
  cases twins with
  | @sharing source sourceTwin _ _ _ _ sources =>
    unfold Scanner.consume Scanner.isAt
    dsimp only
    split
    · have alike := answers source sourceTwin sources
      generalize CharStream.next source = answer, CharStream.next sourceTwin = answer' at alike ⊢
      cases alike with
      | ok lookahead states => exact .ok () (.sharing states)
      | error error states => exact .error _ (.sharing states)
    · exact .error _ (.sharing sources)

namespace Script

/-- What runs from a scanner runs from its twin as well, and comes out alike. -/
theorem Runs.alike (answers : AnswersAlike related) {script : Script rank} {scanner : Scanner σ}
    {twin : Scanner τ} {result : EStateM.Result EvaluationError (Scanner σ) Value}
    (runs : Runs script scanner result) (twins : Twins related scanner twin) :
    Alike (Twins related) result (script.scan twin) := by
  induction runs generalizing twin with
  | done => exact .ok _ twins
  | reject =>
    cases twins with
    | sharing sources => exact .error _ (.sharing sources)
  | look _ ih =>
    cases twins with
    | sharing sources => exact ih (.sharing sources)
  | consumed success _ ih =>
    obtain ⟨_, success', twins⟩ := (success ▸ twins.consume answers _).of_ok
    rw [scan_consume_ok success']
    exact ih twins
  | refused failure =>
    obtain ⟨_, failure', twins⟩ := (failure ▸ twins.consume answers _).of_error
    rw [scan_consume_error failure']
    exact .error _ twins
  | descended success _ ih =>
    obtain ⟨_, success', twins⟩ := (success ▸ twins.descend).of_ok
    rw [scan_descend_ok success']
    exact ih twins
  | limited failure =>
    obtain ⟨_, failure', twins⟩ := (failure ▸ twins.descend).of_error
    rw [scan_descend_error failure']
    exact .error _ twins
  | ascended _ ih =>
    cases twins with
    | sharing sources => exact ih (.sharing sources)
  | called _ _ first rest =>
    obtain ⟨_, success, twins⟩ := (first twins).of_ok
    rw [Call.scan_script] at success
    rw [scan_call_ok success]
    exact rest twins
  | broken _ ih =>
    obtain ⟨_, failure, twins⟩ := (ih twins).of_error
    rw [Call.scan_script] at failure
    rw [scan_call_error failure]
    exact .error _ twins

end Script

theorem Call.alike (answers : AnswersAlike related) (rule : Call) {scanner : Scanner σ}
    {twin : Scanner τ} (twins : Twins related scanner twin) :
    Alike (Twins related) (rule.scan scanner) (rule.scan twin) := by
  have alike := (rule.runs scanner).alike answers twins
  rwa [scan_script] at alike

/-- Sources that answer alike are evaluated alike, and are left related. -/
theorem evaluate_alike (answers : AnswersAlike related) {source : σ} {twin : τ}
    (sources : related source twin) :
    (evaluate source).result = (evaluate twin).result ∧
      (evaluate source).log = (evaluate twin).log ∧
      related (evaluate source).source (evaluate twin).source := by
  have first := answers source twin sources
  unfold evaluate Scanner.ofSource
  generalize CharStream.next source = answer, CharStream.next twin = answer' at first ⊢
  cases first with
  | error error states => exact ⟨rfl, rfl, states⟩
  | @ok rest restTwin lookahead states =>
    have twins : Twins related ⟨rest, lookahead, .start, 0, []⟩
        ⟨restTwin, lookahead, .start, 0, []⟩ := .sharing states
    have whole : Alike (Twins related) (Grammar.line _).outcome (Grammar.line _).outcome :=
      Call.line.alike answers twins
    dsimp only
    generalize (Grammar.line ⟨rest, lookahead, .start, 0, []⟩).outcome = outcome,
      (Grammar.line ⟨restTwin, lookahead, .start, 0, []⟩).outcome = outcome' at whole ⊢
    cases whole with
    | ok value twins =>
      cases twins with
      | sharing sources => exact ⟨rfl, rfl, sources⟩
    | error error twins =>
      cases twins with
      | sharing sources => exact ⟨rfl, rfl, sources⟩

end Reckon
