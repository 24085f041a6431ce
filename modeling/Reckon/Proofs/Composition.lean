import Reckon.Proofs.NestingGuard

namespace Reckon

namespace Tree

/-- The sum of two sums, without parentheses around the second. -/
def append (front : Tree .sum) : Tree .sum → Tree .sum
  | single term => signed front .plus term
  | signed inner sign term => signed (front.append inner) sign term

@[simp] theorem append_text (front tree : Tree .sum) :
    (front.append tree).text = front.text ++ '+' :: tree.text := by
  cases tree with
  | single term => simp [append, text, Sign.character]
  | signed inner sign term => simp [append, text, append_text front inner]

@[simp] theorem append_value (front tree : Tree .sum) :
    (front.append tree).value = front.value + tree.value := by
  cases tree with
  | single term => simp [append, value, Sign.apply]
  | signed inner sign term => rw [append, value, append_value front inner, Sign.apply_add, value]

@[simp] theorem append_nesting (front tree : Tree .sum) :
    (front.append tree).nesting = max front.nesting tree.nesting := by
  cases tree with
  | single term => simp [append, nesting]
  | signed inner sign term =>
    rw [append, nesting, append_nesting front inner, nesting, Nat.max_assoc]

def grouped (tree : Tree .sum) : Tree .term := .plain (.group tree)

private theorem ne_lineFeed_of_mem {tree : Tree .sum} : '\n' ∉ tree.text := by
  obtain ⟨_, reads, _⟩ := Draft.reads_tree tree
  exact fun feed => (reads.inAlphabet _ feed).ne_lineFeed rfl

end Tree

/-- The result is the value where the guard allows it, and elsewhere the rejection of the
nesting. -/
structure Guarded (allowed : Prop) (value : Value) (result : Except EvaluationError Value) :
    Prop where
  accepted : result = .ok value ↔ allowed
  exceeded : ¬ allowed → ∃ found position,
    result = .error (.rejected ⟨.tooDeep nestingLimit, found, position⟩)

private theorem Guarded.congr {allowed other : Prop} {value : Value}
    {result : Except EvaluationError Value} (guarded : Guarded allowed value result)
    (same : allowed ↔ other) : Guarded other value result := by
  rwa [← propext same]

/-- The text of an expression has its value, unless it is nested too deep. -/
theorem evaluateText_guarded (text : String) (tree : Tree .sum)
    (spelled : text.toList = tree.text) :
    Guarded (tree.nesting ≤ nestingLimit) tree.value (evaluateText text).result := by
  by_cases shallow : tree.nesting ≤ nestingLimit
  · have line : tree.text = firstLine text :=
      (firstLine_eq tree.ne_lineFeed_of_mem (by rw [spelled, List.append_nil]) rfl).symm
    obtain ⟨draft, rest, stops, complete, ended⟩ := Stops.ofTree line shallow
    have accepted := stops.result_eq (.value complete ended)
    exact ⟨iff_of_true accepted shallow, absurd shallow⟩
  · obtain ⟨last, reads, complete⟩ := Draft.reads_tree tree
    have deep : nestingLimit < last.nesting := by
      rw [Draft.nesting_of_tree? complete]
      exact Nat.lt_of_not_le shallow
    obtain ⟨draft, character, after, rest, stops, step, _⟩ :=
      reads.stops (spelled.trans (List.append_nil _).symm) deep
    have exceeded : ∃ found position, (evaluateText text).result =
        .error (.rejected ⟨.tooDeep nestingLimit, found, position⟩) := by
      rcases stops.result step with ⟨_, rejected⟩ | ⟨_, rejected⟩
      · exact ⟨_, _, rejected⟩
      · exact ⟨_, _, rejected⟩
    refine ⟨iff_of_false ?_ shallow, fun _ => exceeded⟩
    obtain ⟨_, _, rejected⟩ := exceeded
    rw [rejected]
    nofun

theorem evaluateText_oneLine {text : String} {value : Value} (oneLine : '\n' ∉ text.toList)
    (accepted : (evaluateText text).result = .ok value) : ∃ tree : Tree .sum,
      tree.text = text.toList ∧ tree.nesting ≤ nestingLimit ∧ tree.value = value := by
  obtain ⟨tree, spelled, shallow, same⟩ := evaluateText_accepted accepted
  rw [firstLine_eq oneLine (List.append_nil _).symm rfl] at spelled
  exact ⟨tree, spelled, shallow, same⟩

/-- What texts come to when they are put together, `first` and `second` being the expressions
in them. -/
structure Compositions (left right : String) (a b : Value) (first second : Tree .sum) : Prop where
  sum : (evaluateText (left ++ "+" ++ right)).result = .ok (a + b)
  group : Guarded (first.nesting < nestingLimit) a (evaluateText ("(" ++ left ++ ")")).result
  difference : Guarded (second.nesting < nestingLimit) (a - b)
    (evaluateText (left ++ "-(" ++ right ++ ")")).result
  power : Guarded (first.nesting < nestingLimit ∧ second.nesting + 1 < nestingLimit) (a.power b)
    (evaluateText ("(" ++ left ++ ")**(" ++ right ++ ")")).result

/-- Texts are put together as the expressions in them. A sum nests no deeper than its parts,
and a group costs a level. -/
theorem evaluateText_composed (left right : String) (a b : Value)
    (leftLine : '\n' ∉ left.toList) (rightLine : '\n' ∉ right.toList)
    (leftValue : (evaluateText left).result = .ok a)
    (rightValue : (evaluateText right).result = .ok b) :
    (∃! first : Tree .sum, first.text = left.toList) ∧
      (∃! second : Tree .sum, second.text = right.toList) ∧
      ∀ first second : Tree .sum, first.text = left.toList → second.text = right.toList →
        Compositions left right a b first second := by
  obtain ⟨first, spelled, shallow, rfl⟩ := evaluateText_oneLine leftLine leftValue
  obtain ⟨second, spelled', shallow', rfl⟩ := evaluateText_oneLine rightLine rightValue
  refine ⟨⟨first, spelled, ?_⟩, ⟨second, spelled', ?_⟩, ?_⟩
  · exact fun other same => Tree.eq_of_text (same.trans spelled.symm)
  · exact fun other same => Tree.eq_of_text (same.trans spelled'.symm)
  intro other other' same same'
  rw [Tree.eq_of_text (same.trans spelled.symm), Tree.eq_of_text (same'.trans spelled'.symm)]
  have sum := evaluateText_guarded (left ++ "+" ++ right) (first.append second)
    (by simp [spelled, spelled'])
  have group := evaluateText_guarded ("(" ++ left ++ ")") (.single first.grouped)
    (by simp [Tree.text, Tree.grouped, spelled])
  have difference := evaluateText_guarded (left ++ "-(" ++ right ++ ")")
    (.signed first .minus second.grouped)
    (by simp [Tree.text, Tree.grouped, Sign.character, spelled, spelled'])
  have power := evaluateText_guarded ("(" ++ left ++ ")**(" ++ right ++ ")")
    (.single (.power (.group first) second.grouped))
    (by simp [Tree.text, Tree.grouped, spelled, spelled'])
  simp only [Tree.append_value, Tree.append_nesting, Tree.grouped, Tree.value, Tree.nesting]
    at sum group difference power
  exact
    { sum := sum.accepted.mpr (Nat.max_le.mpr ⟨shallow, shallow'⟩)
      group := group
      difference := difference.congr (by omega)
      power := power.congr (by omega) }

/-- The powers of the second text stay within the sum, and the first is a base as a whole. -/
theorem evaluateText_composed_powers :
    let first : Tree .sum := .signed (.single (.plain (.numeral (.ofDigit '1' rfl)))) .minus
      (.plain (.numeral (.ofDigit '3' rfl)))
    let second : Tree .sum := .single (.power (.numeral (.ofDigit '2' rfl))
      (.plain (.numeral (.ofDigit '5' rfl))))
    (evaluateText "1-3").result = .ok (-2) ∧ (evaluateText "2**5").result = .ok 32 ∧
      first.text = "1-3".toList ∧ second.text = "2**5".toList ∧
      Compositions "1-3" "2**5" (-2) 32 first second := by
  intro first second
  have leftValue : (evaluateText "1-3").result = .ok (-2) := by cbv
  have rightValue : (evaluateText "2**5").result = .ok 32 := by cbv
  have spelled : first.text = "1-3".toList := by cbv
  have spelled' : second.text = "2**5".toList := by cbv
  obtain ⟨_, _, composed⟩ := evaluateText_composed "1-3" "2**5" (-2) 32 (by decide) (by decide)
    leftValue rightValue
  exact ⟨leftValue, rightValue, spelled, spelled', composed first second spelled spelled'⟩

end Reckon
