import Reckon.Expression.Operation
import Reckon.Proofs.Places
import Reckon.Proofs.ReadAhead

namespace Reckon

variable {σ α β : Type}

variable [CharStream σ]

/-- One scanner comes from another by single operations. The characters are those whose
consumption succeeded, in order. -/
inductive Leads : Scanner σ → List Char → Scanner σ → Prop where
  | stay : Leads scanner [] scanner
  | consumed (success : Scanner.consume character scanner = .ok () middle)
      (rest : Leads middle characters after) : Leads scanner (character :: characters) after
  | refused (failure : Scanner.consume character scanner = .error error middle)
      (rest : Leads middle characters after) : Leads scanner characters after
  | descended (success : Scanner.descend scanner = .ok () middle)
      (rest : Leads middle characters after) : Leads scanner characters after
  | ascended (rest : Leads scanner.ascend characters after) : Leads scanner characters after

namespace Leads

variable {scanner middle after : Scanner σ} {characters others : List Char}

theorem trans (first : Leads scanner characters middle) (second : Leads middle others after) :
    Leads scanner (characters ++ others) after := by
  induction first with
  | stay => exact second
  | consumed success _ ih => exact .consumed success (ih second)
  | refused failure _ ih => exact .refused failure (ih second)
  | descended success _ ih => exact .descended success (ih second)
  | ascended _ ih => exact .ascended (ih second)

end Leads

/-- A run is made of single operations, whether it succeeds or fails. -/
theorem Script.Runs.leads {script : Script rank} {scanner : Scanner σ}
    {result : EStateM.Result EvaluationError (Scanner σ) Value}
    (runs : Runs script scanner result) :
    ∃ characters, Leads scanner characters (scannerAfter result) := by
  induction runs with
  | done => exact ⟨[], .stay⟩
  | reject => exact ⟨[], .stay⟩
  | look _ ih => exact ih
  | consumed success _ ih =>
    obtain ⟨_, leads⟩ := ih
    exact ⟨_, .consumed success leads⟩
  | refused failure => exact ⟨[], .refused failure .stay⟩
  | descended success _ ih =>
    obtain ⟨_, leads⟩ := ih
    exact ⟨_, .descended success leads⟩
  | limited failure =>
    obtain rfl := Scanner.eq_of_descend_error failure
    exact ⟨[], .stay⟩
  | ascended _ ih =>
    obtain ⟨_, leads⟩ := ih
    exact ⟨_, .ascended leads⟩
  | called _ _ first rest =>
    obtain ⟨_, leads⟩ := first
    obtain ⟨_, leads'⟩ := rest
    exact ⟨_, leads.trans leads'⟩
  | broken _ ih => exact ih

omit [CharStream σ] in
private theorem scannerAfter_bind_pure (scan : Scan σ α) (tell : α → β) (scanner : Scanner σ) :
    scannerAfter ((scan >>= fun value => pure (tell value)) scanner) =
      scannerAfter (scan scanner) := by
  cases outcome : scan scanner with
  | ok value rest => rw [Scan.bind_ok outcome]; rfl
  | error error rest => rw [Scan.bind_error outcome]; rfl

theorem Operation.leads (operation : Operation) (scanner : Scanner σ) :
    ∃ characters, Leads scanner characters (scannerAfter (operation.perform scanner)) := by
  cases operation with
  | consume expected =>
    unfold perform
    rw [scannerAfter_bind_pure]
    cases outcome : Scanner.consume expected scanner with
    | ok _ rest => exact ⟨_, .consumed outcome .stay⟩
    | error error rest => exact ⟨_, .refused outcome .stay⟩
  | descend =>
    unfold perform
    rw [scannerAfter_bind_pure]
    cases outcome : Scanner.descend scanner with
    | ok _ rest => exact ⟨_, .descended outcome .stay⟩
    | error error rest =>
      obtain rfl := Scanner.eq_of_descend_error outcome
      exact ⟨_, .stay⟩
  | ascend => exact ⟨_, .ascended .stay⟩
  | rejection cause => exact ⟨_, .stay⟩
  | follow rule =>
    unfold perform
    rw [scannerAfter_bind_pure]
    exact (rule.call.runs scanner).leads

theorem Scanner.leads_after (scanner : Scanner σ) (operations : List Operation) :
    ∃ characters, Leads scanner characters (scanner.after operations) := by
  induction operations generalizing scanner with
  | nil => exact ⟨[], .stay⟩
  | cons operation operations ih =>
    obtain ⟨characters, leads⟩ := operation.leads scanner
    obtain ⟨others, leads'⟩ := ih (scannerAfter (operation.perform scanner))
    exact ⟨_, leads.trans leads'⟩

/-- The account that a scanner gives of a text: `consumed` has been consumed, and `rest` is
what is left of it. -/
structure Accounts (text consumed rest : List Char) (scanner : Scanner (List Char)) : Prop where
  spelled : text = consumed ++ rest
  lookahead : scanner.lookahead = rest.head?
  source : scanner.source = rest.tail
  position : scanner.position = Position.start.afterAll consumed
  depth : scanner.depth ≤ nestingLimit
  logged : scanner.events.reverse.filterMap Event.consumed? = consumed

namespace Accounts

variable {text consumed rest : List Char} {scanner after : Scanner (List Char)}

theorem ofText (text : List Char) : Accounts text [] text (.ofText text) := by
  cases text <;> exact ⟨rfl, rfl, rfl, rfl, Nat.zero_le _, rfl⟩

private theorem of_consume {character : Char} (accounts : Accounts text consumed rest scanner)
    (success : Scanner.consume character scanner = .ok () after) :
    ∃ others, rest = character :: others ∧
      Accounts text (consumed ++ [character]) others after := by
  unfold Scanner.consume at success
  split at success
  · rename_i here
    have ahead : rest.head? = some character := by
      rw [← accounts.lookahead]
      simpa [Scanner.isAt] using here
    obtain ⟨others, rfl⟩ := List.head?_eq_some_iff.mp ahead
    rw [next_text] at success
    cases success
    refine ⟨others, rfl, ?_, ?_, ?_, ?_, accounts.depth, ?_⟩
    · simp [accounts.spelled]
    · simp [accounts.source]
    · simp [accounts.source]
    · simp [Position.afterAll_concat, accounts.position]
    · simp [accounts.logged, Event.consumed?]
  · cases success

private theorem of_descend (accounts : Accounts text consumed rest scanner)
    (success : Scanner.descend scanner = .ok () after) : Accounts text consumed rest after := by
  unfold Scanner.descend at success
  split at success <;> cases success
  rename_i below
  exact { accounts with depth := Nat.lt_of_le_of_ne accounts.depth below }

private theorem ascend (accounts : Accounts text consumed rest scanner) :
    Accounts text consumed rest scanner.ascend :=
  { accounts with depth := Nat.le_trans (Nat.sub_le _ _) accounts.depth }

end Accounts

/-- A text can always be read, and so a consumption fails for the character ahead only. -/
theorem Scanner.consume_text_error {scanner after : Scanner (List Char)} {expected : Char}
    {error : EvaluationError} (failure : Scanner.consume expected scanner = .error error after) :
    after = scanner := by
  unfold Scanner.consume at failure
  rw [next_text] at failure
  split at failure <;> cases failure
  rfl

/-- No operation makes the account wrong. -/
theorem Leads.accounts {scanner after : Scanner (List Char)} {text consumed rest : List Char}
    {characters : List Char} (leads : Leads scanner characters after)
    (accounts : Accounts text consumed rest scanner) :
    ∃ others, Accounts text (consumed ++ characters) others after := by
  induction leads generalizing consumed rest with
  | stay => exact ⟨rest, by rwa [List.append_nil]⟩
  | consumed success _ ih =>
    obtain ⟨others, _, next⟩ := accounts.of_consume success
    simpa using ih next
  | refused failure _ ih =>
    obtain rfl := Scanner.consume_text_error failure
    exact ih accounts
  | descended success _ ih => exact ih (accounts.of_descend success)
  | ascended _ ih => exact ih accounts.ascend

/-- What cannot be done with a scanner leaves it as it is: to consume what is not ahead, to
descend from the limit, and to ask for a rejection. All else can be done. -/
structure Steady (scanner : Scanner (List Char)) : Prop where
  mismatch : ∀ expected, scanner.lookahead ≠ some expected →
    Scanner.consume expected scanner = .error
      (.rejected ⟨.expected expected, scanner.lookahead, scanner.position⟩) scanner
  ahead : ∀ expected, scanner.lookahead = some expected →
    ∃ after, Scanner.consume expected scanner = .ok () after
  limit : scanner.depth = nestingLimit → Scanner.descend scanner = .error
    (.rejected ⟨.tooDeep nestingLimit, scanner.lookahead, scanner.position⟩) scanner
  below : scanner.depth ≠ nestingLimit →
    Scanner.descend scanner = .ok () { scanner with depth := scanner.depth + 1 }
  rejection : ∀ cause, (Operation.rejection cause).perform scanner =
    .ok (.rejection ⟨cause, scanner.lookahead, scanner.position⟩) scanner

theorem Scanner.steady (scanner : Scanner (List Char)) : Steady scanner where
  mismatch := by
    intro expected other
    have absent : scanner.isAt expected = false := by simpa [isAt] using other
    rw [consume, absent]
    rfl
  ahead := by
    intro expected same
    have here : scanner.isAt expected = true := by simp [isAt, same]
    rw [consume, here, next_text]
    exact ⟨_, rfl⟩
  limit := by
    intro deep
    rw [descend, if_pos deep]
    rfl
  below := by
    intro shallow
    rw [descend, if_neg shallow]
  rejection := fun _ => rfl

/-- However a scanner of a text is used, it gives account of what was consumed, and of where
and how deep it is. The same holds at every point on the way, within the rules too. -/
theorem scanner_keepsAccount (text : String) :
    ∃ origin, Scanner.ofSource text.toList = .ok origin ∧
      (∀ operations, ∃ consumed rest, Leads origin consumed (origin.after operations) ∧
        Accounts text.toList consumed rest (origin.after operations) ∧
        (origin.after operations).position = ⟨1 + consumed.count '\n',
          1 + (lastLine consumed).length, (String.ofList consumed).utf8ByteSize⟩ ∧
        Steady (origin.after operations)) ∧
      ∀ consumed scanner, Leads origin consumed scanner →
        ∃ rest, Accounts text.toList consumed rest scanner := by
  have begun := Accounts.ofText text.toList
  refine ⟨_, Scanner.ofSource_text _, ?_, ?_⟩
  · intro operations
    obtain ⟨consumed, leads⟩ := (Scanner.ofText text.toList).leads_after operations
    obtain ⟨rest, accounts⟩ := leads.accounts begun
    refine ⟨consumed, rest, leads, accounts, ?_, Scanner.steady _⟩
    rw [accounts.position, Position.afterAll_start]
    rfl
  · intro consumed scanner leads
    exact leads.accounts begun

/-- A sum fails inside a group, and what follows is consumed nevertheless. -/
theorem scanner_keepsAccount_afterFailure :
    let text := "(1+\né"
    let operations : List Operation := [.follow .sum, .consume 'é', .consume '\n', .descend,
      .rejection .loneStar, .follow .signedTerms, .consume 'é', .consume 'é']
    ∃ origin rest, Scanner.ofSource text.toList = .ok origin ∧
      Leads origin text.toList (origin.after operations) ∧
      Accounts text.toList text.toList rest (origin.after operations) ∧
      (origin.after operations).position = ⟨2, 2, 6⟩ ∧ (origin.after operations).depth = 2 := by
  intro text operations
  obtain ⟨origin, begun, whole, within⟩ := scanner_keepsAccount text
  obtain ⟨consumed, _, leads, accounts, position, _⟩ := whole operations
  obtain ⟨rest, accounts'⟩ := within consumed _ leads
  obtain rfl : Scanner.ofText text.toList = origin := by
    rw [Scanner.ofSource_text] at begun
    exact Except.ok.inj begun
  have told : ((Scanner.ofText text.toList).after operations).events.reverse.filterMap
      Event.consumed? = text.toList := by
    dsimp only [text, operations]
    cbv
  have depth : ((Scanner.ofText text.toList).after operations).depth = 2 := by
    dsimp only [text, operations]
    cbv
  obtain rfl : consumed = text.toList := accounts.logged.symm.trans told
  have place : (⟨1 + text.toList.count '\n', 1 + (lastLine text.toList).length,
      (String.ofList text.toList).utf8ByteSize⟩ : Position) = ⟨2, 2, 6⟩ := by
    dsimp only [text]
    cbv
  exact ⟨_, rest, begun, leads, accounts', position.trans place, depth⟩

end Reckon
