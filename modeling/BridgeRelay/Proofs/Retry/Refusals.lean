import BridgeRelay.Proofs.Text.Occurrence
import BridgeRelay.Retry

/-!
# Refusals with numbers

What class a node's message has in which numbers stand. Most phrases that tell a class are words, which occur around the
numbers or not at all. But two of them are numbers of gateway errors, and these also occur in every number that shows them
among its digits. Such a message tells of trouble in the network, whatever its words say, and is answered by waiting.
-/

namespace BridgeRelay

open Text

/-! ## Phrases -/

namespace ErrorClass

/-- The class that is told by the phrases that were found. -/
def ofPhrases (found : String → Bool) : ErrorClass :=
  match phrases.find? fun entry => entry.2.any found with
  | some (c, _) => c
  | none => unknown

variable {found found' : String → Bool}

theorem ofText_eq_ofPhrases (s : String) : ofText s = ofPhrases fun phrase => occurs phrase.toList (fold s.toList) := rfl

theorem ofPhrases_congr (h : ∀ entry ∈ phrases, ∀ phrase ∈ entry.2, found phrase = found' phrase) :
    ofPhrases found = ofPhrases found' := by
  have entries : ∀ entry ∈ phrases, entry.2.any found = entry.2.any found' := by
    intro entry he
    rw [Bool.eq_iff_iff, List.any_eq_true, List.any_eq_true]
    exact exists_congr fun phrase => and_congr_right fun hp => by rw [h entry he phrase hp]
  rw [ofPhrases, ← List.head?_filter, List.filter_congr entries, List.head?_filter, ofPhrases]

/-- The first class of the table that has a phrase which was found. -/
theorem ofPhrases_eq {before after : List (ErrorClass × List String)} {c : ErrorClass} {own : List String}
    (table : phrases = before ++ (c, own) :: after) (earlier : ∀ entry ∈ before, entry.2.any found = false)
    (here : own.any found = true) : ofPhrases found = c := by
  have skipped : before.find? (fun entry => entry.2.any found) = none :=
    List.find?_eq_none.mpr fun entry he => by simp [earlier entry he]
  simp only [ofPhrases, table, List.find?_append, skipped, Option.none_or, List.find?_cons, here]

end ErrorClass

/-! ## Messages -/

/-- Has 502 or 503, the numbers of gateway errors, among its decimal digits. -/
def ShowsGatewayError (n : Nat) : Prop := ∃ i, n / 10 ^ i % 1000 = 502 ∨ n / 10 ^ i % 1000 = 503

theorem showsGatewayError_iff {n : Nat} : ShowsGatewayError n ↔
    occurs "502".toList (Nat.toDigits 10 n) = true ∨ occurs "503".toList (Nat.toDigits 10 n) = true := by
  have two : "502".toList = Nat.toDigits 10 502 := by decide +kernel
  have three : "503".toList = Nat.toDigits 10 503 := by decide +kernel
  rw [two, three, occurs_iff_isInfix, occurs_iff_isInfix, toDigits_isInfix_toDigits (by decide),
    toDigits_isInfix_toDigits (by decide), ← two, ← three]
  exact exists_or

instance : DecidablePred ShowsGatewayError := fun _ => decidable_of_iff _ showsGatewayError_iff.symm

/-- How a node refuses a transaction for one of two numbers that do not match. -/
inductive Refusal where
  | nonceTooLow
  | fundsTooLow
  | feeTooLow
  deriving DecidableEq

namespace Refusal

/-- The message with its numbers. -/
def text : Refusal → Nat → Nat → String
  | nonceTooLow, a, b => s!"nonce too low: next nonce {a}, tx nonce {b}"
  | fundsTooLow, a, b => s!"insufficient funds for gas * price + value: balance {a}, tx cost {b}"
  | feeTooLow, a, b => s!"max fee per gas less than block base fee: maxFeePerGas: {a}, baseFee: {b}"

/-- What the message means. -/
def means : Refusal → ErrorClass
  | nonceTooLow => .nonceConflict
  | fundsTooLow => .permanent
  | feeTooLow => .underpriced

/-- What helps against the refusal while attempts are left. -/
def remedy (policy : RetryPolicy) : Refusal → Except Duration.Fault RetryAction
  | nonceTooLow => (policy.backoff 0).map .refreshNonce
  | fundsTooLow => .ok .giveUp
  | feeTooLow => .ok (.retryWithBump (.ofSeconds 1))

/-- The words before the first number and between the numbers, in lower case. -/
def words : Refusal → List Char × List Char
  | nonceTooLow => ("nonce too low: next nonce ".toList, ", tx nonce ".toList)
  | fundsTooLow => ("insufficient funds for gas * price + value: balance ".toList, ", tx cost ".toList)
  | feeTooLow => ("max fee per gas less than block base fee: maxfeepergas: ".toList, ", basefee: ".toList)

theorem words_undigited (m : Refusal) : m.words.2 ≠ [] ∧ m.words.1.any Char.isDigit = false ∧
    m.words.2.any Char.isDigit = false := by
  cases m <;> decide +kernel

theorem fold_text (m : Refusal) (a b : Nat) : fold (m.text a b).toList =
    m.words.1 ++ (Nat.toDigits 10 a ++ (m.words.2 ++ Nat.toDigits 10 b)) := by
  have folded {first second : List Char} (before between : String) (lowered : fold before.toList = first)
      (lowered' : fold between.toList = second) : fold (s!"{before}{a}{between}{b}").toList =
        first ++ (Nat.toDigits 10 a ++ (second ++ Nat.toDigits 10 b)) := by
    rw [← lowered, ← lowered', ← fold_toDigits a, ← fold_toDigits b]
    simp [fold]
    rfl
  cases m <;> exact folded _ _ (by decide +kernel) (by decide +kernel)

/-- Whether a phrase occurs in the words of the message. -/
def mentions (m : Refusal) (phrase : String) : Bool := occurs phrase.toList m.words.1 || occurs phrase.toList m.words.2

variable {m : Refusal} {part : List Char} {a b : Nat}

theorem occurs_of_word (nonempty : part ≠ []) (word : part.any Char.isDigit = false) :
    occurs part (fold (m.text a b).toList) = (occurs part m.words.1 || occurs part m.words.2) := by
  have apart (n : Nat) : ∀ c ∈ Nat.toDigits 10 n, c ∉ part := fun c hc hp =>
    List.any_eq_false.mp word c hp (isDigit_of_mem_toDigits c hc)
  have last : part <:+: m.words.2 ++ (Nat.toDigits 10 b ++ []) ↔ _ :=
    isInfix_across nonempty Nat.toDigits_ne_nil (apart b)
  rw [List.append_nil, List.infix_nil, or_iff_left nonempty] at last
  rw [Bool.eq_iff_iff, Bool.or_eq_true, fold_text, occurs_iff_isInfix, occurs_iff_isInfix, occurs_iff_isInfix,
    isInfix_across nonempty Nat.toDigits_ne_nil (apart a), last]

theorem occurs_of_numeral (nonempty : part ≠ []) (numeral : part.all Char.isDigit = true) :
    occurs part (fold (m.text a b).toList) =
      (occurs part (Nat.toDigits 10 a) || occurs part (Nat.toDigits 10 b)) := by
  obtain ⟨between, undigited, undigited'⟩ := m.words_undigited
  have apart {sep : List Char} (h : sep.any Char.isDigit = false) : ∀ c ∈ sep, c ∉ part := fun c hc hp =>
    List.any_eq_false.mp h c hc (List.all_eq_true.mp numeral c hp)
  rw [Bool.eq_iff_iff, Bool.or_eq_true, fold_text, occurs_iff_isInfix, occurs_iff_isInfix, occurs_iff_isInfix,
    isInfix_behind nonempty (apart undigited), isInfix_across nonempty between (apart undigited')]

theorem numeral_or_word : ∀ entry ∈ ErrorClass.phrases, ∀ phrase ∈ entry.2, phrase = "502" ∨ phrase = "503" ∨
    phrase.toList ≠ [] ∧ phrase.toList.any Char.isDigit = false := by decide +kernel

/-- The words of the message tell nothing that is looked for before the gateway errors. -/
theorem unmentioned (m : Refusal) : ∀ entry ∈ ErrorClass.phrases, entry.1 = .alreadyProcessed → ∀ phrase ∈ entry.2,
    m.mentions phrase = false ∧ phrase.toList ≠ [] ∧ phrase.toList.any Char.isDigit = false := by
  cases m <;> decide +kernel

theorem ofPhrases_mentions (m : Refusal) : ErrorClass.ofPhrases m.mentions = m.means := by cases m <;> decide +kernel

theorem ofText_text (m : Refusal) (a b : Nat) : ErrorClass.ofText (m.text a b) =
    if ShowsGatewayError a ∨ ShowsGatewayError b then .transient else m.means := by
  have gateway : ShowsGatewayError a ∨ ShowsGatewayError b ↔
      occurs "502".toList (fold (m.text a b).toList) = true ∨ occurs "503".toList (fold (m.text a b).toList) = true := by
    rw [occurs_of_numeral (by decide) (by decide), occurs_of_numeral (by decide) (by decide), showsGatewayError_iff,
      showsGatewayError_iff, Bool.or_eq_true, Bool.or_eq_true]
    exact or_or_or_comm
  rw [ErrorClass.ofText_eq_ofPhrases]
  split
  · rename_i shown
    refine ErrorClass.ofPhrases_eq rfl (List.forall_mem_singleton.mpr ?_) ?_
    · refine List.any_eq_false.mpr fun phrase hp => ?_
      obtain ⟨unmentioned, nonempty, undigited⟩ := m.unmentioned _ (.head _) rfl phrase hp
      rw [occurs_of_word nonempty undigited, ← mentions, unmentioned]
      exact nofun
    · rw [List.any_eq_true]
      rcases gateway.mp shown with h | h
      · exact ⟨"502", by decide, h⟩
      · exact ⟨"503", by decide, h⟩
  · rename_i hidden
    obtain ⟨two, three⟩ := not_or.mp (mt gateway.mpr hidden)
    refine (ErrorClass.ofPhrases_congr fun entry he phrase hp => ?_).trans m.ofPhrases_mentions
    rcases numeral_or_word entry he phrase hp with rfl | rfl | ⟨nonempty, undigited⟩
    · rw [eq_false_of_ne_true two]
      cases m <;> decide
    · rw [eq_false_of_ne_true three]
      cases m <;> decide
    · exact occurs_of_word nonempty undigited

theorem next_refused {r : RetryRecord} (m : Refusal) (a b : Nat) (left : r.policy.allows (r.attempt + 1) = true) :
    (r.fail (.rpc (m.text a b))).next = if ShowsGatewayError a ∨ ShowsGatewayError b
      then (r.policy.backoff r.attempt).map .retryAfter else m.remedy r.policy := by
  have told : ErrorClass.ofError (.rpc (m.text a b)) = _ := ofText_text m a b
  split at told
  · rename_i shown
    simp only [RetryRecord.next, RetryRecord.fail, Option.map_some, told, if_pos shown, left]
    rfl
  · rename_i hidden
    cases m <;> simp only [RetryRecord.next, RetryRecord.fail, Option.map_some, told, if_neg hidden, means, left] <;> rfl

end Refusal

/-! ## Main statement -/

/-- A refusal with two numbers is classed by its words and answered with its remedy exactly if neither number shows a
gateway error. Else it counts as trouble in the network and is answered by waiting. -/
theorem refusals_classed_by_words (m : Refusal) (a b : Nat) :
    ErrorClass.ofText (m.text a b) = (if ShowsGatewayError a ∨ ShowsGatewayError b then .transient else m.means) ∧
    ∀ r : RetryRecord, r.policy.allows (r.attempt + 1) = true → (r.fail (.rpc (m.text a b))).next =
      if ShowsGatewayError a ∨ ShowsGatewayError b then (r.policy.backoff r.attempt).map .retryAfter
      else m.remedy r.policy :=
  ⟨m.ofText_text a b, fun _ => m.next_refused a b⟩

/-- Neither 505 nor 50403 shows a gateway error, though both begin like one. -/
theorem sample_classed_by_words : ¬ (ShowsGatewayError 505 ∨ ShowsGatewayError 50403) ∧
    RetryPolicy.allows {} 1 = true ∧ ErrorClass.ofText (Refusal.feeTooLow.text 505 50403) = .underpriced ∧
    (RetryRecord.fail { policy := {} } (.rpc (Refusal.feeTooLow.text 505 50403))).next =
      .ok (.retryWithBump (.ofSeconds 1)) := by
  have hidden : ¬ (ShowsGatewayError 505 ∨ ShowsGatewayError 50403) := by decide +kernel
  obtain ⟨classed, answered⟩ := refusals_classed_by_words .feeTooLow 505 50403
  rw [if_neg hidden] at classed
  have left : RetryPolicy.allows {} 1 = true := by decide
  exact ⟨hidden, left, classed, (answered { policy := {} } left).trans (if_neg hidden)⟩

/-- A nonce that reads like a gateway error is waited for and not asked for again. -/
theorem sample_nonce_reads_as_gateway_error :
    Refusal.nonceTooLow.text 503 1 = "nonce too low: next nonce 503, tx nonce 1" ∧
    ErrorClass.ofText "nonce too low: next nonce 503, tx nonce 1" ≠ .nonceConflict ∧
    (RetryRecord.fail { policy := {} } (.rpc "nonce too low: next nonce 503, tx nonce 1")).next.toOption =
      some (.retryAfter (.ofSeconds 2)) := by
  have printed : Refusal.nonceTooLow.text 503 1 = "nonce too low: next nonce 503, tx nonce 1" := rfl
  have shown : ShowsGatewayError 503 ∨ ShowsGatewayError 1 := .inl ⟨0, .inr rfl⟩
  have classed := Refusal.ofText_text .nonceTooLow 503 1
  have answered := Refusal.next_refused (r := ⟨{}, 0, none⟩) .nonceTooLow 503 1 rfl
  rw [if_pos shown, printed] at classed answered
  refine ⟨printed, by simp [classed], ?_⟩
  rw [answered]
  decide +kernel

end BridgeRelay
