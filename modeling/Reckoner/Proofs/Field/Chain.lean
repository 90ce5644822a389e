import Reckoner.Proofs.Field.Request
import Reckoner.Proofs.Field.Result
import Reckoner.Proofs.Field.Surroundings

/-!
# Chains of results

An answered line ends in its result. If it asks for a result once more, that result is all that is
evaluated, and what stands before it is written as it was. So the line grows by one link, an equals
sign with the result and a space behind it, and ends in the same result again.
-/

namespace Reckoner.Field

open Extraction (IsUnit signedText unitTail)

set_option autoImplicit false

theorem is_blank_of_mem_space : ∀ c ∈ [' '], Text.isBlank c = true :=
  List.forall_mem_singleton.2 rfl

theorem Fits.marked_behind {text : Text} (fits : Fits text) (front : Text) :
    ∀ c ∈ (front ++ text).getLast?, Text.isBlank c = false := by
  rw [List.getLast?_append_of_ne_nil front fits.nonempty]
  exact fits.marked

/-- The text is found again as it is between an equals sign and blanks. -/
structure Chains (text : Text) : Prop extends Fits text where
  begins : ∀ c ∈ text.head?, Text.isBlank c = false
  inSegment : ∀ c ∈ text, Equation.isInSegment c = true

theorem Chains.trim {text : Text} (chains : Chains text) : Text.trim (' ' :: text) = text := by
  have started : Text.trimStart (' ' :: text) = text :=
    dropWhile_append_of_stop is_blank_of_mem_space chains.begins
  rw [Text.trim, started]
  exact Text.trim_end_of_solid chains.marked

namespace Equation

def asking : Text := ['=', ' ', ' ']

def link (result : Text) : Text :=
  '=' :: ' ' :: (result ++ [' '])

def links (result : Text) (count : Nat) : Text :=
  (List.replicate count (link result)).flatten

theorem links_succ (result : Text) (count : Nat) :
    links result (count + 1) = link result ++ links result count := by
  simp [links, List.replicate_succ]

theorem links_append_link (line result : Text) (count : Nat) :
    line ++ links result count ++ link result = line ++ links result (count + 1) := by
  simp [links, List.replicate_succ']

theorem append_links (line result : Text) (count : Nat) :
    line ++ links result (count + 1) = line ++ link result ++ links result count := by
  rw [links_succ, List.append_assoc]

/-- The line ends in the result, with single spaces around the equals sign before it. -/
inductive EndsIn (result : Text) : Text → Prop
  | behind (front : Text) : (∀ c ∈ front.getLast?, Text.isBlank c = false) →
      EndsIn result (front ++ (spacedEquals ++ (result ++ [' '])))

theorem of_line_chain (front : Text) {shown : Text} (chains : Chains shown) :
    ofLine? (front ++ (spacedEquals ++ (shown ++ [' '])) ++ asking) =
      if shown.any Char.isDigit then some ⟨front ++ [' ', '='], ' ' :: shown, shown⟩ else none := by
  have asks : Asks (front ++ (spacedEquals ++ (shown ++ [' '])) ++ asking)
      (front ++ spacedEquals ++ shown) [' '] ' ' ' ' :=
    ⟨by simp [asking], rfl, rfl, is_blank_of_mem_space, chains.marked_behind _⟩
  have cut : IsCut (front ++ spacedEquals ++ shown) (front ++ [' ', '=']) (' ' :: shown) := by
    refine ⟨by simp [spacedEquals], .inr (by simp), fun member => ?_⟩
    rcases List.mem_cons.1 member with space | inside
    · contradiction
    · exact is_in_segment_eq_true.1 (chains.inSegment '=' inside) rfl
  rw [asks.of_line_eq, cut.of_reversed_head_eq, chains.trim]
  rfl

theorem settled_spaced {front : Text} (marked : ∀ c ∈ front.getLast?, Text.isBlank c = false) :
    settled (front ++ [' ', '=']) = front ++ spacedEquals := by
  have sign : Text.isBlank '=' = false := rfl
  have trimmed := Text.trim_end_append_blanks marked is_blank_of_mem_space
  unfold Text.trimEnd at trimmed
  rw [List.reverse_append, List.reverse_singleton, List.singleton_append] at trimmed
  simp [settled, sign, trimmed]

theorem EndsIn.grown {line result : Text} (ends : EndsIn result line) (fits : Fits result) :
    EndsIn result (line ++ link result) := by
  obtain ⟨front, marked⟩ := ends
  have longer : front ++ (spacedEquals ++ (result ++ [' '])) ++ link result =
      ((front ++ spacedEquals) ++ result) ++ (spacedEquals ++ (result ++ [' '])) := by
    simp [link, spacedEquals]
  rw [longer]
  exact .behind _ (fits.marked_behind _)

theorem EndsIn.links {line result : Text} (ends : EndsIn result line) (fits : Fits result)
    (count : Nat) : EndsIn result (line ++ links result count) := by
  induction count generalizing line with
  | zero => simpa [Equation.links] using ends
  | succ count ih =>
      rw [append_links]
      exact ih (ends.grown fits)

theorem ends_in_answered {line : Text} {equation : Equation} (found : ofLine? line = some equation)
    (result : Text) : EndsIn result (answered equation.leftPart equation.expression result) := by
  obtain ⟨_, _, _, _, _, _, asked⟩ := of_line_eq_some found
  obtain ⟨_, _, trimmed, _⟩ := of_reversed_head_eq_some asked
  have nonempty : equation.expression ≠ [] := by
    intro empty
    have digit := any_digit_of_equation found
    rw [empty] at digit
    contradiction
  have marked : ∀ c ∈ (settled equation.leftPart ++ equation.expression).getLast?,
      Text.isBlank c = false := by
    rw [List.getLast?_append_of_ne_nil _ nonempty, trimmed]
    exact Text.getLast_trim
  have ends : EndsIn result _ := .behind _ marked
  simpa [answered] using ends

end Equation

section Asked

variable {settings : Settings} {line : Text}

/-- A chain that is asked for one more result has its last result evaluated, and grows by a link if
that result comes to itself. -/
theorem answered_line_chain {result : Text} (ends : Equation.EndsIn result line)
    (chains : Chains result) (figured : result.any Char.isDigit = true)
    (itself : Answer.textOf settings result = .ok result) :
    answeredLine? settings (line ++ Equation.asking) =
      .ok (some (line ++ Equation.link result)) := by
  obtain ⟨front, marked⟩ := ends
  have asked := Equation.of_line_chain front chains
  rw [if_pos figured] at asked
  have same : Equation.answered (front ++ [' ', '=']) result result =
      front ++ (Equation.spacedEquals ++ (result ++ [' '])) ++ Equation.link result := by
    rw [Equation.answered, Equation.settled_spaced marked]
    simp [Equation.link, Equation.spacedEquals]
  rw [answered_line_of_some asked, itself, ← same]
  rfl

/-- A text without a digit in the place of the result ends the chain. -/
theorem answered_line_broken {shown : Text} (ends : Equation.EndsIn shown line)
    (chains : Chains shown) (plain : shown.any Char.isDigit = false) :
    answeredLine? settings (line ++ Equation.asking) = .ok none := by
  obtain ⟨front, marked⟩ := ends
  apply answered_line_of_none
  rw [Equation.of_line_chain front chains, plain]
  rfl

end Asked

theorem chains_failure_text : Chains ({} : Settings).failureText where
  toFits := fits_failure_text
  begins := by
    have first : ({} : Settings).failureText.head? = some 'I' := by decide
    intro c member
    cases first.symm.trans member
    decide
  inSegment := List.all_eq_true.1 (by decide)

theorem in_segment_of_is_word_character {c : Char} (inWord : Text.isWordCharacter c = true) :
    Equation.isInSegment c = true := by
  have other : Text.isWordCharacter '=' = false := by decide +kernel
  rw [is_in_segment_eq_true]
  rintro rfl
  rw [other] at inWord
  contradiction

theorem in_segment_of_mem_signed_text {minus : Bool} {numeral : Numeral}
    (written : numeral.WellFormed) {c : Char} (member : c ∈ signedText minus numeral) :
    Equation.isInSegment c = true := by
  rcases List.mem_append.1 member with sign | figure
  · cases minus with
    | false => contradiction
    | true =>
        cases List.mem_singleton.1 sign
        decide
  · rw [is_in_segment_eq_true]
    rintro rfl
    rcases Expression.mem_text_cases written figure with digit | point | percent <;> contradiction

theorem in_segment_of_mem_unit_tail {unit : Option Text} (word : IsUnit unit) {c : Char}
    (member : c ∈ unitTail unit) : Equation.isInSegment c = true := by
  cases unit with
  | none => contradiction
  | some letters =>
      rcases List.mem_cons.1 member with rfl | letter
      · decide
      · exact in_segment_of_is_word_character ((word letters rfl).2 c letter)

/-- A literal under a sign and with a unit can be chained, and holds a digit. -/
theorem chains_with_unit {minus : Bool} {numeral : Numeral} {unit : Option Text}
    (written : numeral.WellFormed) (word : IsUnit unit) :
    Chains (Decimal.withUnit (signedText minus numeral) unit) ∧
      (Decimal.withUnit (signedText minus numeral) unit).any Char.isDigit = true := by
  have fits := fits_signed_text written minus
  constructor
  · refine ⟨fits_with_unit fits word, ?_, ?_⟩
    · rw [Extraction.with_unit_eq word, List.head?_append_of_ne_nil _ fits.nonempty]
      intro c member
      exact is_blank_of_mem_signed_text written (List.mem_of_mem_head? member)
    · rw [Extraction.with_unit_eq word]
      intro c member
      rcases List.mem_append.1 member with signed | tail
      · exact in_segment_of_mem_signed_text written signed
      · exact in_segment_of_mem_unit_tail word tail
  · obtain ⟨c, rest, same, digit⟩ := Expression.text_eq_cons written
    rw [Extraction.with_unit_eq word, signedText, same]
    simp [digit]

section Result

variable {settings : Settings} {raw result : Text} {answer : Answer}

theorem chains_of_result (behind : 0 ≤ settings.places)
    (answered : Answer.ofText settings raw = .ok answer) (resulted : answer.result = some result) :
    Chains result ∧ result.any Char.isDigit = true := by
  obtain ⟨value, digits, shown, rfl, word⟩ := Answer.of_result answered resulted
  obtain ⟨minus, numeral, written, rfl, _⟩ := Decimal.fixed_reread behind shown
  exact chains_with_unit written word

/-- A result that is short enough comes to itself. -/
theorem text_of_result (behind : 0 ≤ settings.places)
    (answered : Answer.ofText settings raw = .ok answer) (resulted : answer.result = some result)
    (short : (result.length : Int) ≤ settings.inputLimit) :
    Answer.textOf settings result = .ok result := by
  obtain ⟨value, digits, shown, rfl, word⟩ := Answer.of_result answered resulted
  obtain ⟨minus, numeral, written, rfl, reread⟩ := Decimal.fixed_reread behind shown
  rw [Answer.textOf, Answer.of_text_signed written word reread short]
  rfl

end Result

end Reckoner.Field
