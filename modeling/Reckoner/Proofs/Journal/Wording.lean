import Reckoner.Journal
import Reckoner.Proofs.Expression.Lexing
import Reckoner.Proofs.Expression.Rearrangement
import Reckoner.Proofs.Text.Shown

/-!
# The wording of events

What the user types reaches a message in quotation marks only. What stands in it without them is
worded by the program: counts, positions, the tokens of an expression that could be read, and what
is wrong with one that could not. So every character of a message is shown as itself.
-/

namespace Reckoner

open Text

set_option autoImplicit false

namespace Binary64

theorem is_shown_exponent_text (exponent : Int) : IsShown (exponentText exponent) := by
  have digits := is_shown_numeral exponent.natAbs
  have zero : isPrintable '0' = true := rfl
  unfold exponentText
  rw [is_shown_cons]
  constructor
  · split <;> rfl
  · split
    · exact is_shown_cons.2 ⟨zero, digits⟩
    · exact digits

theorem is_shown_layout {digits : Text} (shown : IsShown digits) (point : Int) :
    IsShown (layout digits point) := by
  have zeros := is_shown_replicate (show isPrintable '0' = true from rfl)
  have first := fun count => shown.of_subset (List.take_subset count digits)
  have rest := fun count => shown.of_subset (List.drop_subset count digits)
  have mark : IsShown ['0', '.', 'e'] := is_shown_phrase rfl
  simp only [is_shown_cons] at mark
  unfold layout
  dsimp only
  split
  · split
    · simp [mark, zeros, shown]
    · split
      · simp [mark, zeros, shown]
      · simp [mark, first, rest]
  · have fraction : IsShown (if (digits.drop 1).isEmpty then [] else '.' :: digits.drop 1) := by
      split
      · exact is_shown_nil
      · exact is_shown_cons.2 ⟨mark.2.1, rest 1⟩
    simp only [is_shown_append, is_shown_cons]
    exact ⟨⟨first 1, fraction⟩, mark.2.2.1, is_shown_exponent_text _⟩

theorem is_shown_text (value : Binary64) : IsShown value.text := by
  cases value with
  | nan => exact is_shown_phrase rfl
  | infinite negative => cases negative <;> exact is_shown_phrase rfl
  | finite negative rank =>
      have sign : IsShown (if negative then ['-'] else []) := by
        cases negative <;> exact is_shown_phrase rfl
      unfold text
      dsimp only
      split
      · exact is_shown_append.2 ⟨sign, is_shown_phrase rfl⟩
      · refine is_shown_append.2 ⟨sign, is_shown_layout ?_ _⟩
        exact is_shown_of_digits (Decimal.is_digit_of_mem_trim_zeros
          (Decimal.is_digit_of_mem_numeral _))

end Binary64

namespace Fault

variable {fault : Fault} {code : Text}

theorem is_shown_code (coded : fault.code? = some code) : IsShown code := by
  have known : ∀ category : Category, IsShown category.code := by
    intro category
    cases category <;> exact is_shown_phrase rfl
  unfold code? at coded
  split at coded
  · cases coded
    exact is_shown_phrase rfl
  · obtain ⟨category, _, rfl⟩ := Option.map_eq_some_iff.1 coded
    exact known category

/-- A fault that carries a code is worded in printable characters. -/
theorem is_shown_message (coded : fault.code? = some code) : IsShown fault.message := by
  cases fault with
  | inputTooLong limit =>
      exact .append (.append (is_shown_phrase rfl) (is_shown_integer_numeral limit))
        (is_shown_phrase rfl)
  | invalidCharacter c position | unexpectedCharacter c position =>
      exact .append (.append (.append (is_shown_phrase rfl) (is_shown_quoted [c]))
        (is_shown_phrase rfl)) (is_shown_numeral position)
  | unexpectedToken text => exact .append (is_shown_phrase rfl) (is_shown_quoted text)
  | missingOperand symbol | unknownOperator symbol =>
      exact .append (is_shown_phrase rfl) (is_shown_quoted symbol)
  | notFinite value => exact .append (is_shown_phrase rfl) value.is_shown_text
  | mismatchedParentheses | leftoverOperands | emptyExpression => exact is_shown_phrase rfl
  | _ => contradiction

end Fault

namespace Expression

theorem Lexes.is_shown_text {source : Text} {found : List Token} (lexes : Lexes source found) :
    ∀ token ∈ found, IsShown token.text := by
  induction lexes with
  | done => exact List.forall_mem_nil _
  | blank _ _ ih => exact ih
  | literal written _ _ ih =>
      refine List.forall_mem_cons.2 ⟨?_, ih⟩
      intro c member
      rcases mem_text_cases written member with digit | rfl | rfl
      · exact is_shown_of_digits (List.forall_mem_singleton.2 digit) c List.mem_cons_self
      · rfl
      · rfl
  | symbol found _ ih =>
      refine List.forall_mem_cons.2 ⟨?_, ih⟩
      rcases symbol_cases found with ⟨_, rfl⟩ | ⟨_, rfl⟩ | ⟨operator, _, rfl⟩
      · exact is_shown_phrase rfl
      · exact is_shown_phrase rfl
      · cases operator <;> exact is_shown_phrase rfl

theorem is_shown_marked (previous : Option Token) {token : Token} (shown : IsShown token.text) :
    IsShown (marked previous token).text := by
  unfold marked
  split
  · split
    · exact is_shown_phrase rfl
    · split
      · exact is_shown_phrase rfl
      · exact shown
  · exact shown

theorem is_shown_mark_signs_after (previous : Option Token) {tokens : List Token}
    (shown : ∀ token ∈ tokens, IsShown token.text) :
    ∀ token ∈ markSignsAfter previous tokens, IsShown token.text := by
  induction tokens generalizing previous with
  | nil => exact List.forall_mem_nil _
  | cons token rest ih =>
      obtain ⟨first, others⟩ := List.forall_mem_cons.1 shown
      exact List.forall_mem_cons.2 ⟨is_shown_marked previous first, ih _ others⟩

/-- The tokens of an expression, signs included, are written in printable characters. -/
theorem is_shown_postfix_of {expression : Text} {queue : List Token}
    (ordered : postfixOf expression = .ok queue) : ∀ token ∈ queue, IsShown token.text := by
  obtain ⟨text, _, cut⟩ := exists_of_bind_eq_ok ordered
  obtain ⟨found, read, reordered⟩ := exists_of_bind_eq_ok cut
  split at reordered
  · contradiction
  · have shown := is_shown_mark_signs_after none (tokens_eq_ok_iff.1 read).is_shown_text
    intro token member
    have kept := (to_postfix_perm reordered).subset member
    exact shown token (List.mem_of_mem_filter kept)

end Expression

namespace Journal

theorem Instant.is_shown_text (instant : Instant) : IsShown instant.text := by
  have numeral : ∀ {mark : Char}, isPrintable mark = true → ∀ width value,
      IsShown (mark :: Decimal.padded width value) :=
    fun printable width value => is_shown_cons.2 ⟨printable, is_shown_padded width value⟩
  have day : IsShown instant.date.text :=
    .append (.append (is_shown_padded 4 _) (numeral rfl 2 _)) (numeral rfl 2 _)
  have fraction : IsShown (if instant.microseconds = 0 then []
      else '.' :: Decimal.padded 6 instant.microseconds) := by
    split
    · exact is_shown_nil
    · exact numeral rfl 6 _
  exact .append (.append (.append (.append day (numeral rfl 2 _)) (numeral rfl 2 _))
    (numeral rfl 2 _)) fraction

namespace Event

/-- What is worded without quotation marks in the message of an event is shown as it is. -/
def IsPlain : Event → Prop
  | ordered _ queue => ∀ token ∈ queue, IsShown token.text
  | refused fault | unanswered _ fault => fault.code?.isSome = true
  | extracted _ _ | rewrote _ _ => True

theorem is_shown_quoted_or_none (text : Option Text) : IsShown (Answer.quotedOrNone text) := by
  cases text with
  | none => exact is_shown_phrase rfl
  | some text => exact is_shown_quoted text

/-- A plain event is worded in printable characters. -/
theorem is_shown_message {event : Event} (plain : event.IsPlain) : IsShown event.message := by
  have faulty : ∀ {fault : Fault}, fault.code?.isSome = true →
      IsShown fault.message ∧ IsShown (fault.code?.getD []) := by
    intro fault coded
    obtain ⟨code, found⟩ := Option.isSome_iff_exists.1 coded
    rw [found]
    exact ⟨Fault.is_shown_message found, Fault.is_shown_code found⟩
  cases event with
  | extracted extraction raw =>
      have cut : IsShown ("Extraction(expression=".toList ++ quoted extraction.expression) :=
        .append (is_shown_phrase rfl) (is_shown_quoted extraction.expression)
      have found : IsShown (extractionText extraction) :=
        .append (.append (.append cut (is_shown_phrase rfl))
          (is_shown_quoted_or_none extraction.unit))
          (is_shown_phrase rfl)
      exact .append (.append (.append (is_shown_phrase rfl) found) (is_shown_phrase rfl))
        (is_shown_quoted raw)
  | ordered expression queue =>
      have named : IsShown ("RPN for ".toList ++ quoted expression) :=
        .append (is_shown_phrase rfl) (is_shown_quoted expression)
      have listed : IsShown (joined [' '] (queue.map Token.text)) := by
        apply is_shown_joined (is_shown_phrase rfl)
        intro text member
        obtain ⟨token, queued, rfl⟩ := List.mem_map.1 member
        exact plain token queued
      exact .append (.append named (is_shown_phrase rfl)) listed
  | refused fault => exact .append (is_shown_phrase rfl) (faulty plain).1
  | unanswered expression fault =>
      obtain ⟨wording, code⟩ := faulty plain
      have named : IsShown ("Could not evaluate ".toList ++ quoted expression) :=
        .append (is_shown_phrase rfl) (is_shown_quoted expression)
      have told : IsShown ("Could not evaluate ".toList ++ quoted expression ++ ": ".toList
          ++ fault.message) := .append (.append named (is_shown_phrase rfl)) wording
      exact .append (.append (.append told (is_shown_phrase rfl)) code) (is_shown_phrase rfl)
  | rewrote bounds line =>
      have start : IsShown ("Rewrote line ".toList ++ Decimal.numeral bounds.start) :=
        .append (is_shown_phrase rfl) (is_shown_numeral bounds.start)
      have stop : IsShown ('-' :: Decimal.numeral bounds.stop) :=
        is_shown_cons.2 ⟨rfl, is_shown_numeral bounds.stop⟩
      exact .append (.append (.append start stop) (is_shown_phrase rfl)) (is_shown_quoted line)

section Plain

theorem is_plain_of_extraction (limit : Int) (raw : Text) :
    ∀ event ∈ ofExtraction limit raw, event.IsPlain := by
  unfold ofExtraction
  split
  · exact List.forall_mem_singleton.2 trivial
  · exact List.forall_mem_nil _

theorem is_plain_of_expression (expression : Text) :
    ∀ event ∈ ofExpression expression, event.IsPlain := by
  unfold ofExpression
  split
  case h_1 queue ordered =>
    exact List.forall_mem_singleton.2 (Expression.is_shown_postfix_of ordered)
  case h_2 => exact List.forall_mem_nil _

theorem is_plain_of_extraction_answer (settings : Settings) (extraction : Extraction) :
    ∀ event ∈ ofExtractionAnswer settings extraction, event.IsPlain := by
  unfold ofExtractionAnswer
  split
  · exact List.forall_mem_nil _
  · refine List.forall_mem_append.2 ⟨is_plain_of_expression _, ?_⟩
    split
    · exact List.forall_mem_nil _
    · split
      case isTrue coded => exact List.forall_mem_singleton.2 coded
      case isFalse => exact List.forall_mem_nil _

theorem is_plain_of_answer (settings : Settings) (raw : Text) :
    ∀ event ∈ ofAnswer settings raw, event.IsPlain := by
  unfold ofAnswer
  split
  case h_1 extraction read =>
      exact List.forall_mem_cons.2 ⟨trivial, is_plain_of_extraction_answer settings extraction⟩
  case h_2 fault refused =>
      -- A text is refused for its length only.
      have long : fault = .inputTooLong settings.inputLimit := by
        unfold Extraction.ofText Extraction.scan at refused
        split at refused <;> cases refused
        rfl
      rw [long]
      exact List.forall_mem_singleton.2 rfl

theorem is_plain_of_edit (settings : Settings) (value : Text) (caret : Int) :
    ∀ event ∈ ofEdit settings value caret, event.IsPlain := by
  unfold ofEdit
  dsimp only
  split
  · exact List.forall_mem_nil _
  · refine List.forall_mem_append.2 ⟨is_plain_of_answer settings _, ?_⟩
    split
    · exact List.forall_mem_singleton.2 trivial
    · exact List.forall_mem_nil _

theorem is_plain_of_host_run (settings : Settings) (host : Field.Host)
    (changes : List Field.Host.Change) :
    ∀ event ∈ ofHostRun settings host changes, event.IsPlain := by
  induction changes generalizing host with
  | nil => exact List.forall_mem_nil _
  | cons change rest ih =>
      rw [ofHostRun]
      refine List.forall_mem_append.2 ⟨is_plain_of_edit settings _ _, ?_⟩
      split
      · exact ih _
      · exact List.forall_mem_nil _

end Plain

def entry (created : Seconds) (event : Event) : Entry where
  created := created
  level := event.severity.number
  source := event.source
  template := event.message

theorem is_shown_line_of {event : Event} (plain : event.IsPlain) : IsShown (lineOf event) := by
  have level : IsShown ('[' :: Entry.levelName event.severity.number) := by
    cases event.severity <;> exact is_shown_phrase rfl
  have source : IsShown event.source := by
    cases event <;> exact is_shown_phrase rfl
  have bracket : IsShown "] ".toList := is_shown_phrase rfl
  have colon : IsShown ": ".toList := is_shown_phrase rfl
  exact .append (.append (.append (.append level bracket) source) colon) (is_shown_message plain)

/-- The entry of an event stays on one line, if its time can be written. -/
theorem is_shown_entry {created : Seconds} {event : Event} {line : Text} (plain : event.IsPlain)
    (told : (event.entry created).text = .ok line) : IsShown line := by
  obtain ⟨instant, _, told⟩ := exists_of_bind_eq_ok told
  obtain ⟨time, _, told⟩ := exists_of_bind_eq_ok told
  obtain ⟨message, worded, told⟩ := exists_of_bind_eq_ok told
  cases worded
  cases told
  have stamped : IsShown (time.text ++ ' ' :: lineOf event) :=
    time.is_shown_text.append (is_shown_cons.2 ⟨rfl, is_shown_line_of plain⟩)
  exact stamped.append is_shown_nil

end Event

end Journal

end Reckoner
