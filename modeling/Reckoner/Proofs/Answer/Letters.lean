import Reckoner.Proofs.Answer.Outcome
import Reckoner.Proofs.Extraction.Unit

/-!
# What words are made of

A word of running text is meant to be a run of letters, and so is the unit that is taken from one.
Number signs are let into words as well, so a figure that is set high, a fraction or a Roman numeral
can be taken for a unit. They are the only other characters: in a text without number signs, words
are made of letters, and whatever else is not part of the arithmetic is dropped.
-/

namespace Reckoner

set_option autoImplicit false

namespace Extraction

section Placed

variable {front rest : Text} {piece : Piece} {c : Char}

theorem Placed.eq_word (placed : Placed front piece rest) (member : c ∈ piece.text)
    (inWord : Text.isWordCharacter c = true) :
    ∃ letters, piece = .token (.bare .word letters) := by
  cases placed with
  | literal longest _ _ _ =>
      obtain ⟨numeral, written, spelled⟩ := longest.isLiteral
      rw [Piece.text, ← spelled] at member
      rw [is_word_character_of_mem_text written member] at inWord
      contradiction
  | opening =>
      rw [List.mem_singleton.1 member] at inWord
      exact absurd inWord (by decide +kernel)
  | closing =>
      rw [List.mem_singleton.1 member] at inWord
      exact absurd inWord (by decide +kernel)
  | operator sign =>
      have apart : ∀ sign ∈ "+-*/X".toList, Text.isWordCharacter sign = false :=
        forall_mem_of_all (by decide +kernel)
      rw [List.mem_singleton.1 member, apart _ sign] at inWord
      contradiction
  | word run => exact ⟨_, rfl⟩
  | blank run =>
      rw [Text.is_word_character_of_is_blank (run.inside c member)] at inWord
      contradiction
  | stray stray =>
      rw [List.mem_singleton.1 member, stray.noWord] at inWord
      contradiction

theorem Placed.dropped (placed : Placed front piece rest)
    (beside : piece.token?.any isArithmetic = false) (member : c ∈ piece.text)
    (noWord : Text.isWordCharacter c = false) : Text.isBlank c = true ∨ piece = .stray c := by
  cases placed with
  | literal _ kind _ _ =>
      have figure := is_arithmetic_of_is_operand (is_operand_of_literal_kind kind)
      rw [Piece.token?, Option.any_some, figure] at beside
      contradiction
  | opening => contradiction
  | closing => contradiction
  | operator _ => contradiction
  | word run =>
      rw [run.inside c member] at noWord
      contradiction
  | blank run => exact .inl (run.inside c member)
  | stray _ => exact .inr (congrArg Piece.stray (List.mem_singleton.1 member).symm)

end Placed

section Words

variable {raw : Text}

theorem is_word_character_of_mem_word {token : Token} (listed : token ∈ tokensOf raw)
    (kind : token.kind = .word) : ∀ c ∈ token.text, Text.isWordCharacter c = true :=
  ((found_of_mem_tokens_of listed).is_unit kind token.text rfl).2

theorem mem_of_mem_token {token : Token} (listed : token ∈ tokensOf raw) :
    ∀ c ∈ token.text, c ∈ raw := by
  intro c member
  obtain ⟨piece, inside, same⟩ := List.mem_filterMap.1 listed
  rw [← text_of_pieces raw]
  apply List.mem_flatMap.2
  cases piece with
  | stray _ => contradiction
  | token other =>
      cases Option.some.inj same
      exact ⟨_, inside, member⟩

/-- Each part of a word in the text is in one of the words that are found. -/
theorem exists_word_of_mem {c : Char} (member : c ∈ raw)
    (inWord : Text.isWordCharacter c = true) :
    ∃ token ∈ tokensOf raw, token.kind = .word ∧ c ∈ token.text := by
  rw [← text_of_pieces raw] at member
  obtain ⟨piece, listed, inside⟩ := List.mem_flatMap.1 member
  obtain ⟨front, rest, placed⟩ := (partitions_pieces raw).placed_of_mem listed
  obtain ⟨letters, rfl⟩ := placed.eq_word inside inWord
  exact ⟨_, List.mem_filterMap.2 ⟨_, listed, rfl⟩, rfl, inside⟩

theorem exists_word_of_unit {unit : Text} (found : findUnit (tokensOf raw) = some unit) :
    ∃ token ∈ tokensOf raw, token.kind = .word ∧ token.text = unit := by
  obtain ⟨before, _, _, cut, _, _, follows⟩ := exists_of_unit_of found
  obtain ⟨gap, word, behind, rfl, _, kind, text⟩ := exists_of_word_of follows
  refine ⟨word, List.mem_filterMap.2 ⟨.token word, ?_, rfl⟩, kind, text⟩
  rw [cut]
  simp

theorem dropped_of_other {piece : Piece} (listed : piece ∈ pieces raw)
    (beside : piece.token?.any isArithmetic = false) {c : Char} (member : c ∈ piece.text)
    (noLetter : Text.isLetter c = false) (noSign : Text.isNumberSign c = false) :
    Text.isBlank c = true ∨ piece = .stray c := by
  obtain ⟨front, rest, placed⟩ := (partitions_pieces raw).placed_of_mem listed
  apply placed.dropped beside member
  rw [Bool.eq_false_iff]
  intro inWord
  rcases (Text.is_word_character_iff.1 inWord).2 with letter | sign
  · rw [noLetter] at letter
    contradiction
  · rw [noSign] at sign
    contradiction

end Words

end Extraction

namespace Answer

open Extraction (Piece isArithmetic pieces tokensOf)

section Letters

variable {settings : Settings} {raw : Text}

/-- The unit of an answer is one of the words of the text. -/
theorem exists_word_of_answer {answer : Answer} {unit : Text}
    (answered : ofText settings raw = .ok answer) (reported : answer.unit = some unit) :
    ∃ token ∈ tokensOf raw, token.kind = .word ∧ token.text = unit := by
  cases outcome_of_text answered with
  | value _ _ _ _ _ _ => exact Extraction.exists_word_of_unit reported
  | _ => contradiction

/-- Words, and with them the unit of an answer, are made of letters. Any other character that is not
part of the arithmetic is dropped, as a blank or as a stray character. -/
structure WordsOfLetters (settings : Settings) (raw : Text) : Prop where
  words : ∀ tokens, Extraction.scan settings.inputLimit raw = .ok tokens →
    ∀ token ∈ tokens, token.kind = .word → ∀ c ∈ token.text, Text.isLetter c = true
  units : ∀ answer unit, ofText settings raw = .ok answer → answer.unit = some unit →
    ∀ c ∈ unit, Text.isLetter c = true
  others : ∀ piece ∈ pieces raw, piece.token?.any isArithmetic = false →
    ∀ c ∈ piece.text, Text.isLetter c = false → Text.isBlank c = true ∨ piece = .stray c

theorem words_of_letters_of_no_sign (short : (raw.length : Int) ≤ settings.inputLimit)
    (plain : ∀ c ∈ raw, Text.isNumberSign c = false) : WordsOfLetters settings raw := by
  have lettered : ∀ token ∈ tokensOf raw, token.kind = .word →
      ∀ c ∈ token.text, Text.isLetter c = true := by
    intro token listed kind c member
    have inWord := Extraction.is_word_character_of_mem_word listed kind c member
    apply (Text.is_word_character_iff.1 inWord).2.resolve_right
    rw [plain c (Extraction.mem_of_mem_token listed c member)]
    exact Bool.false_ne_true
  constructor
  · intro tokens scanned
    rw [Extraction.scan_of_short short] at scanned
    cases scanned
    exact lettered
  · intro answer unit answered reported
    obtain ⟨token, listed, kind, rfl⟩ := exists_word_of_answer answered reported
    exact lettered token listed kind
  · intro piece listed beside c member noLetter
    obtain ⟨_, _, _, noSign⟩ := Extraction.placed_of_forall_mem plain listed
    exact Extraction.dropped_of_other listed beside member noLetter (noSign c member)

theorem no_sign_of_words_of_letters (short : (raw.length : Int) ≤ settings.inputLimit)
    (lettered : WordsOfLetters settings raw) : ∀ c ∈ raw, Text.isNumberSign c = false := by
  intro c member
  rw [Bool.eq_false_iff]
  intro sign
  obtain ⟨token, listed, kind, inside⟩ :=
    Extraction.exists_word_of_mem member (Text.is_word_character_of_is_number_sign sign)
  have letter := lettered.words _ (Extraction.scan_of_short short) token listed kind c inside
  rw [Text.is_letter_of_is_number_sign sign] at letter
  contradiction

end Letters

/-- The words of a text within the limit are made of letters exactly if there is no number sign in
it. No number sign is a letter, and each of them is in a word. Besides letters nothing else is let
into words, units are words, and what is neither letter nor number sign is dropped unless it is part
of the arithmetic. -/
theorem letters_unless_number_sign {settings : Settings} {raw : Text}
    (short : (raw.length : Int) ≤ settings.inputLimit) :
    Extraction.scan settings.inputLimit raw = .ok (tokensOf raw) ∧
    (WordsOfLetters settings raw ↔ ∀ c ∈ raw, Text.isNumberSign c = false) ∧
    (∀ c ∈ raw, Text.isNumberSign c = true → Text.isLetter c = false ∧
      ∃ token ∈ tokensOf raw, token.kind = .word ∧ c ∈ token.text) ∧
    (∀ token ∈ tokensOf raw, token.kind = .word → ∀ c ∈ token.text,
      c ≠ Text.timesSign ∧ (Text.isLetter c = true ∨ Text.isNumberSign c = true)) ∧
    (∀ answer unit, ofText settings raw = .ok answer → answer.unit = some unit →
      ∃ token ∈ tokensOf raw, token.kind = .word ∧ token.text = unit) ∧
    ∀ piece ∈ pieces raw, piece.token?.any isArithmetic = false → ∀ c ∈ piece.text,
      Text.isLetter c = false → Text.isNumberSign c = false →
        Text.isBlank c = true ∨ piece = .stray c := by
  refine ⟨Extraction.scan_of_short short, ?_, ?_, ?_, ?_, ?_⟩
  · constructor
    · exact no_sign_of_words_of_letters short
    · exact words_of_letters_of_no_sign short
  · intro c member sign
    constructor
    · exact Text.is_letter_of_is_number_sign sign
    · exact Extraction.exists_word_of_mem member (Text.is_word_character_of_is_number_sign sign)
  · intro token listed kind c member
    exact Text.is_word_character_iff.1
      (Extraction.is_word_character_of_mem_word listed kind c member)
  · intro answer unit answered reported
    exact exists_word_of_answer answered reported
  · intro piece listed beside c member noLetter noSign
    exact Extraction.dropped_of_other listed beside member noLetter noSign

/-- The fraction behind the figure is let into the word that follows it. -/
theorem fraction_in_word :
    ("2\u00bdkm + 1".toList.length : Int) ≤ ({} : Settings).inputLimit ∧
    ¬WordsOfLetters {} "2\u00bdkm + 1".toList ∧
    ∃ token ∈ tokensOf "2\u00bdkm + 1".toList, token.kind = .word ∧ '\u00bd' ∈ token.text := by
  have short : ("2\u00bdkm + 1".toList.length : Int) ≤ ({} : Settings).inputLimit := by decide
  have sign : Text.isNumberSign '\u00bd' = true := by decide +kernel
  have member : '\u00bd' ∈ "2\u00bdkm + 1".toList := by decide
  obtain ⟨_, lettered, signs, _⟩ := letters_unless_number_sign short
  refine ⟨short, ?_, (signs _ member sign).2⟩
  rw [lettered]
  intro plain
  rw [plain _ member] at sign
  contradiction

/-- A figure that is set high, as in the square of five, is reported as a unit. -/
theorem square_sign_reported :
    ofText {} "5\u00b2".toList = .ok {
      ok := true
      result := some "5 \u00b2".toList
      value := some (Binary64.ofDecimal 5 0)
      expression := some "5".toList
      unit := some "\u00b2".toList } ∧
    Text.isLetter '\u00b2' = false ∧ ¬WordsOfLetters {} "5\u00b2".toList := by
  have answered : ofText {} "5\u00b2".toList = .ok {
      ok := true
      result := some "5 \u00b2".toList
      value := some (Binary64.ofDecimal 5 0)
      expression := some "5".toList
      unit := some "\u00b2".toList } := by
    decide +kernel
  have noLetter : Text.isLetter '\u00b2' = false := by decide +kernel
  refine ⟨answered, noLetter, ?_⟩
  intro lettered
  have letter := lettered.units _ _ answered rfl '\u00b2' List.mem_cons_self
  rw [noLetter] at letter
  contradiction

end Answer

end Reckoner
