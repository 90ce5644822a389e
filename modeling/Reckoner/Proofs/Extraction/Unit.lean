import Reckoner.Proofs.Extraction.Contents
import Reckoner.Proofs.Extraction.Partition

/-!
# The unit of a text

The unit is the word behind the first literal with nothing but blanks and stray characters between
them. This says where it stands in the text itself: there is one way at most to part a text so that
the first literal, what lies between, and the unit are in the places meant for them, and the text
has a unit exactly if there is one.
-/

namespace Reckoner.Extraction

set_option autoImplicit false

structure UnitParts where
  front : Text
  literal : Text
  gap : Text
  unit : Text
  behind : Text

def UnitParts.text (parts : UnitParts) : Text :=
  parts.front ++ (parts.literal ++ (parts.gap ++ (parts.unit ++ parts.behind)))

/-- The second part is the first literal, and behind it, with blanks and stray characters at most
between them, the fourth one is a whole word. -/
structure UnitParts.Fit (parts : UnitParts) : Prop where
  noDigit : ∀ c ∈ parts.front, c.isDigit = false
  longest : Numeral.IsLongest parts.literal (parts.gap ++ (parts.unit ++ parts.behind))
  between : ∀ c ∈ parts.gap, Text.isBlank c = true ∨ IsStray c
  word : IsRun Text.isWordCharacter (parts.front ++ (parts.literal ++ parts.gap)) parts.unit
    parts.behind

def Piece.isGap (piece : Piece) : Bool :=
  piece.token?.all (·.kind = .blank)

section Joining

variable {front behind rest : Text} {piece : Piece} {cut : List Piece} {test : Char → Bool}

theorem Breaks.of_append (breaks : Breaks test (front ++ behind) rest) :
    Breaks test behind rest := by
  intro c last
  apply breaks c
  rw [List.getLast?_append, Option.mem_def.1 last]
  rfl

theorem Apart.of_append (apart : Apart (front ++ behind) rest) : Apart behind rest :=
  ⟨apart.words.of_append, apart.blanks.of_append⟩

theorem apart_of_head (solid : ∀ c ∈ rest.head?, Text.isWordCharacter c = false ∧
    Text.isBlank c = false) : Apart front rest :=
  ⟨fun _ _ next first _ => (solid next first).1, fun _ _ next first _ => (solid next first).2⟩

theorem IsRun.append {run : Text} (isRun : IsRun test front run behind)
    (breaks : Breaks test (run ++ behind) rest) : IsRun test front run (behind ++ rest) where
  ne_nil := isRun.ne_nil
  inside := isRun.inside
  opens := isRun.opens
  closes := by
    intro c first
    cases behind with
    | nil =>
        rw [List.append_nil] at breaks
        have last := List.getLast?_eq_some_getLast isRun.ne_nil
        exact breaks _ last c first (isRun.inside _ (List.getLast_mem isRun.ne_nil))
    | cons next behind => exact isRun.closes c first

/-- A piece without digits keeps its place when a text is added behind. A literal might grow. -/
theorem Placed.append (placed : Placed front piece behind)
    (noDigit : ∀ c ∈ piece.text, c.isDigit = false) (apart : Apart (piece.text ++ behind) rest) :
    Placed front piece (behind ++ rest) := by
  cases placed with
  | literal longest _ _ _ =>
      obtain ⟨numeral, written, spelled⟩ := longest.isLiteral
      obtain ⟨c, others, text, digit⟩ := Expression.text_eq_cons written
      rw [noDigit c (by rw [Piece.text, ← spelled, text]; exact List.mem_cons_self)] at digit
      contradiction
  | opening => exact .opening
  | closing => exact .closing
  | operator sign => exact .operator sign
  | word run => exact .word (run.append apart.words)
  | blank run => exact .blank (run.append apart.blanks)
  | stray stray => exact .stray stray

theorem AllPlaced.pieces_append (placed : AllPlaced cut)
    (noDigit : ∀ c ∈ textOf cut, c.isDigit = false) (apart : Apart (textOf cut) rest) :
    pieces (textOf cut ++ rest) = cut ++ pieces rest := by
  induction placed with
  | nil => rfl
  | cons here _ ih =>
      rw [text_of_cons] at noDigit apart
      obtain ⟨first, others⟩ := List.forall_mem_append.1 noDigit
      rw [text_of_cons, List.append_assoc, (here.append first apart).pieces_eq,
        ih others apart.of_append]
      rfl

/-- A text without digits in front of another one is cut by itself. -/
theorem pieces_append (noDigit : ∀ c ∈ front, c.isDigit = false) (apart : Apart front rest) :
    pieces (front ++ rest) = pieces front ++ pieces rest := by
  rw [← text_of_pieces front] at noDigit apart
  have joined := (all_placed_pieces front).pieces_append noDigit apart
  rwa [text_of_pieces] at joined

end Joining

section Fit

variable {parts others : UnitParts}

theorem digit_of_is_longest {word rest : Text} (longest : Numeral.IsLongest word rest) :
    ∃ c others, word = c :: others ∧ c.isDigit = true := by
  obtain ⟨numeral, written, rfl⟩ := longest.isLiteral
  exact Expression.text_eq_cons written

theorem UnitParts.Fit.head_literal (fit : parts.Fit) :
    ∀ c ∈ (parts.literal ++ (parts.gap ++ (parts.unit ++ parts.behind))).head?,
      c.isDigit = true := by
  intro c first
  obtain ⟨digit, others, text, isDigit⟩ := digit_of_is_longest fit.longest
  rw [text] at first
  cases Option.some.inj first
  exact isDigit

theorem UnitParts.Fit.not_word_gap (fit : parts.Fit) :
    ∀ c ∈ parts.gap, Text.isWordCharacter c = false := by
  intro c member
  rcases fit.between c member with blank | stray
  · exact Text.is_word_character_of_is_blank blank
  · exact stray.noWord

theorem UnitParts.Fit.head_unit (fit : parts.Fit) :
    ∀ c ∈ (parts.unit ++ parts.behind).head?, Text.isWordCharacter c = true := by
  intro c first
  rw [List.head?_append_of_ne_nil _ fit.word.ne_nil] at first
  exact fit.word.inside c (List.mem_of_head? first)

/-- There is no other way to part the text. -/
theorem UnitParts.Fit.unique (fit : parts.Fit) (otherFit : others.Fit)
    (same : parts.text = others.text) : parts = others := by
  -- from the left, each part stops where the first character of the next one stands
  obtain ⟨fronts, figures⟩ := @eq_of_append_of_stop _ (fun c => !c.isDigit) _ _ _ _
    (by simpa using fit.noDigit) (by simpa using fit.head_literal)
    (by simpa using otherFit.noDigit) (by simpa using otherFit.head_literal) same
  have literals := fit.longest.unique otherFit.longest figures
  rw [literals] at figures
  obtain ⟨gaps, words⟩ := @eq_of_append_of_stop _ (fun c => !Text.isWordCharacter c) _ _ _ _
    (by simpa using fit.not_word_gap) (by simpa using fit.head_unit)
    (by simpa using otherFit.not_word_gap) (by simpa using otherFit.head_unit)
    (List.append_cancel_left figures)
  obtain ⟨units, rests⟩ := eq_of_append_of_stop fit.word.inside fit.word.closes
    otherFit.word.inside otherFit.word.closes words
  cases parts
  cases others
  cases fronts
  cases literals
  cases gaps
  cases units
  cases rests
  rfl

/-- The text is cut at the borders of the parts. -/
theorem UnitParts.Fit.pieces_eq (fit : parts.Fit) :
    ∃ numeral : Numeral, numeral.text = parts.literal ∧
      pieces parts.text = pieces parts.front ++ .token (.ofNumeral numeral) ::
        (pieces parts.gap ++ .token (.bare .word parts.unit) :: pieces parts.behind) := by
  obtain ⟨numeral, written, spelled⟩ := fit.longest.isLiteral
  have stops := Numeral.stops_before_of_is_longest written (spelled ▸ fit.longest)
  obtain ⟨first, letters, unit⟩ := List.exists_cons_of_ne_nil fit.word.ne_nil
  have frontApart : Apart parts.front
      (parts.literal ++ (parts.gap ++ (parts.unit ++ parts.behind))) := by
    apply apart_of_head
    intro c head
    have digit := fit.head_literal c head
    exact ⟨Text.is_word_character_of_is_digit digit, Text.is_blank_of_is_digit digit⟩
  have gapApart : Apart parts.gap (parts.unit ++ parts.behind) := by
    constructor
    · intro c last next _ inWord
      rw [fit.not_word_gap c (List.mem_of_getLast? last)] at inWord
      contradiction
    · intro _ _ next head _
      exact not_blank_of_is_word_character (fit.head_unit next head)
  have noDigit : ∀ c ∈ parts.gap, c.isDigit = false := by
    intro c member
    rcases fit.between c member with blank | stray
    · exact not_digit_of_is_blank blank
    · exact stray.noDigit
  have word : pieces (parts.unit ++ parts.behind) =
      .token (.bare .word parts.unit) :: pieces parts.behind := by
    rw [unit]
    exact pieces_word (unit ▸ fit.word.inside) fit.word.closes
  refine ⟨numeral, spelled, ?_⟩
  rw [UnitParts.text, pieces_append fit.noDigit frontApart, ← spelled, pieces_literal written stops,
    pieces_append noDigit gapApart, word]

end Fit

section Search

variable {piece : Piece} {cut : List Piece} {token : Token} {unit : Text}

def unitOf (cut : List Piece) : Option Text :=
  findUnit (cut.filterMap Piece.token?)

def wordOf (cut : List Piece) : Option Text :=
  leadingWord? (cut.filterMap Piece.token?)

theorem unit_of_cons_of_other (other : piece.token?.any Token.isOperand = false)
    (cut : List Piece) :
    unitOf (piece :: cut) = unitOf cut := by
  cases piece with
  | stray c => rfl
  | token token =>
      have noOperand : token.isOperand = false := other
      change leadingWord? (((token :: _).dropWhile _).drop 1) = _
      rw [List.dropWhile_cons_of_pos (by simp [noOperand])]
      rfl

theorem unit_of_cons_of_operand (operand : token.isOperand = true) (cut : List Piece) :
    unitOf (.token token :: cut) = wordOf cut := by
  change leadingWord? (((token :: _).dropWhile _).drop 1) = _
  rw [List.dropWhile_cons_of_neg (by simp [operand])]
  rfl

theorem word_of_cons_of_gap (gap : piece.isGap = true) (cut : List Piece) :
    wordOf (piece :: cut) = wordOf cut := by
  cases piece with
  | stray c => rfl
  | token token =>
      have blank : token.kind = .blank := by simpa [Piece.isGap, Piece.token?] using gap
      change leadingWord? (token :: _) = _
      rw [leadingWord?, blank]
      rfl

theorem word_of_cons_of_word (word : token.kind = .word) (cut : List Piece) :
    wordOf (.token token :: cut) = some token.text := by
  change leadingWord? (token :: _) = _
  rw [leadingWord?, word]

theorem word_of_cons_of_other (gap : piece.isGap = false)
    (noWord : ∀ token, piece = .token token → token.kind ≠ .word) (cut : List Piece) :
    wordOf (piece :: cut) = none := by
  cases piece with
  | stray c => contradiction
  | token token =>
      have noBlank : token.kind ≠ .blank := by simpa [Piece.isGap, Piece.token?] using gap
      change leadingWord? (token :: _) = none
      unfold leadingWord?
      split
      · exact absurd ‹_› noBlank
      · exact absurd ‹_› (noWord token rfl)
      · rfl

theorem unit_of_append {before : List Piece}
    (others : ∀ piece ∈ before, piece.token?.any Token.isOperand = false) :
    unitOf (before ++ cut) = unitOf cut := by
  induction before with
  | nil => rfl
  | cons piece before ih =>
      obtain ⟨first, others⟩ := List.forall_mem_cons.1 others
      rw [List.cons_append, unit_of_cons_of_other first, ih others]

theorem word_of_append {gap : List Piece} (gaps : ∀ piece ∈ gap, piece.isGap = true) :
    wordOf (gap ++ cut) = wordOf cut := by
  induction gap with
  | nil => rfl
  | cons piece gap ih =>
      obtain ⟨first, others⟩ := List.forall_mem_cons.1 gaps
      rw [List.cons_append, word_of_cons_of_gap first, ih others]

theorem exists_of_word_of (found : wordOf cut = some unit) :
    ∃ gap word behind, cut = gap ++ .token word :: behind ∧ (∀ piece ∈ gap, piece.isGap = true) ∧
      word.kind = .word ∧ word.text = unit := by
  induction cut with
  | nil => contradiction
  | cons piece cut ih =>
      cases gap : piece.isGap with
      | true =>
          rw [word_of_cons_of_gap gap] at found
          obtain ⟨others, word, behind, rfl, gaps, kind, text⟩ := ih found
          exact ⟨piece :: others, word, behind, rfl, List.forall_mem_cons.2 ⟨gap, gaps⟩, kind, text⟩
      | false =>
          by_cases word : ∃ token, piece = .token token ∧ token.kind = .word
          · obtain ⟨token, rfl, kind⟩ := word
            rw [word_of_cons_of_word kind] at found
            exact ⟨[], token, cut, rfl, List.forall_mem_nil _, kind, Option.some.inj found⟩
          · rw [word_of_cons_of_other gap fun token same kind => word ⟨token, same, kind⟩] at found
            contradiction

theorem exists_of_unit_of (found : unitOf cut = some unit) :
    ∃ before token behind, cut = before ++ .token token :: behind ∧
      (∀ piece ∈ before, piece.token?.any Token.isOperand = false) ∧ token.isOperand = true ∧
      wordOf behind = some unit := by
  induction cut with
  | nil => contradiction
  | cons piece cut ih =>
      cases operand : piece.token?.any Token.isOperand with
      | true =>
          cases piece with
          | stray c => contradiction
          | token token =>
              rw [unit_of_cons_of_operand operand] at found
              exact ⟨[], token, cut, rfl, List.forall_mem_nil _, operand, found⟩
      | false =>
          rw [unit_of_cons_of_other operand] at found
          obtain ⟨before, token, behind, rfl, others, first, word⟩ := ih found
          exact ⟨piece :: before, token, behind, rfl, List.forall_mem_cons.2 ⟨operand, others⟩,
            first, word⟩

end Search

section Classes

variable {front rest : Text} {piece : Piece} {token : Token}

theorem Placed.is_longest (placed : Placed front (.token token) rest)
    (operand : token.isOperand = true) : Numeral.IsLongest token.text rest := by
  cases placed with
  | literal longest _ _ _ => exact longest
  | _ => contradiction

/-- Literals are the pieces that hold digits. -/
theorem Placed.not_operand_iff (placed : Placed front piece rest) :
    piece.token?.any Token.isOperand = false ↔ ∀ c ∈ piece.text, c.isDigit = false := by
  cases placed with
  | @literal token _ _ longest kind _ _ =>
      obtain ⟨c, others, text, digit⟩ := digit_of_is_longest longest
      refine iff_of_false ?_ fun noDigit => ?_
      · rw [Piece.token?, Option.any_some, is_operand_of_literal_kind kind]
        exact Bool.noConfusion
      · rw [noDigit c (by rw [Piece.text, text]; exact List.mem_cons_self)] at digit
        contradiction
  | opening => exact iff_of_true rfl (List.forall_mem_singleton.2 rfl)
  | closing => exact iff_of_true rfl (List.forall_mem_singleton.2 rfl)
  | operator sign =>
      have noDigit : ∀ sign ∈ "+-*/X".toList, sign.isDigit = false :=
        forall_mem_of_all (by decide)
      exact iff_of_true rfl (List.forall_mem_singleton.2 (noDigit _ sign))
  | word run =>
      exact iff_of_true rfl fun c member => not_digit_of_is_word_character (run.inside c member)
  | blank run => exact iff_of_true rfl fun c member => not_digit_of_is_blank (run.inside c member)
  | stray stray => exact iff_of_true rfl (List.forall_mem_singleton.2 stray.noDigit)

theorem not_gap_of_sign {c : Char} (sign : c ∈ "()+-*/X".toList) :
    ¬(Text.isBlank c = true ∨ IsStray c) := by
  have solid : ∀ sign ∈ "()+-*/X".toList, Text.isBlank sign = false :=
    forall_mem_of_all (by decide)
  rintro (blank | stray)
  · rw [solid c sign] at blank
    exact absurd blank Bool.false_ne_true
  · exact stray.noSign sign

/-- Runs of blanks and stray characters are the pieces without any other character. -/
theorem Placed.is_gap_iff (placed : Placed front piece rest) :
    piece.isGap = true ↔ ∀ c ∈ piece.text, Text.isBlank c = true ∨ IsStray c := by
  cases placed with
  | @literal token _ _ longest kind _ _ =>
      obtain ⟨c, others, text, digit⟩ := digit_of_is_longest longest
      refine iff_of_false (fun gap => ?_) fun between => ?_
      · have blank : token.kind = .blank := by simpa [Piece.isGap, Piece.token?] using gap
        have operand := is_operand_of_literal_kind kind
        rw [Token.isOperand, blank] at operand
        contradiction
      · rcases between c (by rw [Piece.text, text]; exact List.mem_cons_self) with blank | stray
        · rw [not_digit_of_is_blank blank] at digit
          contradiction
        · rw [stray.noDigit] at digit
          contradiction
  | opening =>
      refine iff_of_false Bool.false_ne_true fun between => ?_
      exact not_gap_of_sign (by decide) (between '(' List.mem_cons_self)
  | closing =>
      refine iff_of_false Bool.false_ne_true fun between => ?_
      exact not_gap_of_sign (by decide) (between ')' List.mem_cons_self)
  | operator sign =>
      refine iff_of_false Bool.false_ne_true fun between => ?_
      have listed := List.mem_cons_of_mem '(' (List.mem_cons_of_mem ')' sign)
      exact not_gap_of_sign listed (between _ List.mem_cons_self)
  | @word letters _ run =>
      obtain ⟨c, others, text⟩ := List.exists_cons_of_ne_nil run.ne_nil
      have member : c ∈ letters := by
        rw [text]
        exact List.mem_cons_self
      refine iff_of_false Bool.false_ne_true fun between => ?_
      have inWord := run.inside c member
      rcases between c member with blank | stray
      · rw [Text.is_word_character_of_is_blank blank] at inWord
        contradiction
      · rw [stray.noWord] at inWord
        contradiction
  | blank run => exact iff_of_true rfl fun c member => .inl (run.inside c member)
  | stray stray => exact iff_of_true rfl (List.forall_mem_singleton.2 (.inr stray))

end Classes

section Unit

variable {raw unit : Text}

theorem forall_mem_text_of {cut : List Piece} {Test : Char → Prop} :
    (∀ c ∈ textOf cut, Test c) ↔ ∀ piece ∈ cut, ∀ c ∈ piece.text, Test c :=
  List.forall_mem_flatMap

/-- The pieces of a text are in their places, and what holds of all its characters holds of
theirs. -/
theorem placed_of_forall_mem {source : Text} {Test : Char → Prop} (all : ∀ c ∈ source, Test c)
    {piece : Piece} (listed : piece ∈ pieces source) :
    ∃ front rest, Placed front piece rest ∧ ∀ c ∈ piece.text, Test c := by
  obtain ⟨front, rest, placed⟩ := (partitions_pieces source).placed_of_mem listed
  rw [← text_of_pieces source, forall_mem_text_of] at all
  exact ⟨front, rest, placed, all piece listed⟩

theorem exists_fit (found : unitOf (pieces raw) = some unit) :
    ∃ parts : UnitParts, parts.text = raw ∧ parts.Fit ∧ parts.unit = unit := by
  have partitions := partitions_pieces raw
  obtain ⟨before, token, _, cut, others, operand, follows⟩ := exists_of_unit_of found
  obtain ⟨gap, word, behind, rfl, gaps, kind, rfl⟩ := exists_of_word_of follows
  have literal := (partitions.placed before _ _ cut).is_longest operand
  have run := (partitions.placed (before ++ .token token :: gap) (.token word) behind
    (by rw [cut, List.append_assoc]; rfl)).is_run (by rw [kind]; rfl)
  refine ⟨⟨textOf before, token.text, textOf gap, word.text, textOf behind⟩, ?_, ?_, rfl⟩
  · rw [← text_of_pieces raw, cut, text_of_append, text_of_cons, text_of_append, text_of_cons]
    rfl
  · rw [text_of_append, text_of_cons] at literal run
    refine ⟨forall_mem_text_of.2 fun piece listed => ?_, literal,
      forall_mem_text_of.2 fun piece listed => ?_, run⟩
    · obtain ⟨_, _, placed⟩ := partitions.placed_of_mem (by
        rw [cut]
        exact List.mem_append_left _ listed)
      exact placed.not_operand_iff.1 (others piece listed)
    · obtain ⟨_, _, placed⟩ := partitions.placed_of_mem (by
        rw [cut]
        exact List.mem_append_right _ (List.mem_cons_of_mem _ (List.mem_append_left _ listed)))
      exact placed.is_gap_iff.1 (gaps piece listed)

theorem UnitParts.Fit.is_gap {parts : UnitParts} (fit : parts.Fit) :
    ∀ piece ∈ pieces parts.gap, piece.isGap = true := by
  intro piece listed
  obtain ⟨_, _, placed, between⟩ := placed_of_forall_mem fit.between listed
  exact placed.is_gap_iff.2 between

theorem UnitParts.Fit.unit_of_eq {parts : UnitParts} (fit : parts.Fit) :
    unitOf (pieces parts.text) = some parts.unit := by
  obtain ⟨numeral, _, cut⟩ := fit.pieces_eq
  have others : ∀ piece ∈ pieces parts.front, piece.token?.any Token.isOperand = false := by
    intro piece listed
    obtain ⟨_, _, placed, noDigit⟩ := placed_of_forall_mem fit.noDigit listed
    exact placed.not_operand_iff.2 noDigit
  rw [cut, unit_of_append others, unit_of_cons_of_operand (is_operand_of_numeral numeral),
    word_of_append fit.is_gap, word_of_cons_of_word rfl]
  rfl

/-- The unit of a text within the limit is the word behind its first literal, with nothing between
them but blanks and stray characters: the text can be parted so in one way at most, and where it
cannot be, it has no unit. The cutting keeps to the borders of the parts. -/
theorem unit_behind_first_literal {limit : Int} {raw : Text}
    (short : (raw.length : Int) ≤ limit) :
    ∃ extraction, ofText limit raw = .ok extraction ∧
      (∀ unit, extraction.unit = some unit ↔
        ∃ parts : UnitParts, parts.text = raw ∧ parts.Fit ∧ parts.unit = unit) ∧
      ((¬∃ parts : UnitParts, parts.text = raw ∧ parts.Fit) → extraction.unit = none) ∧
      (∀ parts others : UnitParts, parts.text = raw → others.text = raw → parts.Fit →
        others.Fit → parts = others) ∧
      ∀ parts : UnitParts, parts.text = raw → parts.Fit →
        (∃ numeral : Numeral, numeral.text = parts.literal ∧
          pieces raw = pieces parts.front ++ .token (.ofNumeral numeral) ::
            (pieces parts.gap ++ .token (.bare .word parts.unit) :: pieces parts.behind)) ∧
        ∀ piece ∈ pieces parts.gap, piece.isGap = true := by
  refine ⟨_, of_text_of_short short, fun unit => ⟨exists_fit, ?_⟩, fun none => ?_, ?_, ?_⟩
  · rintro ⟨parts, rfl, fit, rfl⟩
    exact fit.unit_of_eq
  · change unitOf (pieces raw) = _
    cases found : unitOf (pieces raw) with
    | none => rfl
    | some unit =>
        obtain ⟨parts, text, fit, _⟩ := exists_fit found
        exact absurd ⟨parts, text, fit⟩ none
  · intro parts others text otherText fit otherFit
    exact fit.unique otherFit (text.trans otherText.symm)
  · rintro parts rfl fit
    exact ⟨fit.pieces_eq, fit.is_gap⟩

/-- A second percent sign, a blank and a point may stand before the unit, and the capital X ends
it. -/
theorem unit_behind_stray_signs :
    ∃ extraction, ofText 14 "a 5%% .kmX 3km".toList = .ok extraction ∧
      extraction.unit = some "km".toList := by
  have written : Numeral.WellFormed ⟨['5'], [], true⟩ := by decide
  have fit : UnitParts.Fit ⟨"a ".toList, "5%".toList, "% .".toList, "km".toList,
      "X 3km".toList⟩ := {
    noDigit := forall_mem_of_all (by decide)
    longest := Numeral.is_longest_of_stops_before written (.inl rfl)
    between := by
      have signs : ∀ c ∈ "% .".toList, Text.isBlank c = true ∨ c = '%' ∨ c = '.' :=
        forall_mem_of_all (by decide)
      intro c member
      rcases signs c member with blank | rfl | rfl
      · exact .inl blank
      · exact .inr is_stray_percent
      · exact .inr is_stray_point
    word := {
      ne_nil := by decide
      inside := forall_mem_of_all (by decide +kernel)
      opens := by
        rintro c ⟨⟩
        decide +kernel
      closes := by
        rintro c ⟨⟩
        decide +kernel } }
  have short : ("a 5%% .kmX 3km".toList.length : Int) ≤ 14 := by decide
  obtain ⟨extraction, extracted, found, _⟩ := unit_behind_first_literal short
  exact ⟨extraction, extracted, (found _).2 ⟨_, rfl, fit, rfl⟩⟩

end Unit

end Reckoner.Extraction
