import Reckoner.Proofs.Binary64.Reading
import Reckoner.Proofs.Expression.Spacing
import Reckoner.Proofs.Extraction.Pieces

/-!
# Running text in pieces

What a piece of running text is depends on its place alone: literals are the longest there, words
and blanks are whole runs, and a character is stray if no token begins with it and no literal holds
it. A text can be cut in one way only so that all pieces are in their places, and it is cut in that
way.
-/

namespace Reckoner.Extraction

set_option autoImplicit false

def textOf (cut : List Piece) : Text :=
  cut.flatMap Piece.text

/-- The characters pass the test, and none that passes it stands next to them on either side. -/
structure IsRun (test : Char → Bool) (front run rest : Text) : Prop where
  ne_nil : run ≠ []
  inside : ∀ c ∈ run, test c = true
  opens : ∀ c ∈ front.getLast?, test c = false
  closes : ∀ c ∈ rest.head?, test c = false

/-- A literal that ends in a percent sign is a share, any other one a number. -/
def literalKind (word : Text) : Kind :=
  if word.getLast? = some '%' then .percent else .number

/-- The number that a literal names. A share is a hundredth of what stands before its sign. -/
def literalValue? (word : Text) : Option Binary64 :=
  if word.getLast? = some '%' then
    (Binary64.ofText? word.dropLast).map (· / Binary64.ofDecimal 100 0)
  else Binary64.ofText? word

/-- The character is of no class that tokens begin with: no digit, no parenthesis, no operator, no
typed multiplication sign, no part of a word and no blank. -/
structure IsStray (c : Char) : Prop where
  noDigit : c.isDigit = false
  noSign : c ∉ "()+-*/X".toList
  noWord : Text.isWordCharacter c = false
  noBlank : Text.isBlank c = false

/-- Between the text before it and the text behind it, the piece is what stands at its place. -/
inductive Placed (front : Text) : Piece → Text → Prop
  | literal {token : Token} {value : Binary64} {rest : Text} :
      Numeral.IsLongest token.text rest → token.kind = literalKind token.text →
      literalValue? token.text = some value → token.value = some value →
      Placed front (.token token) rest
  | opening {rest : Text} : Placed front (.token (.bare .openParen ['('])) rest
  | closing {rest : Text} : Placed front (.token (.bare .closeParen [')'])) rest
  | operator {c : Char} {rest : Text} :
      c ∈ "+-*/X".toList → Placed front (.token (.bare .operator [c])) rest
  | word {letters rest : Text} :
      IsRun Text.isWordCharacter front letters rest →
      Placed front (.token (.bare .word letters)) rest
  | blank {blanks rest : Text} :
      IsRun Text.isBlank front blanks rest → Placed front (.token (.bare .blank blanks)) rest
  | stray {c : Char} {rest : Text} : IsStray c → Placed front (.stray c) rest

/-- The pieces make up the text, and each of them is in its place. -/
structure Partitions (cut : List Piece) (source : Text) : Prop where
  whole : textOf cut = source
  placed : ∀ before piece behind, cut = before ++ piece :: behind →
    Placed (textOf before) piece (textOf behind)

theorem text_of_cons (piece : Piece) (cut : List Piece) :
    textOf (piece :: cut) = piece.text ++ textOf cut :=
  List.flatMap_cons

theorem text_of_append (cut others : List Piece) :
    textOf (cut ++ others) = textOf cut ++ textOf others :=
  List.flatMap_append

theorem text_of_pieces (source : Text) : textOf (pieces source) = source :=
  pieces_text source

section Literal

variable {numeral : Numeral}

theorem getLast_of_percent (percent : numeral.isPercent = true) :
    numeral.text.getLast? = some '%' := by
  rw [Numeral.text, percent, ← List.append_assoc]
  exact List.getLast?_concat

theorem dropLast_of_percent (percent : numeral.isPercent = true) :
    numeral.text.dropLast = Numeral.text { numeral with isPercent := false } := by
  rw [Numeral.text, percent, ← List.append_assoc,
    @Binary64.text_of_plain { numeral with isPercent := false } rfl]
  exact List.dropLast_concat

theorem getLast_of_plain (written : numeral.WellFormed) (plain : numeral.isPercent = false) :
    numeral.text.getLast? ≠ some '%' := by
  intro last
  have member := List.mem_of_getLast? last
  rw [Binary64.text_of_plain plain, Numeral.fractionText] at member
  rcases List.mem_append.1 member with whole | fraction
  · have digit := written.whole_digits _ whole
    contradiction
  · split at fraction
    · contradiction
    · rcases List.mem_cons.1 fraction with point | digits
      · contradiction
      · have digit := written.fraction_digits _ digits
        contradiction

theorem of_text_of_plain (written : numeral.WellFormed) (plain : numeral.isPercent = false) :
    Binary64.ofText? numeral.text = some numeral.plainValue :=
  Binary64.of_text_text written plain false

theorem literal_kind_text (written : numeral.WellFormed) :
    literalKind numeral.text = (Token.ofNumeral numeral).kind := by
  cases share : numeral.isPercent with
  | true => rw [literalKind, getLast_of_percent share, if_pos rfl, Token.ofNumeral, if_pos share]
  | false =>
      rw [literalKind, if_neg (getLast_of_plain written share), Token.ofNumeral,
        if_neg (by simp [share])]

/-- The token of a literal carries the number that its text names. -/
theorem literal_value_text (written : numeral.WellFormed) :
    literalValue? numeral.text = some numeral.value := by
  cases share : numeral.isPercent with
  | true =>
      have plain : Numeral.WellFormed { numeral with isPercent := false } :=
        ⟨written.whole_ne_nil, written.whole_digits, written.fraction_digits⟩
      rw [literalValue?, if_pos (getLast_of_percent share), dropLast_of_percent share,
        of_text_of_plain plain rfl, Numeral.value, if_pos share]
      rfl
  | false =>
      rw [literalValue?, if_neg (getLast_of_plain written share), of_text_of_plain written share,
        Numeral.value, if_neg (by simp [share])]

end Literal

section Stray

variable {c : Char}

theorem mem_signs_of_symbol {token : Token} (found : Token.ofSymbol? c = some token) :
    c ∈ "()+-*/X".toList := by
  rcases Expression.symbol_cases found with ⟨rfl, _⟩ | ⟨rfl, _⟩ | ⟨operator, rfl, _⟩
  · decide
  · decide
  · cases operator <;> decide

theorem not_mem_signs (noSymbol : Token.ofSymbol? c = none) (noTimes : c ≠ Text.timesSign) :
    c ∉ "()+-*/X".toList := by
  have signs : ∀ sign ∈ "()+-*/X".toList,
      (Token.ofSymbol? sign).isSome = true ∨ sign = Text.timesSign := forall_mem_of_all (by decide)
  intro member
  rcases signs c member with symbol | times
  · rw [noSymbol] at symbol
    exact absurd symbol Bool.false_ne_true
  · exact noTimes times

theorem IsStray.pieces_eq (stray : IsStray c) (rest : Text) :
    pieces (c :: rest) = .stray c :: pieces rest := by
  have noSymbol : Token.ofSymbol? c = none := by
    cases found : Token.ofSymbol? c with
    | none => rfl
    | some token => exact absurd (mem_signs_of_symbol found) stray.noSign
  have noTimes : c ≠ Text.timesSign := by
    rintro rfl
    exact stray.noSign (by decide)
  exact pieces_stray stray.noDigit noSymbol noTimes stray.noWord stray.noBlank rest

theorem is_stray_point : IsStray '.' :=
  ⟨rfl, by decide, by decide +kernel, rfl⟩

theorem is_stray_percent : IsStray '%' :=
  ⟨rfl, by decide, by decide +kernel, rfl⟩

end Stray

section Placed

variable {front rest : Text} {piece : Piece} {token : Token} {c : Char}

theorem placed_of_numeral {numeral : Numeral} (written : numeral.WellFormed)
    (stops : numeral.StopsBefore rest) : Placed front (.token (.ofNumeral numeral)) rest :=
  .literal (Numeral.is_longest_of_stops_before written stops) (literal_kind_text written).symm
    (literal_value_text written) rfl

theorem placed_symbol (found : Token.ofSymbol? c = some token) :
    Placed front (.token token) rest := by
  rcases Expression.symbol_cases found with ⟨_, rfl⟩ | ⟨_, rfl⟩ | ⟨operator, _, rfl⟩
  · exact .opening
  · exact .closing
  · cases operator <;> exact .operator (by decide)

/-- Behind any front, a piece in its place is the first one that is cut off. -/
theorem Placed.pieces_eq (placed : Placed front piece rest) :
    pieces (piece.text ++ rest) = piece :: pieces rest := by
  cases placed with
  | @literal token value _ longest kind named carried =>
      obtain ⟨numeral, written, spelled⟩ := longest.isLiteral
      rw [← spelled] at longest kind named
      rw [literal_kind_text written] at kind
      rw [literal_value_text written] at named
      have same : token = .ofNumeral numeral := by
        calc
          token = ⟨token.kind, token.text, token.value⟩ := rfl
          _ = .ofNumeral numeral := by rw [kind, ← spelled, carried, ← named]; rfl
      rw [same]
      exact pieces_literal written (Numeral.stops_before_of_is_longest written longest)
  | opening => exact pieces_symbol rfl rest
  | closing => exact pieces_symbol rfl rest
  | operator sign =>
      have signs : ∀ sign ∈ "+-*/X".toList,
          Token.ofSymbol? sign = some (.bare .operator [sign]) ∨ sign = Text.timesSign :=
        forall_mem_of_all (by decide)
      rcases signs _ sign with symbol | rfl
      · exact pieces_symbol symbol rest
      · exact pieces_times_sign rest
  | @word letters _ run =>
      obtain ⟨first, others, rfl⟩ := List.exists_cons_of_ne_nil run.ne_nil
      exact pieces_word run.inside run.closes
  | @blank blanks _ run =>
      obtain ⟨first, others, rfl⟩ := List.exists_cons_of_ne_nil run.ne_nil
      exact pieces_blank run.inside run.closes
  | stray stray => exact stray.pieces_eq rest

/-- The characters that the tokens of a kind are runs of. -/
def runTest? : Kind → Option (Char → Bool)
  | .word => some Text.isWordCharacter
  | .blank => some Text.isBlank
  | _ => none

theorem Placed.is_run {test : Char → Bool} (placed : Placed front (.token token) rest)
    (tested : runTest? token.kind = some test) : IsRun test front token.text rest := by
  cases placed with
  | literal _ kind _ _ =>
      rw [kind, literalKind] at tested
      split at tested <;> contradiction
  | opening => contradiction
  | closing => contradiction
  | operator _ => contradiction
  | word run =>
      cases tested
      exact run
  | blank run =>
      cases tested
      exact run

theorem is_operand_of_literal_kind (kind : token.kind = literalKind token.text) :
    token.isOperand = true := by
  unfold literalKind at kind
  split at kind
  · rw [Token.isOperand, kind]
  · rw [Token.isOperand, kind]

theorem Placed.not_is_stray (placed : Placed front (.token token) rest)
    (plain : token.isOperand = false) (member : c ∈ token.text) : ¬IsStray c := by
  intro stray
  cases placed with
  | literal _ kind _ _ =>
      rw [is_operand_of_literal_kind kind] at plain
      contradiction
  | opening => exact stray.noSign (by rw [List.mem_singleton.1 member]; decide)
  | closing => exact stray.noSign (by rw [List.mem_singleton.1 member]; decide)
  | operator sign =>
      rw [← List.mem_singleton.1 member] at sign
      exact stray.noSign (List.mem_cons_of_mem _ (List.mem_cons_of_mem _ sign))
  | word run =>
      have inWord := run.inside c member
      rw [stray.noWord] at inWord
      contradiction
  | blank run =>
      have blank := run.inside c member
      rw [stray.noBlank] at blank
      contradiction

theorem Placed.mem_literal (placed : Placed front (.token token) rest)
    (operand : token.isOperand = true) (member : c ∈ token.text) :
    c.isDigit = true ∨ c = '.' ∨ c = '%' := by
  cases placed with
  | literal longest _ _ _ =>
      obtain ⟨numeral, written, spelled⟩ := longest.isLiteral
      rw [← spelled] at member
      exact Expression.mem_text_cases written member
  | _ => contradiction

/-- A character is stray if it is a point or a percent sign that belongs to no literal, or if it is
another one of no class. -/
theorem Placed.stray_iff (placed : Placed front piece rest) (member : c ∈ piece.text) :
    piece = .stray c ↔
      ((c = '.' ∨ c = '%') ∧ piece.token?.any Token.isOperand = false) ∨
        (c ≠ '.' ∧ c ≠ '%' ∧ IsStray c) := by
  cases piece with
  | stray other =>
      cases placed with
      | stray stray =>
          cases List.mem_singleton.1 member
          refine iff_of_true rfl ?_
          by_cases sign : c = '.' ∨ c = '%'
          · exact .inl ⟨sign, rfl⟩
          · exact .inr ⟨fun point => sign (.inl point), fun percent => sign (.inr percent), stray⟩
  | token token =>
      refine iff_of_false nofun ?_
      rintro (⟨sign, plain⟩ | ⟨noPoint, noPercent, stray⟩)
      · apply placed.not_is_stray plain member
        rcases sign with rfl | rfl
        · exact is_stray_point
        · exact is_stray_percent
      · cases operand : token.isOperand with
        | false => exact placed.not_is_stray operand member stray
        | true =>
            rcases placed.mem_literal operand member with digit | point | percent
            · rw [stray.noDigit] at digit
              contradiction
            · exact noPoint point
            · exact noPercent percent

end Placed

section Boundary

variable {front run rest : Text} {test : Char → Bool} {c : Char}

/-- No run of characters that pass the test goes on from the one text to the other. -/
def Breaks (test : Char → Bool) (front rest : Text) : Prop :=
  ∀ c ∈ front.getLast?, ∀ next ∈ rest.head?, test c = true → test next = false

theorem Breaks.opens (breaks : Breaks test front (c :: rest)) (inside : test c = true) :
    ∀ last ∈ front.getLast?, test last = false := by
  intro last member
  by_contra passes
  have stops := breaks last member c rfl (by simpa using passes)
  rw [inside] at stops
  contradiction

theorem breaks_append (nonempty : run ≠ [])
    (stops : (∀ c ∈ run, test c = false) ∨ ∀ next ∈ rest.head?, test next = false) :
    Breaks test (front ++ run) rest := by
  intro c member next follows passes
  rw [List.getLast?_append_of_ne_nil _ nonempty] at member
  rcases stops with outside | closes
  · rw [outside c (List.mem_of_getLast? member)] at passes
    contradiction
  · exact closes next follows

/-- Neither a word nor a run of blanks goes on from the one text to the other. -/
structure Apart (front rest : Text) : Prop where
  words : Breaks Text.isWordCharacter front rest
  blanks : Breaks Text.isBlank front rest

theorem apart_nil (rest : Text) : Apart [] rest :=
  ⟨nofun, nofun⟩

theorem apart_solid (nonempty : run ≠ []) (noWord : ∀ c ∈ run, Text.isWordCharacter c = false)
    (noBlank : ∀ c ∈ run, Text.isBlank c = false) : Apart (front ++ run) rest :=
  ⟨breaks_append nonempty (.inl noWord), breaks_append nonempty (.inl noBlank)⟩

theorem apart_character (noWord : Text.isWordCharacter c = false)
    (noBlank : Text.isBlank c = false) : Apart (front ++ [c]) rest :=
  apart_solid (List.cons_ne_nil c []) (List.forall_mem_singleton.2 noWord)
    (List.forall_mem_singleton.2 noBlank)

theorem is_word_character_of_mem_text {numeral : Numeral} (written : numeral.WellFormed)
    (member : c ∈ numeral.text) : Text.isWordCharacter c = false := by
  rcases Expression.mem_text_cases written member with digit | rfl | rfl
  · exact Text.is_word_character_of_is_digit digit
  · exact is_stray_point.noWord
  · exact is_stray_percent.noWord

theorem apart_literal {numeral : Numeral} (written : numeral.WellFormed) :
    Apart (front ++ numeral.text) rest := by
  obtain ⟨first, others, text, _⟩ := Expression.text_eq_cons written
  apply apart_solid
  · rw [text]
    exact List.cons_ne_nil first others
  · exact fun _ => is_word_character_of_mem_text written
  · exact fun _ => Expression.is_blank_of_mem_text written

end Boundary

theorem placed_cons {front after : Text} {first : Piece} (here : Placed front first after)
    (others : ∀ before piece behind, pieces after = before ++ piece :: behind →
      Placed (front ++ first.text ++ textOf before) piece (textOf behind)) :
    ∀ before piece behind, first :: pieces after = before ++ piece :: behind →
      Placed (front ++ textOf before) piece (textOf behind) := by
  intro before piece behind parts
  cases before with
  | nil =>
      cases parts
      rw [text_of_pieces]
      exact (List.append_nil front).symm ▸ here
  | cons _ before =>
      obtain ⟨rfl, remaining⟩ := List.cons.inj parts
      rw [text_of_cons, ← List.append_assoc]
      exact others before piece behind remaining

/-- Cutting puts each piece in its place, also behind a text that no run goes on from. -/
theorem placed_of_pieces {front source : Text} (apart : Apart front source) :
    ∀ before piece behind, pieces source = before ++ piece :: behind →
      Placed (front ++ textOf before) piece (textOf behind) := by
  -- the induction is on the cutting; that no run goes on from what is cut off is its invariant, and
  -- with it the words and blanks that are found are whole on the left too
  fun_induction pieces source generalizing front with
  | case1 =>
      intro before piece behind parts
      simp at parts
  | case2 c rest numeral after literal ih =>
      obtain ⟨written, stops⟩ := Numeral.well_formed_of_read literal
      exact placed_cons (placed_of_numeral written stops) (ih (apart_literal written))
  | case3 c rest _ symbol found ih =>
      have text : symbol.text = [c] := Token.text_of_symbol found
      apply placed_cons (placed_symbol found)
      apply ih
      rw [Piece.text, text]
      exact apart_character (is_word_character_of_symbol found)
        (Expression.is_blank_of_symbol found)
  | case4 rest _ _ ih =>
      apply placed_cons (.operator (by decide))
      exact ih (apart_character (by decide +kernel) rfl)
  | case5 c rest _ _ _ inWord ih =>
      have inside : ∀ other ∈ c :: rest.takeWhile Text.isWordCharacter,
          Text.isWordCharacter other = true :=
        List.forall_mem_cons.2 ⟨inWord, fun _ => List.mem_takeWhile_imp⟩
      have closes := head_dropWhile Text.isWordCharacter rest
      apply placed_cons (.word ⟨List.cons_ne_nil _ _, inside, apart.words.opens inWord, closes⟩)
      apply ih
      constructor
      · exact breaks_append (List.cons_ne_nil _ _) (.inr closes)
      · exact breaks_append (List.cons_ne_nil _ _)
          (.inl fun other member => not_blank_of_is_word_character (inside other member))
  | case6 c rest _ _ _ _ blank ih =>
      have inside : ∀ other ∈ c :: rest.takeWhile Text.isBlank, Text.isBlank other = true :=
        List.forall_mem_cons.2 ⟨blank, fun _ => List.mem_takeWhile_imp⟩
      have closes := head_dropWhile Text.isBlank rest
      apply placed_cons (.blank ⟨List.cons_ne_nil _ _, inside, apart.blanks.opens blank, closes⟩)
      apply ih
      constructor
      · exact breaks_append (List.cons_ne_nil _ _)
          (.inl fun other member => Text.is_word_character_of_is_blank (inside other member))
      · exact breaks_append (List.cons_ne_nil _ _) (.inr closes)
  | case7 c rest missing noSymbol noTimes noWord noBlank ih =>
      have stray : IsStray c := {
        noDigit := Numeral.is_digit_of_read_eq_none missing
        noSign := not_mem_signs noSymbol noTimes
        noWord := by simpa using noWord
        noBlank := by simpa using noBlank }
      apply placed_cons (.stray stray)
      exact ih (apart_character stray.noWord stray.noBlank)

theorem partitions_pieces (source : Text) : Partitions (pieces source) source where
  whole := text_of_pieces source
  placed := fun before piece behind parts =>
    placed_of_pieces (apart_nil source) before piece behind parts

section Partitions

variable {cut : List Piece} {source : Text}

inductive AllPlaced : List Piece → Prop
  | nil : AllPlaced []
  | cons {front : Text} {piece : Piece} {cut : List Piece} :
      Placed front piece (textOf cut) → AllPlaced cut → AllPlaced (piece :: cut)

theorem Partitions.all_placed_behind (partitions : Partitions cut source)
    (before behind : List Piece) (parts : cut = before ++ behind) : AllPlaced behind := by
  induction behind generalizing before with
  | nil => exact .nil
  | cons piece behind ih =>
      apply AllPlaced.cons (partitions.placed before piece behind parts)
      apply ih (before ++ [piece])
      rw [parts, List.append_assoc]
      rfl

theorem Partitions.all_placed (partitions : Partitions cut source) : AllPlaced cut :=
  partitions.all_placed_behind [] cut rfl

theorem all_placed_pieces (source : Text) : AllPlaced (pieces source) :=
  (partitions_pieces source).all_placed

/-- Where each piece is in its place, cutting the text finds just these pieces. -/
theorem AllPlaced.pieces_text_of (placed : AllPlaced cut) : pieces (textOf cut) = cut := by
  induction placed with
  | nil => exact pieces.eq_1
  | cons here _ ih => rw [text_of_cons, here.pieces_eq, ih]

theorem Partitions.eq_pieces (partitions : Partitions cut source) : cut = pieces source := by
  rw [← partitions.whole]
  exact partitions.all_placed.pieces_text_of.symm

theorem Partitions.placed_of_mem {piece : Piece} (partitions : Partitions cut source)
    (member : piece ∈ cut) : ∃ front rest, Placed front piece rest := by
  obtain ⟨before, behind, parts⟩ := List.append_of_mem member
  exact ⟨_, _, partitions.placed before piece behind parts⟩

/-- Between two tokens that are runs of the same characters something must stand. -/
theorem Partitions.between_ne_nil {before between behind : List Piece} {left right : Token}
    {test : Char → Bool} (partitions : Partitions cut source)
    (parts : cut = before ++ .token left :: (between ++ .token right :: behind))
    (leftTest : runTest? left.kind = some test) (rightTest : runTest? right.kind = some test) :
    between ≠ [] := by
  rintro rfl
  have leftRun := (partitions.placed _ _ _ parts).is_run leftTest
  have rightRun := (partitions.placed (before ++ [.token left]) _ behind
    (by rw [parts, List.append_assoc]; rfl)).is_run rightTest
  obtain ⟨c, others, text⟩ := List.exists_cons_of_ne_nil rightRun.ne_nil
  have inside := rightRun.inside c (by rw [text]; exact List.mem_cons_self)
  have outside := leftRun.closes c (by
    rw [List.nil_append, text_of_cons, Piece.text, text]
    rfl)
  rw [inside] at outside
  contradiction

end Partitions

/-- A text within the limit is cut in the only way in which all pieces are in their places, and its
tokens are the pieces that are not stray characters. Which characters are stray, their class and the
literals decide. Two words, or two runs of blanks, never follow each other without a stray character
between them. -/
theorem cut_in_one_way {limit : Int} {raw : Text} (short : (raw.length : Int) ≤ limit) :
    scan limit raw = .ok ((pieces raw).filterMap Piece.token?) ∧
    (∀ cut, Partitions cut raw ↔ cut = pieces raw) ∧
    (∀ piece ∈ pieces raw, ∀ c ∈ piece.text,
      piece = .stray c ↔
        ((c = '.' ∨ c = '%') ∧ piece.token?.any Token.isOperand = false) ∨
          (c ≠ '.' ∧ c ≠ '%' ∧ IsStray c)) ∧
    ∀ before left between right behind,
      pieces raw = before ++ .token left :: (between ++ .token right :: behind) →
      (∀ piece ∈ between, piece.token? = none) → left.kind = right.kind →
      left.kind = .word ∨ left.kind = .blank → ∃ c, Piece.stray c ∈ between := by
  have partitions := partitions_pieces raw
  refine ⟨scan_of_short short, fun cut => ?_, ?_, ?_⟩
  · constructor
    · exact Partitions.eq_pieces
    · rintro rfl
      exact partitions
  · intro piece member c inside
    obtain ⟨front, rest, placed⟩ := partitions.placed_of_mem member
    exact placed.stray_iff inside
  · intro before left between right behind parts noToken same kind
    obtain ⟨test, tested⟩ : ∃ test, runTest? left.kind = some test := by
      rcases kind with word | blank
      · exact ⟨_, by rw [word]; rfl⟩
      · exact ⟨_, by rw [blank]; rfl⟩
    obtain ⟨piece, others, rfl⟩ := List.exists_cons_of_ne_nil
      (partitions.between_ne_nil parts tested (same ▸ tested))
    cases piece with
    | stray c => exact ⟨c, List.mem_cons_self⟩
    | token token => exact nomatch noToken _ List.mem_cons_self

/-- A second point and a second percent sign are stray, and so is the underscore, which parts two
words. -/
theorem underscore_parts_words :
    ∃ cut, Partitions cut "1.2.a_b 5%%".toList ∧ cut = [
        .token (.ofNumeral ⟨['1'], ['2'], false⟩), .stray '.', .token (.bare .word ['a']),
        .stray '_', .token (.bare .word ['b']), .token (.bare .blank [' ']),
        .token (.ofNumeral ⟨['5'], [], true⟩), .stray '%'] ∧
      scan 11 "1.2.a_b 5%%".toList = .ok (cut.filterMap Piece.token?) := by
  have short : ("1.2.a_b 5%%".toList.length : Int) ≤ 11 := by decide
  obtain ⟨scanned, unique, _⟩ := cut_in_one_way short
  exact ⟨_, (unique _).2 rfl, by decide +kernel, scanned⟩

end Reckoner.Extraction
