import Reckoner.Proofs.Expression.Respelling

/-!
# Tokens and the text they are cut from

Cutting a text into tokens drops its blanks and nothing else. Each literal is the longest at its
place. Where one token ends and the next one begins, blanks can be put in without any change to the
tokens, and with a single space between each two of them they are found again.
-/

namespace Reckoner

set_option autoImplicit false

namespace Numeral

/-- The text is a literal, and none of the characters that follow it can be added to it. -/
structure IsLongest (word rest : Text) : Prop where
  isLiteral : ∃ numeral : Numeral, numeral.WellFormed ∧ numeral.text = word
  noMore : ∀ (longer : Numeral) (more : Text), longer.WellFormed → longer.text = word ++ more →
    more <+: rest → more = []

/-- A longer literal would be read where the shorter one was. -/
theorem is_longest_of_stops_before {numeral : Numeral} {rest : Text} (written : numeral.WellFormed)
    (stops : numeral.StopsBefore rest) : IsLongest numeral.text rest := by
  refine ⟨⟨numeral, written, rfl⟩, ?_⟩
  rintro longer more longerWritten same ⟨behind, rfl⟩
  have short := read_text_append written stops.of_append
  have long := read_text_append longerWritten (stops_before_nil longer)
  rw [List.append_nil, same, short] at long
  cases long
  rfl

/-- Of two longest literals at the same place neither goes on behind the other. -/
theorem IsLongest.unique {word rest other otherRest : Text} (longest : IsLongest word rest)
    (otherLongest : IsLongest other otherRest) (same : word ++ rest = other ++ otherRest) :
    word = other := by
  obtain ⟨numeral, written, spelled⟩ := longest.isLiteral
  obtain ⟨otherNumeral, otherWritten, otherSpelled⟩ := otherLongest.isLiteral
  rcases List.append_eq_append_iff.1 same with ⟨more, longer, behind⟩ | ⟨more, longer, behind⟩
  · have nothing := longest.noMore otherNumeral more otherWritten (otherSpelled.trans longer)
      ⟨otherRest, behind.symm⟩
    rw [longer, nothing, List.append_nil]
  · have nothing := otherLongest.noMore numeral more written (spelled.trans longer)
      ⟨rest, behind.symm⟩
    rw [longer, nothing, List.append_nil]

theorem stops_before_of_is_longest {numeral : Numeral} {rest : Text} (written : numeral.WellFormed)
    (longest : IsLongest numeral.text rest) : numeral.StopsBefore rest := by
  cases read : read? (numeral.text ++ rest) with
  | none =>
      obtain ⟨c, others, text, digit⟩ := Expression.text_eq_cons written
      rw [text, List.cons_append] at read
      rw [is_digit_of_read_eq_none read] at digit
      contradiction
  | some found =>
      obtain ⟨other, after⟩ := found
      obtain ⟨otherWritten, stops⟩ := well_formed_of_read read
      have whole := text_append_of_read read
      have same := longest.unique (is_longest_of_stops_before otherWritten stops) whole.symm
      rw [← same] at whole
      rwa [written.text_inj otherWritten same, ← List.append_cancel_left whole]

end Numeral

namespace Expression

section Standing

/-- In front of the rest, the token is what its text is read as. -/
inductive StandsBefore : Token → Text → Prop
  | literal {numeral : Numeral} {rest : Text} :
      numeral.WellFormed → numeral.StopsBefore rest → StandsBefore (.ofNumeral numeral) rest
  | symbol {c : Char} {token : Token} {rest : Text} :
      Token.ofSymbol? c = some token → StandsBefore token rest

variable {token : Token} {rest : Text}

theorem StandsBefore.lexes {tokens : List Token} (stands : StandsBefore token rest)
    (lexes : Lexes rest tokens) : Lexes (token.text ++ rest) (token :: tokens) := by
  cases stands with
  | literal written stops => exact .literal written stops lexes
  | symbol found =>
      rw [Token.text_of_symbol found]
      exact .symbol found lexes

/-- Induction on a cut that does not ask what the tokens are. -/
@[elab_as_elim]
theorem Lexes.tokenwise
    {motive : (source : Text) → (tokens : List Token) → Lexes source tokens → Prop}
    {source : Text} {tokens : List Token} (lexes : Lexes source tokens) (done : motive [] [] .done)
    (blank : ∀ {c rest tokens} (isBlank : Text.isBlank c = true) (lexes : Lexes rest tokens),
      motive rest tokens lexes → motive (c :: rest) tokens (.blank isBlank lexes))
    (token : ∀ {token rest tokens} (stands : StandsBefore token rest) (lexes : Lexes rest tokens),
      motive rest tokens lexes →
      motive (token.text ++ rest) (token :: tokens) (stands.lexes lexes)) :
    motive source tokens lexes := by
  induction lexes with
  | done => exact done
  | blank isBlank lexes ih => exact blank isBlank lexes ih
  | literal written stops lexes ih => exact token (.literal written stops) lexes ih
  | @symbol c found _ _ isSymbol lexes ih =>
      obtain ⟨kind, text, value⟩ := found
      obtain rfl : text = [c] := Token.text_of_symbol isSymbol
      exact token (.symbol isSymbol) lexes ih

theorem StandsBefore.solid (stands : StandsBefore token rest) :
    ∀ c ∈ token.text, Text.isBlank c = false := by
  cases stands with
  | literal written => exact fun c => is_blank_of_mem_text written
  | symbol found =>
      rw [Token.text_of_symbol found]
      exact List.forall_mem_singleton.2 (is_blank_of_symbol found)

theorem StandsBefore.ne_nil (stands : StandsBefore token rest) : token.text ≠ [] := by
  cases stands with
  | literal written =>
      obtain ⟨c, others, text, _⟩ := text_eq_cons written
      rw [show (Token.ofNumeral _).text = _ from text]
      exact List.cons_ne_nil c others
  | symbol found =>
      rw [Token.text_of_symbol found]
      exact List.cons_ne_nil _ _

theorem StandsBefore.is_longest (stands : StandsBefore token rest)
    (operand : token.isOperand = true) : Numeral.IsLongest token.text rest := by
  cases stands with
  | literal written stops => exact Numeral.is_longest_of_stops_before written stops
  | symbol found =>
      rcases symbol_cases found with ⟨_, rfl⟩ | ⟨_, rfl⟩ | ⟨operator, _, rfl⟩ <;> contradiction

theorem StandsBefore.of_append {behind : Text} (stands : StandsBefore token (rest ++ behind)) :
    StandsBefore token rest := by
  cases stands with
  | literal written stops => exact .literal written stops.of_append
  | symbol found => exact .symbol found

/-- What follows a token can be exchanged for what ends literals in the same place. -/
theorem StandsBefore.exchange {other : Text} (stands : StandsBefore token rest)
    (stops : ∀ numeral : Numeral, numeral.StopsBefore rest → numeral.StopsBefore other) :
    StandsBefore token other := by
  cases stands with
  | literal written ends => exact .literal written (stops _ ends)
  | symbol found => exact .symbol found

theorem StandsBefore.apart {other : Text} (stands : StandsBefore token rest)
    (blank : ∀ c ∈ other.head?, Text.isBlank c = true) : StandsBefore token other :=
  stands.exchange fun _ _ => stops_before_of_apart blank

theorem Lexes.stands {source : Text} {tokens : List Token} (lexes : Lexes source tokens) :
    ∀ token ∈ tokens, ∃ rest, StandsBefore token rest := by
  induction lexes using Lexes.tokenwise with
  | done => exact List.forall_mem_nil _
  | blank _ _ ih => exact ih
  | token stands _ ih => exact List.forall_mem_cons.2 ⟨⟨_, stands⟩, ih⟩

end Standing

def withoutBlanks (source : Text) : Text :=
  source.filter fun c => !Text.isBlank c

theorem without_blanks_append_of_solid {front : Text} (solid : ∀ c ∈ front, Text.isBlank c = false)
    (rest : Text) : withoutBlanks (front ++ rest) = front ++ withoutBlanks rest := by
  rw [withoutBlanks, List.filter_append, List.filter_eq_self.2]
  · rfl
  · intro c member
    rw [solid c member]
    rfl

theorem Lexes.text_eq {source : Text} {tokens : List Token} (lexes : Lexes source tokens) :
    tokens.flatMap Token.text = withoutBlanks source := by
  induction lexes using Lexes.tokenwise with
  | done => rfl
  | blank blank _ ih =>
      rw [ih, withoutBlanks, withoutBlanks, List.filter_cons_of_neg (by simp [blank])]
  | token stands _ ih => rw [List.flatMap_cons, ih, without_blanks_append_of_solid stands.solid]

theorem Lexes.spaced {source : Text} {tokens : List Token} (lexes : Lexes source tokens) :
    Lexes (Text.joined [' '] (tokens.map Token.text)) tokens := by
  have each : ∀ token ∈ tokens, ∀ rest others, (∀ c ∈ rest.head?, Text.isBlank c = true) →
      Lexes rest others → Lexes (token.text ++ rest) (id token :: others) := by
    intro token member rest others blank behind
    obtain ⟨_, stands⟩ := lexes.stands token member
    exact (stands.apart blank).lexes behind
  have cut := lexes_spaced each
  rwa [List.map_id] at cut

/-- The front is cut into the tokens also in front of any other text that ends literals where the
rest does. -/
def CutBefore (front : Text) (tokens : List Token) (rest : Text) : Prop :=
  ∀ other others, Lexes other others →
    (∀ numeral : Numeral, numeral.StopsBefore rest → numeral.StopsBefore other) →
    Lexes (front ++ other) (tokens ++ others)

theorem stops_before_of_lexes {numeral : Numeral} {source : Text} {tokens : List Token}
    (lexes : Lexes source tokens) (noDigit : ∀ c ∈ source.head?, c.isDigit = false) :
    numeral.StopsBefore source := by
  cases source with
  | nil => exact numeral.stops_before_nil
  | cons c rest =>
      rcases lexes.head_cases with blank | digit | ⟨symbol, found⟩
      · exact stops_before_blank blank
      · rw [noDigit c rfl] at digit
        contradiction
      · exact stops_before_symbol found

/-- Where a text can be cut, only its first character decides whether a literal ends before it. -/
theorem stops_before_of_head_eq {numeral : Numeral} {source other : Text} {tokens : List Token}
    (lexes : Lexes other tokens) (same : other.head? = source.head?)
    (stops : numeral.StopsBefore source) : numeral.StopsBefore other := by
  rcases stops with percent | ⟨_, noDigit, _⟩
  · exact .inl percent
  · rw [← same] at noDigit
    exact stops_before_of_lexes lexes noDigit

/-- Each token has its place in the text, and the text ahead of it is cut into the tokens ahead. -/
theorem Lexes.place {source : Text} {found before behind : List Token} {token : Token}
    (lexes : Lexes source found) (parts : found = before ++ token :: behind) :
    ∃ front rest, source = front ++ (token.text ++ rest) ∧ Lexes front before ∧
      StandsBefore token rest ∧ Lexes rest behind ∧
      CutBefore front before (token.text ++ rest) := by
  induction lexes using Lexes.tokenwise generalizing before with
  | done => simp at parts
  | @blank c _ _ blank _ ih =>
      obtain ⟨front, rest, rfl, ahead, stands, behind, cut⟩ := ih parts
      refine ⟨c :: front, rest, rfl, .blank blank ahead, stands, behind, ?_⟩
      intro other others lexes stops
      exact .blank blank (cut other others lexes stops)
  | @token first source _ firstStands lexes ih =>
      cases before with
      | nil =>
          cases parts
          exact ⟨[], source, rfl, .done, firstStands, lexes, fun _ _ lexes _ => lexes⟩
      | cons _ before =>
          cases parts
          obtain ⟨front, rest, rfl, ahead, stands, behind, cut⟩ := ih rfl
          refine ⟨first.text ++ front, rest, ?_, ?_, stands, behind, ?_⟩
          · exact (List.append_assoc _ _ _).symm
          · exact firstStands.of_append.lexes ahead
          · intro other others otherLexes stops
            have continued := cut other others otherLexes stops
            rw [List.append_assoc]
            apply StandsBefore.lexes _ continued
            apply firstStands.exchange
            intro numeral
            cases front with
            | nil => exact stops numeral
            | cons c front => exact stops_before_of_head_eq continued rfl

section Insertion

variable {front rest : Text} {before behind : List Token} {token : Token}

/-- Blanks ahead of a token change nothing. -/
theorem CutBefore.blanks_ahead (cut : CutBefore front before (token.text ++ rest))
    (stands : StandsBefore token rest) (lexes : Lexes rest behind) {blanks : Text}
    (blank : ∀ c ∈ blanks, Text.isBlank c = true) :
    Lexes (front ++ (blanks ++ (token.text ++ rest))) (before ++ token :: behind) := by
  apply cut
  · exact (stands.lexes lexes).behind_blanks blank
  · intro numeral stops
    cases blanks with
    | nil => exact stops
    | cons c blanks => exact stops_before_blank (blank c List.mem_cons_self)

/-- Blanks behind a token change nothing. -/
theorem CutBefore.blanks_behind (cut : CutBefore front before (token.text ++ rest))
    (stands : StandsBefore token rest) (lexes : Lexes rest behind) {blanks : Text}
    (blank : ∀ c ∈ blanks, Text.isBlank c = true) :
    Lexes (front ++ (token.text ++ (blanks ++ rest))) (before ++ token :: behind) := by
  have continued : Lexes (token.text ++ (blanks ++ rest)) (token :: behind) := by
    apply StandsBefore.lexes _ (lexes.behind_blanks blank)
    cases blanks with
    | nil => exact stands
    | cons c blanks =>
        apply stands.apart
        intro first member
        cases Option.some.inj member
        exact blank c List.mem_cons_self
  apply cut _ _ continued
  intro numeral
  apply stops_before_of_head_eq continued
  rw [List.head?_append_of_ne_nil _ stands.ne_nil, List.head?_append_of_ne_nil _ stands.ne_nil]

end Insertion

/-- The texts of the tokens are the text without its blanks, and with single spaces between them
they are cut into the same tokens. Every token has its place in the text: a literal is the longest
there, and blanks ahead of the token or behind it leave all tokens as they are. -/
theorem cut_keeps_text {source : Text} {found : List Token} (read : tokens source = .ok found) :
    found.flatMap Token.text = withoutBlanks source ∧
    tokens (Text.joined [' '] (found.map Token.text)) = .ok found ∧
    ∀ before token behind, found = before ++ token :: behind →
      ∃ front rest, source = front ++ (token.text ++ rest) ∧
        tokens front = .ok before ∧ tokens rest = .ok behind ∧
        (token.isOperand = true → Numeral.IsLongest token.text rest) ∧
        ∀ blanks, (∀ c ∈ blanks, Text.isBlank c = true) →
          tokens (front ++ (blanks ++ (token.text ++ rest))) = .ok found ∧
          tokens (front ++ (token.text ++ (blanks ++ rest))) = .ok found := by
  have lexes := tokens_eq_ok_iff.1 read
  refine ⟨lexes.text_eq, tokens_eq_ok_iff.2 lexes.spaced, ?_⟩
  rintro before token behind rfl
  obtain ⟨front, rest, rfl, ahead, stands, follows, cut⟩ := lexes.place rfl
  refine ⟨front, rest, rfl, tokens_eq_ok_iff.2 ahead, tokens_eq_ok_iff.2 follows,
    stands.is_longest, fun blanks blank => ⟨?_, ?_⟩⟩
  · exact tokens_eq_ok_iff.2 (cut.blanks_ahead stands follows blank)
  · exact tokens_eq_ok_iff.2 (cut.blanks_behind stands follows blank)

/-- A share and a number that touch, and a minus behind a wide space. -/
theorem touching_literals_keep_text :
    ∃ found, tokens "1.5%2\u3000-".toList = .ok found ∧
      found.map Token.text = [['1', '.', '5', '%'], ['2'], ['-']] ∧
      tokens "1.5% 2 -".toList = .ok found ∧
      ∃ front rest, "1.5%2\u3000-".toList = front ++ (['2'] ++ rest) ∧
        Numeral.IsLongest ['2'] rest := by
  have read : tokens "1.5%2\u3000-".toList = .ok [.ofNumeral ⟨['1'], ['5'], true⟩,
      .ofNumeral ⟨['2'], [], false⟩, Operator.minus.token] := by
    decide +kernel
  obtain ⟨_, joined, places⟩ := cut_keeps_text read
  obtain ⟨front, rest, whole, _, _, longest, _⟩ :=
    places [.ofNumeral ⟨['1'], ['5'], true⟩] (.ofNumeral ⟨['2'], [], false⟩)
      [Operator.minus.token] rfl
  exact ⟨_, read, rfl, joined, front, rest, whole, longest rfl⟩

end Expression

end Reckoner
