import Mathlib.Data.List.Chain
import Reckoner.Proofs.Expression.Normal

/-!
# Writing an expression as a text

Terminals are written one after another with any blanks between, before and behind them, and with
the capital X for `*` wherever one likes. Since no figure follows directly on another in an
expression, the text is cut into the terminals that it was written from.
-/

namespace Reckoner.Expression

set_option autoImplicit false

inductive Spelling : Terminal → Text → Prop
  | literal {numeral : Numeral} :
      numeral.WellFormed → Spelling (.figure (.ofNumeral numeral)) numeral.text
  | sign (sign : Sign) : Spelling (.sign sign) [sign.char]
  | operator (operator : Operator) : Spelling (.operator operator) [operator.char]
  | timesSign : Spelling (.operator .times) [Text.timesSign]
  | opening : Spelling .opening ['(']
  | closing : Spelling .closing [')']

/-- The terminals are spelled in the text, with blanks anywhere around them. -/
inductive Writing : List Terminal → Text → Prop
  | done {blanks : Text} : (∀ c ∈ blanks, Text.isBlank c = true) → Writing [] blanks
  | next {terminal : Terminal} {terminals : List Terminal} {blanks word rest : Text} :
      (∀ c ∈ blanks, Text.isBlank c = true) → Spelling terminal word → Writing terminals rest →
      Writing (terminal :: terminals) (blanks ++ (word ++ rest))

theorem Writing.directly {terminal : Terminal} {terminals : List Terminal} {word rest : Text}
    (spelled : Spelling terminal word) (written : Writing terminals rest) :
    Writing (terminal :: terminals) (word ++ rest) :=
  @Writing.next terminal terminals [] word rest (by simp) spelled written

theorem Writing.spaced {terminal : Terminal} {terminals : List Terminal} {word rest : Text}
    (spelled : Spelling terminal word) (written : Writing terminals rest) :
    Writing (terminal :: terminals) (' ' :: (word ++ rest)) := by
  apply @Writing.next terminal terminals [' '] word rest _ spelled written
  intro c member
  cases List.mem_singleton.1 member
  rfl

def Terminal.isFigure : Terminal → Bool
  | .figure _ => true
  | _ => false

/-- No figure follows directly on another one. -/
def Separated (terminals : List Terminal) : Prop :=
  terminals.IsChain fun left right => left.isFigure = true → right.isFigure = false

theorem separated_of_derives {level : Level} {tree : Tree} {terminals : List Terminal}
    (derived : Derives level tree terminals) : Separated terminals := by
  unfold Separated
  induction derived with
  | figure => exact List.isChain_singleton _
  | signed sign _ ih =>
      rw [List.isChain_cons]
      exact ⟨fun _ _ figure => by contradiction, ih⟩
  | group _ ih =>
      rw [List.isChain_cons, List.isChain_append]
      refine ⟨fun _ _ figure => by contradiction, ih, List.isChain_singleton _, ?_⟩
      intro _ _ right member _
      cases Option.some.inj member
      rfl
  | single _ ih => exact ih
  | combined operator _ _ ihLeft ihRight =>
      rw [List.isChain_append, List.isChain_cons]
      refine ⟨ihLeft, ⟨fun _ _ figure => by contradiction, ihRight⟩, ?_⟩
      intro _ _ right member _
      cases Option.some.inj member
      rfl

theorem ne_nil_of_derives {level : Level} {tree : Tree} {terminals : List Terminal}
    (derived : Derives level tree terminals) : terminals ≠ [] := by
  induction derived with
  | single _ ih => exact ih
  | figure | signed | group | combined => simp

theorem Lexes.behind_blanks {blanks rest : Text} {tokens : List Token}
    (blank : ∀ c ∈ blanks, Text.isBlank c = true) (lexes : Lexes rest tokens) :
    Lexes (blanks ++ rest) tokens := by
  induction blanks with
  | nil => exact lexes
  | cons c blanks ih =>
      exact .blank (blank c List.mem_cons_self)
        (ih fun other member => blank other (List.mem_cons_of_mem _ member))

/-- Texts that are each cut into one token in front of blanks are cut into their tokens with single
spaces between them. -/
theorem lexes_spaced {Item : Type} {text : Item → Text} {token : Item → Token} {items : List Item}
    (each : ∀ item ∈ items, ∀ rest tokens, (∀ c ∈ rest.head?, Text.isBlank c = true) →
      Lexes rest tokens → Lexes (text item ++ rest) (token item :: tokens)) :
    Lexes (Text.joined [' '] (items.map text)) (items.map token) := by
  induction items with
  | nil => exact .done
  | cons item items ih =>
      obtain ⟨first, others⟩ := List.forall_mem_cons.1 each
      cases items with
      | nil => exact first [] [] (by simp) .done
      | cons next items =>
          apply first _ _ _ (.blank rfl (ih others))
          intro c member
          cases Option.some.inj member
          rfl

theorem head_of_spelling {terminal : Terminal} {word : Text} (spelled : Spelling terminal word)
    (other : terminal.isFigure = false) :
    ∃ c, word = [c] ∧ Token.ofSymbol? (withoutTimesSign c) = some terminal.unmarked := by
  cases spelled with
  | literal => contradiction
  | sign sign => exact ⟨sign.char, rfl, by cases sign <;> rfl⟩
  | operator operator => exact ⟨operator.char, rfl, by cases operator <;> rfl⟩
  | timesSign => exact ⟨Text.timesSign, rfl, rfl⟩
  | opening => exact ⟨'(', rfl, rfl⟩
  | closing => exact ⟨')', rfl, rfl⟩

theorem stops_before_symbol {numeral : Numeral} {c : Char} {token : Token} {rest : Text}
    (found : Token.ofSymbol? c = some token) : numeral.StopsBefore (c :: rest) := by
  apply Numeral.stops_before_of_head
  intro first member
  cases Option.some.inj member
  refine ⟨is_digit_of_symbol found, ?_, ?_⟩
  · rintro rfl
    contradiction
  · rintro rfl
    contradiction

theorem stops_before_blank {numeral : Numeral} {c : Char} {rest : Text}
    (blank : Text.isBlank c = true) : numeral.StopsBefore (c :: rest) := by
  apply Numeral.stops_before_of_head
  intro first member
  cases Option.some.inj member
  refine ⟨?_, ?_, ?_⟩
  · rw [Bool.eq_false_iff]
    intro digit
    rw [Text.is_blank_of_is_digit digit] at blank
    contradiction
  · rintro rfl
    contradiction
  · rintro rfl
    contradiction

theorem stops_before_of_apart {numeral : Numeral} {rest : Text}
    (apart : ∀ c ∈ rest.head?, Text.isBlank c = true) : numeral.StopsBefore rest := by
  cases rest with
  | nil => exact Numeral.stops_before_of_head (by simp)
  | cons c rest => exact stops_before_blank (apart c rfl)

theorem stops_before_writing {numeral : Numeral} {terminals : List Terminal} {source : Text}
    (written : Writing terminals source)
    (other : ∀ terminal ∈ terminals.head?, terminal.isFigure = false) :
    numeral.StopsBefore (source.map withoutTimesSign) := by
  cases written with
  | done blank =>
      rw [map_without_times_sign fun c member => is_notation_of_is_blank (blank c member)]
      cases source with
      | nil => exact Numeral.stops_before_of_head (by simp)
      | cons c rest => exact stops_before_blank (blank c List.mem_cons_self)
  | @next terminal _ blanks word rest blank spelled _ =>
      obtain ⟨c, rfl, found⟩ := head_of_spelling spelled (other terminal rfl)
      rw [List.map_append,
        map_without_times_sign fun c member => is_notation_of_is_blank (blank c member)]
      cases blanks with
      | nil => exact stops_before_symbol found
      | cons first others => exact stops_before_blank (blank first List.mem_cons_self)

theorem lexes_of_writing {terminals : List Terminal} {source : Text}
    (written : Writing terminals source) (separated : Separated terminals) :
    Lexes (source.map withoutTimesSign) (terminals.map Terminal.unmarked) := by
  induction written with
  | @done blanks blank =>
      rw [map_without_times_sign fun c member => is_notation_of_is_blank (blank c member),
        ← List.append_nil blanks]
      exact Lexes.done.behind_blanks blank
  | @next terminal terminals blanks word rest blank spelled written ih =>
      unfold Separated at separated
      rw [List.isChain_cons] at separated
      obtain ⟨apart, separated⟩ := separated
      rw [List.map_append,
        map_without_times_sign fun c member => is_notation_of_is_blank (blank c member)]
      apply Lexes.behind_blanks blank
      rw [List.map_append, List.map_cons]
      by_cases figure : terminal.isFigure = true
      · have stops : ∀ numeral : Numeral, numeral.StopsBefore (rest.map withoutTimesSign) := by
          intro numeral
          apply stops_before_writing written
          intro next member
          exact apart next member figure
        cases spelled with
        | literal wellFormed =>
            rw [map_without_times_sign fun c member => is_notation_of_mem_text wellFormed member]
            exact .literal wellFormed (stops _) (ih separated)
        | sign | operator | timesSign | opening | closing => contradiction
      · obtain ⟨c, rfl, found⟩ := head_of_spelling spelled (by simpa using figure)
        exact .symbol found (ih separated)

end Reckoner.Expression
