import Reckoner.Proofs.Expression.Normal

/-!
# Texts that can be cut into tokens

Whether a text can be cut is decided character by character, although each literal is taken as long
as possible. A point needs an integer directly in front of it and a digit directly behind it, a
percent sign needs a digit in front of it, and the other characters that expressions are typed with
can stand anywhere.
-/

namespace Reckoner.Expression

set_option autoImplicit false

def isTyped (c : Char) : Bool :=
  c.isDigit || ".%+-*/()X".toList.contains c || Text.isBlank c

def endsInDigit (front : Text) : Bool :=
  front.getLast?.any Char.isDigit

def beginsWithDigit (rest : Text) : Bool :=
  rest.head?.any Char.isDigit

/-- The text ends in a run of digits that no point precedes. -/
def EndsInInteger (front : Text) : Prop :=
  front.rtakeWhile Char.isDigit ≠ [] ∧ (front.rdropWhile Char.isDigit).getLast? ≠ some '.'

/-- Between the two texts there is a place for the character. -/
@[mk_iff]
structure InPlace (front : Text) (c : Char) (rest : Text) : Prop where
  typed : isTyped c = true
  point : c = '.' → EndsInInteger front ∧ beginsWithDigit rest = true
  percent : c = '%' → endsInDigit front = true

/-- Behind the front, every character of the text is in its place. -/
def Legible (front source : Text) : Prop :=
  ∀ middle c rest, source = middle ++ c :: rest → InPlace (front ++ middle) c rest

theorem legible_nil (front : Text) : Legible front [] := by
  intro middle c rest split
  simp at split

theorem legible_cons (front : Text) (c : Char) (rest : Text) :
    Legible front (c :: rest) ↔ InPlace front c rest ∧ Legible (front ++ [c]) rest := by
  constructor
  · intro legible
    constructor
    · have first := legible [] c rest rfl
      rwa [List.append_nil] at first
    · intro middle other after split
      have later := legible (c :: middle) other after (by rw [split]; rfl)
      rwa [List.append_cons] at later
  · intro both middle other after split
    cases middle with
    | nil =>
        cases split
        rw [List.append_nil]
        exact both.1
    | cons first middle =>
        cases split
        rw [List.append_cons]
        exact both.2 middle other after rfl

theorem in_place_of_other {c : Char} (typed : isTyped c = true) (noPoint : c ≠ '.')
    (noPercent : c ≠ '%') (front rest : Text) : InPlace front c rest :=
  ⟨typed, fun same => absurd same noPoint, fun same => absurd same noPercent⟩

theorem in_place_of_is_digit {c : Char} (digit : c.isDigit = true) (front rest : Text) :
    InPlace front c rest := by
  apply in_place_of_other
  · simp [isTyped, digit]
  · rintro rfl
    contradiction
  · rintro rfl
    contradiction

theorem legible_digits {digits : Text} (all : ∀ c ∈ digits, c.isDigit = true) (front rest : Text) :
    Legible front (digits ++ rest) ↔ Legible (front ++ digits) rest := by
  induction digits generalizing front with
  | nil => rw [List.nil_append, List.append_nil]
  | cons c digits ih =>
      have others := ih (fun other member => all other (List.mem_cons_of_mem _ member))
      rw [List.cons_append, legible_cons, others, List.append_assoc, List.singleton_append]
      exact and_iff_right (in_place_of_is_digit (all c List.mem_cons_self) _ _)

section Ends

variable {front digits : Text}

theorem ends_in_digit_append (nonempty : digits ≠ []) (all : ∀ c ∈ digits, c.isDigit = true) :
    endsInDigit (front ++ digits) = true := by
  have last := List.getLast?_eq_getLast_of_ne_nil nonempty
  rw [endsInDigit, List.getLast?_append, last]
  exact all _ (List.getLast_mem nonempty)

theorem rtakeWhile_digits (all : ∀ c ∈ digits, c.isDigit = true)
    (stop : endsInDigit front = false) :
    (front ++ digits).rtakeWhile Char.isDigit = digits ∧
      (front ++ digits).rdropWhile Char.isDigit = front := by
  have inside : ∀ c ∈ digits.reverse, c.isDigit = true := by
    intro c member
    exact all c (List.mem_reverse.1 member)
  have outside : ∀ c ∈ front.reverse.head?, c.isDigit = false := by
    intro c member
    rw [List.head?_reverse] at member
    rw [endsInDigit, Option.mem_def.1 member] at stop
    exact stop
  rw [List.rtakeWhile, List.rdropWhile, List.reverse_append,
    takeWhile_append_of_stop inside outside, dropWhile_append_of_stop inside outside,
    List.reverse_reverse, List.reverse_reverse]
  exact ⟨rfl, rfl⟩

theorem ends_in_integer_append (nonempty : digits ≠ []) (all : ∀ c ∈ digits, c.isDigit = true)
    (stop : endsInDigit front = false) (noPoint : front.getLast? ≠ some '.') :
    EndsInInteger (front ++ digits) := by
  obtain ⟨run, before⟩ := rtakeWhile_digits all stop
  rw [EndsInInteger, run, before]
  exact ⟨nonempty, noPoint⟩

theorem not_ends_in_integer_fraction (all : ∀ c ∈ digits, c.isDigit = true) :
    ¬EndsInInteger (front ++ '.' :: digits) := by
  have stop : endsInDigit (front ++ ['.']) = false := by
    rw [endsInDigit, List.getLast?_concat]
    rfl
  rw [List.append_cons, EndsInInteger, (rtakeWhile_digits all stop).2, List.getLast?_concat]
  exact fun both => both.2 rfl

theorem ends_in_digit_of_ends_in_integer (integer : EndsInInteger front) :
    endsInDigit front = true := by
  have run := integer.1
  rw [List.rtakeWhile, Ne, List.reverse_eq_nil_iff] at run
  rw [endsInDigit, ← List.head?_reverse]
  cases reversed : front.reverse with
  | nil =>
      rw [reversed] at run
      exact absurd rfl run
  | cons c others =>
      rw [reversed] at run
      by_contra other
      apply run
      exact List.takeWhile_cons_of_neg other

theorem ends_in_digit_fraction (ends : endsInDigit front = true)
    (all : ∀ c ∈ digits, c.isDigit = true) :
    endsInDigit (front ++ Numeral.fractionText digits) = true := by
  cases digits with
  | nil => rwa [show Numeral.fractionText [] = [] from rfl, List.append_nil]
  | cons c others =>
      rw [show Numeral.fractionText (c :: others) = '.' :: c :: others from rfl, List.append_cons]
      exact ends_in_digit_append (by simp) all

theorem legible_fraction (integer : EndsInInteger front) (all : ∀ c ∈ digits, c.isDigit = true)
    (rest : Text) :
    Legible front (Numeral.fractionText digits ++ rest) ↔
      Legible (front ++ Numeral.fractionText digits) rest := by
  cases digits with
  | nil => rw [show Numeral.fractionText [] = [] from rfl, List.nil_append, List.append_nil]
  | cons c others =>
      have place : InPlace front '.' (c :: others ++ rest) := by
        refine ⟨rfl, fun _ => ⟨integer, ?_⟩, nofun⟩
        simp [beginsWithDigit, all c List.mem_cons_self]
      rw [show Numeral.fractionText (c :: others) = '.' :: c :: others from rfl, List.cons_append,
        legible_cons, legible_digits all, List.append_assoc, List.singleton_append]
      exact and_iff_right place

theorem legible_percent (ends : endsInDigit front = true) (isPercent : Bool) (rest : Text) :
    Legible front (Numeral.percentText isPercent ++ rest) ↔
      Legible (front ++ Numeral.percentText isPercent) rest := by
  cases isPercent with
  | false => rw [show Numeral.percentText false = [] from rfl, List.nil_append, List.append_nil]
  | true =>
      have place : InPlace front '%' rest := ⟨rfl, nofun, fun _ => ends⟩
      rw [show Numeral.percentText true = ['%'] from rfl, List.singleton_append, legible_cons]
      exact and_iff_right place

end Ends

/-- Between the two texts a token ends: nothing that follows goes on a literal that ends there. -/
structure Boundary (front rest : Text) : Prop where
  noPoint : front.getLast? ≠ some '.'
  noDigit : endsInDigit front = true → beginsWithDigit rest = false
  noPercent : endsInDigit front = true → rest.head? ≠ some '%'
  noFraction : EndsInInteger front → ¬Numeral.BeginsFraction rest

theorem boundary_nil (rest : Text) : Boundary [] rest where
  noPoint := nofun
  noDigit := nofun
  noPercent := nofun
  noFraction := fun integer => absurd rfl integer.1

theorem boundary_concat {c : Char} (noDigit : c.isDigit = false) (noPoint : c ≠ '.')
    (front rest : Text) : Boundary (front ++ [c]) rest := by
  have stop : endsInDigit (front ++ [c]) = false := by
    rw [endsInDigit, List.getLast?_concat]
    exact noDigit
  constructor
  · rw [List.getLast?_concat]
    exact fun same => noPoint (Option.some.inj same)
  · intro digit
    rw [stop] at digit
    contradiction
  · intro digit
    rw [stop] at digit
    contradiction
  · intro integer
    rw [ends_in_digit_of_ends_in_integer integer] at stop
    contradiction

theorem boundary_digits {front digits rest : Text} (nonempty : digits ≠ [])
    (all : ∀ c ∈ digits, c.isDigit = true) (noDigit : ∀ c ∈ rest.head?, c.isDigit = false)
    (noPercent : rest.head? ≠ some '%')
    (noFraction : EndsInInteger (front ++ digits) → ¬Numeral.BeginsFraction rest) :
    Boundary (front ++ digits) rest where
  noPoint := by
    have ends : endsInDigit (front ++ digits) = true := ends_in_digit_append nonempty all
    intro point
    rw [endsInDigit, point] at ends
    contradiction
  noDigit := by
    intro _
    rw [beginsWithDigit, Option.any_eq_false]
    simpa using noDigit
  noPercent := fun _ => noPercent
  noFraction := noFraction

section Literal

variable {numeral : Numeral} {front rest : Text} (written : numeral.WellFormed)

include written

theorem Boundary.not_ends_in_digit (boundary : Boundary front (numeral.text ++ rest)) :
    endsInDigit front = false := by
  obtain ⟨c, others, text, digit⟩ := text_eq_cons written
  rw [Bool.eq_false_iff]
  intro ends
  have other := boundary.noDigit ends
  rw [text] at other
  simp [beginsWithDigit, digit] at other

/-- A literal ends where what follows does not make it longer. -/
theorem boundary_literal (stops : numeral.StopsBefore rest) :
    Boundary (front ++ numeral.text) rest := by
  cases share : numeral.isPercent with
  | true =>
      rw [Numeral.text, share, ← List.append_assoc, ← List.append_assoc]
      exact boundary_concat rfl (by decide) _ rest
  | false =>
      obtain ⟨noPercent, noDigit, noFraction⟩ := stops.resolve_left (by simp [share])
      rw [Numeral.text, share, show Numeral.percentText false = [] from rfl, List.append_nil]
      cases digits : numeral.fraction with
      | nil =>
          rw [show Numeral.fractionText [] = [] from rfl, List.append_nil]
          apply boundary_digits written.whole_ne_nil written.whole_digits noDigit noPercent
          exact fun _ => noFraction digits
      | cons c others =>
          have all := written.fraction_digits
          rw [digits] at all
          rw [show Numeral.fractionText (c :: others) = '.' :: c :: others from rfl,
            ← List.append_assoc, List.append_cons]
          apply boundary_digits (by simp) all noDigit noPercent
          rw [← List.append_cons]
          exact fun integer => absurd integer (not_ends_in_integer_fraction all)

theorem legible_literal (boundary : Boundary front (numeral.text ++ rest)) :
    Legible front (numeral.text ++ rest) ↔ Legible (front ++ numeral.text) rest := by
  have integer := ends_in_integer_append written.whole_ne_nil written.whole_digits
    (boundary.not_ends_in_digit written) boundary.noPoint
  have digit := ends_in_digit_fraction (ends_in_digit_of_ends_in_integer integer)
    written.fraction_digits
  rw [Numeral.text, List.append_assoc, List.append_assoc, legible_digits written.whole_digits,
    legible_fraction integer written.fraction_digits, legible_percent digit]
  simp only [List.append_assoc]

end Literal

theorem exists_map_eq_ok {Value Result : Type} (change : Value → Result)
    (outcome : Except Fault Value) :
    (∃ result, outcome.map change = .ok result) ↔ ∃ value, outcome = .ok value := by
  cases outcome <;> simp [Except.map]

theorem in_place_of_is_blank {c : Char} (blank : Text.isBlank c = true) (front rest : Text) :
    InPlace front c rest := by
  apply in_place_of_other
  · simp [isTyped, blank]
  · rintro rfl
    contradiction
  · rintro rfl
    contradiction

theorem boundary_blank {c : Char} (blank : Text.isBlank c = true) (front rest : Text) :
    Boundary (front ++ [c]) rest := by
  apply boundary_concat
  · rw [Bool.eq_false_iff]
    intro digit
    rw [Text.is_blank_of_is_digit digit] at blank
    contradiction
  · rintro rfl
    contradiction

section Symbol

variable {c : Char} {token : Token} (found : Token.ofSymbol? c = some token)

include found

theorem in_place_of_symbol (front rest : Text) : InPlace front c rest := by
  rcases symbol_cases found with ⟨rfl, _⟩ | ⟨rfl, _⟩ | ⟨operator, rfl, _⟩
  · exact in_place_of_other rfl (by decide) (by decide) front rest
  · exact in_place_of_other rfl (by decide) (by decide) front rest
  · cases operator <;> exact in_place_of_other rfl (by decide) (by decide) front rest

theorem boundary_symbol (front rest : Text) : Boundary (front ++ [c]) rest := by
  apply boundary_concat (is_digit_of_symbol found)
  rintro rfl
  contradiction

end Symbol

theorem begins_fraction_of_digit {rest : Text} (digit : beginsWithDigit rest = true) :
    Numeral.BeginsFraction ('.' :: rest) := by
  cases rest with
  | nil => contradiction
  | cons c after => exact ⟨c, after, rfl, digit⟩

/-- Where no token begins, there is no place for the character that stands there. -/
theorem Boundary.not_in_place {front rest : Text} {c : Char} (boundary : Boundary front (c :: rest))
    (noTimes : c ≠ Text.timesSign) (solid : Text.isBlank c = false) (noDigit : c.isDigit = false)
    (noSymbol : Token.ofSymbol? c = none) : ¬InPlace front c rest := by
  intro place
  have typed := place.typed
  simp only [isTyped, noDigit, solid, Bool.or_false, Bool.false_or] at typed
  have listed : c ∈ ".%+-*/()X".toList := by simpa using typed
  simp only [String.reduceToList, List.mem_cons, List.not_mem_nil, or_false] at listed
  rcases listed with rfl | rfl | rfl | rfl | rfl | rfl | rfl | rfl | rfl
  · obtain ⟨integer, digit⟩ := place.point rfl
    exact boundary.noFraction integer (begins_fraction_of_digit digit)
  · exact boundary.noPercent (place.percent rfl) rfl
  · contradiction
  · contradiction
  · contradiction
  · contradiction
  · contradiction
  · contradiction
  · exact noTimes rfl

/-- From one token's end on a text can be cut if and only if its characters are in their places. -/
theorem legible_iff_tokens_from {front source : Text} (boundary : Boundary front source)
    (noTimes : ∀ c ∈ source, c ≠ Text.timesSign) (position : Nat) :
    Legible front source ↔ ∃ found, tokensFrom position source = .ok found := by
  fun_induction tokensFrom position source generalizing front with
  | case1 => exact iff_of_true (legible_nil front) ⟨[], rfl⟩
  | case2 position c rest blank ih =>
      have others := (List.forall_mem_cons.1 noTimes).2
      rw [legible_cons, ← ih (boundary_blank blank front rest) others]
      exact and_iff_right (in_place_of_is_blank blank front rest)
  | case3 position c rest _ numeral after literal ih =>
      obtain ⟨written, stops⟩ := Numeral.well_formed_of_read literal
      rw [← Numeral.text_append_of_read literal] at boundary noTimes ⊢
      have others := (List.forall_mem_append.1 noTimes).2
      rw [legible_literal written boundary, exists_map_eq_ok]
      exact ih (boundary_literal written stops) others
  | case4 position c rest _ _ token found ih =>
      have others := (List.forall_mem_cons.1 noTimes).2
      rw [legible_cons, exists_map_eq_ok, ← ih (boundary_symbol found front rest) others]
      exact and_iff_right (in_place_of_symbol found front rest)
  | case5 position c rest solid missing noSymbol =>
      have misplaced := boundary.not_in_place (noTimes c List.mem_cons_self) (by simpa using solid)
        (Numeral.is_digit_of_read_eq_none missing) noSymbol
      rw [legible_cons]
      exact iff_of_false (fun legible => misplaced legible.1) (by simp)

theorem without_times_sign_eq_iff {c other : Char} (noStar : other ≠ '*')
    (noTimes : other ≠ Text.timesSign) : withoutTimesSign c = other ↔ c = other := by
  unfold withoutTimesSign
  split
  · rename_i times
    rw [times]
    exact iff_of_false noStar.symm noTimes.symm
  · rfl

theorem is_typed_without_times_sign (c : Char) : isTyped (withoutTimesSign c) = isTyped c := by
  unfold withoutTimesSign
  split
  · rename_i times
    rw [times]
    rfl
  · rfl

theorem is_digit_without_times_sign (c : Char) : (withoutTimesSign c).isDigit = c.isDigit := by
  unfold withoutTimesSign
  split
  · rename_i times
    rw [times]
    rfl
  · rfl

theorem is_digit_comp_without_times_sign : Char.isDigit ∘ withoutTimesSign = Char.isDigit :=
  funext is_digit_without_times_sign

theorem any_is_digit_map (c : Option Char) :
    (c.map withoutTimesSign).any Char.isDigit = c.any Char.isDigit := by
  cases c with
  | none => rfl
  | some c => exact is_digit_without_times_sign c

theorem map_without_times_sign_eq_point (c : Option Char) :
    c.map withoutTimesSign = some '.' ↔ c = some '.' := by
  cases c with
  | none => rfl
  | some c =>
      rw [Option.map_some, Option.some_inj, Option.some_inj]
      exact without_times_sign_eq_iff (by decide) (by decide)

theorem ends_in_integer_map (front : Text) :
    EndsInInteger (front.map withoutTimesSign) ↔ EndsInInteger front := by
  rw [EndsInInteger, EndsInInteger, List.rtakeWhile, List.rdropWhile, ← List.map_reverse,
    List.takeWhile_map, List.dropWhile_map, is_digit_comp_without_times_sign, ← List.map_reverse,
    ← List.map_reverse, List.getLast?_map, Ne, List.map_eq_nil_iff, Ne,
    map_without_times_sign_eq_point]
  rfl

theorem in_place_map (front : Text) (c : Char) (rest : Text) :
    InPlace (front.map withoutTimesSign) (withoutTimesSign c) (rest.map withoutTimesSign) ↔
      InPlace front c rest := by
  have ends : endsInDigit (front.map withoutTimesSign) = endsInDigit front := by
    rw [endsInDigit, List.getLast?_map, any_is_digit_map, endsInDigit]
  have begins : beginsWithDigit (rest.map withoutTimesSign) = beginsWithDigit rest := by
    rw [beginsWithDigit, List.head?_map, any_is_digit_map, beginsWithDigit]
  rw [inPlace_iff, inPlace_iff, is_typed_without_times_sign, ends_in_integer_map, ends, begins,
    without_times_sign_eq_iff (by decide) (by decide),
    without_times_sign_eq_iff (by decide) (by decide)]

theorem legible_map (front source : Text) :
    Legible (front.map withoutTimesSign) (source.map withoutTimesSign) ↔ Legible front source := by
  induction source generalizing front with
  | nil => exact iff_of_true (legible_nil _) (legible_nil front)
  | cons c rest ih =>
      rw [List.map_cons, legible_cons, legible_cons, in_place_map, ← ih, List.map_append]
      rfl

end Reckoner.Expression
