import Reckoner.Proofs.Text.Class
import Reckoner.Token.Numeral

/-!
# Literals and what follows them

The reader of literals takes the longest one. So a written literal is read back, together with
whatever follows it, exactly when what follows it cannot make it longer.
-/

namespace Reckoner

set_option autoImplicit false

theorem takeWhile_append_of_stop {Item : Type} {test : Item → Bool} {front rest : List Item}
    (inside : ∀ item ∈ front, test item = true) (stop : ∀ item ∈ rest.head?, test item = false) :
    (front ++ rest).takeWhile test = front := by
  rw [List.takeWhile_append_of_pos inside]
  cases rest with
  | nil => simp
  | cons item rest => simp [stop item rfl]

theorem dropWhile_append_of_stop {Item : Type} {test : Item → Bool} {front rest : List Item}
    (inside : ∀ item ∈ front, test item = true) (stop : ∀ item ∈ rest.head?, test item = false) :
    (front ++ rest).dropWhile test = rest := by
  rw [List.dropWhile_append_of_pos inside]
  cases rest with
  | nil => rfl
  | cons item rest => simp [stop item rfl]

/-- What is checked of all items of a list holds of each of them. -/
theorem forall_mem_of_all {Item : Type} {Test : Item → Prop} [DecidablePred Test]
    {items : List Item} (checked : items.all (fun item => decide (Test item)) = true) :
    ∀ item ∈ items, Test item := by
  intro item member
  exact of_decide_eq_true (List.all_eq_true.1 checked item member)

/-- Where the test fails for the first time, a list can be parted in one way only. -/
theorem eq_of_append_of_stop {Item : Type} {test : Item → Bool}
    {front rest other otherRest : List Item} (inside : ∀ item ∈ front, test item = true)
    (stop : ∀ item ∈ rest.head?, test item = false) (otherInside : ∀ item ∈ other, test item = true)
    (otherStop : ∀ item ∈ otherRest.head?, test item = false)
    (same : front ++ rest = other ++ otherRest) : front = other ∧ rest = otherRest := by
  constructor
  · rw [← takeWhile_append_of_stop inside stop, same,
      takeWhile_append_of_stop otherInside otherStop]
  · rw [← dropWhile_append_of_stop inside stop, same,
      dropWhile_append_of_stop otherInside otherStop]

theorem head_dropWhile {Item : Type} (test : Item → Bool) (items : List Item) :
    ∀ item ∈ (items.dropWhile test).head?, test item = false := by
  intro item member
  have found := List.head?_dropWhile_not test items
  rw [Option.mem_def.1 member] at found
  simpa using found

namespace Numeral

/-- The parts of the literal are what they are taken for. -/
structure WellFormed (numeral : Numeral) : Prop where
  whole_ne_nil : numeral.whole ≠ []
  whole_digits : ∀ c ∈ numeral.whole, c.isDigit = true
  fraction_digits : ∀ c ∈ numeral.fraction, c.isDigit = true

theorem well_formed_iff (numeral : Numeral) :
    numeral.WellFormed ↔ numeral.whole ≠ [] ∧ numeral.whole.all Char.isDigit = true ∧
      numeral.fraction.all Char.isDigit = true := by
  rw [List.all_eq_true, List.all_eq_true]
  constructor
  · rintro ⟨nonempty, whole, fraction⟩
    exact ⟨nonempty, whole, fraction⟩
  · rintro ⟨nonempty, whole, fraction⟩
    exact ⟨nonempty, whole, fraction⟩

instance (numeral : Numeral) : Decidable numeral.WellFormed :=
  decidable_of_iff' _ (well_formed_iff numeral)

def BeginsFraction (rest : Text) : Prop :=
  ∃ c after, rest = '.' :: c :: after ∧ c.isDigit = true

/-- What follows the literal does not make it longer: nothing does behind a percent sign, and else
neither a percent sign, nor a digit, nor a fraction where there is none yet. -/
def StopsBefore (numeral : Numeral) (rest : Text) : Prop :=
  numeral.isPercent = true ∨
    (rest.head? ≠ some '%' ∧ (∀ c ∈ rest.head?, c.isDigit = false) ∧
      (numeral.fraction = [] → ¬BeginsFraction rest))

theorem stops_before_of_head {numeral : Numeral} {rest : Text}
    (other : ∀ c ∈ rest.head?, c.isDigit = false ∧ c ≠ '.' ∧ c ≠ '%') :
    numeral.StopsBefore rest := by
  refine .inr ⟨fun percent => ?_, fun c member => (other c member).1, fun _ begins => ?_⟩
  · exact (other '%' percent).2.2 rfl
  · obtain ⟨c, after, rfl, _⟩ := begins
    exact (other '.' rfl).2.1 rfl

theorem StopsBefore.of_append {numeral : Numeral} {front behind : Text}
    (stops : numeral.StopsBefore (front ++ behind)) : numeral.StopsBefore front := by
  rcases stops with percent | ⟨noPercent, noDigit, noFraction⟩
  · exact .inl percent
  · refine .inr ⟨fun percent => ?_, fun c member => ?_, fun empty begins => ?_⟩
    · obtain ⟨after, rfl⟩ := List.head?_eq_some_iff.1 percent
      exact noPercent rfl
    · obtain ⟨after, rfl⟩ := List.head?_eq_some_iff.1 member
      exact noDigit c rfl
    · obtain ⟨c, after, rfl, digit⟩ := begins
      exact noFraction empty ⟨c, after ++ behind, rfl, digit⟩

theorem split_percent_text {numeral : Numeral} {rest : Text} (stops : numeral.StopsBefore rest) :
    splitPercent (percentText numeral.isPercent ++ rest) = (numeral.isPercent, rest) := by
  rcases stops with percent | ⟨other, _, _⟩
  · rw [percent]
    rfl
  · cases share : numeral.isPercent with
    | true => rfl
    | false =>
        unfold percentText splitPercent
        cases rest with
        | nil => rfl
        | cons c after =>
            have different : c ≠ '%' := by
              intro same
              exact other (by rw [same]; rfl)
            simp [different]

theorem head_percent_text {numeral : Numeral} {rest : Text} (stops : numeral.StopsBefore rest) :
    ∀ c ∈ (percentText numeral.isPercent ++ rest).head?, c.isDigit = false := by
  intro c member
  cases share : numeral.isPercent with
  | true =>
      rw [share] at member
      cases Option.some.inj member
      rfl
  | false =>
      rcases stops with percent | ⟨_, digits, _⟩
      · rw [share] at percent
        contradiction
      · rw [share] at member
        exact digits c member

theorem split_fraction_of_not_begins {rest : Text} (noFraction : ¬BeginsFraction rest) :
    splitFraction rest = ([], rest) := by
  unfold splitFraction
  split
  · rename_i after
    have empty : (after.takeWhile Char.isDigit).isEmpty = true := by
      cases after with
      | nil => rfl
      | cons c others =>
          have notDigit : c.isDigit = false := by
            rw [Bool.eq_false_iff]
            intro digit
            exact noFraction ⟨c, others, rfl, digit⟩
          simp [notDigit]
    rw [if_pos empty]
  · rfl

theorem split_fraction_text {numeral : Numeral} {rest : Text} (written : numeral.WellFormed)
    (stops : numeral.StopsBefore rest) :
    splitFraction (fractionText numeral.fraction ++ (percentText numeral.isPercent ++ rest)) =
      (numeral.fraction, percentText numeral.isPercent ++ rest) := by
  cases digits : numeral.fraction with
  | cons first others =>
      have inside : ∀ c ∈ first :: others, c.isDigit = true := by
        rw [← digits]
        exact written.fraction_digits
      have taken := takeWhile_append_of_stop inside (head_percent_text stops)
      have dropped := dropWhile_append_of_stop inside (head_percent_text stops)
      unfold fractionText splitFraction
      simp only [List.isEmpty_cons, Bool.false_eq_true, if_false, List.cons_append]
      rw [List.cons_append] at taken dropped
      rw [taken, dropped]
      rfl
  | nil =>
      apply split_fraction_of_not_begins
      rintro ⟨c, after, same, digit⟩
      cases share : numeral.isPercent with
      | true =>
          rw [share] at same
          cases same
      | false =>
          rcases stops with percent | ⟨_, _, noFraction⟩
          · rw [share] at percent
            contradiction
          · rw [share] at same
            exact noFraction digits ⟨c, after, same, digit⟩

theorem head_fraction_text {numeral : Numeral} {rest : Text} (stops : numeral.StopsBefore rest) :
    ∀ c ∈ (fractionText numeral.fraction ++ (percentText numeral.isPercent ++ rest)).head?,
      c.isDigit = false := by
  intro c member
  cases digits : numeral.fraction with
  | nil =>
      rw [digits] at member
      exact head_percent_text stops c member
  | cons first others =>
      rw [digits] at member
      cases Option.some.inj member
      rfl

/-- A written literal in front of what cannot make it longer is read back. -/
theorem read_text_append {numeral : Numeral} {rest : Text} (written : numeral.WellFormed)
    (stops : numeral.StopsBefore rest) :
    read? (numeral.text ++ rest) = some (numeral, rest) := by
  have head := head_fraction_text stops
  have taken := takeWhile_append_of_stop written.whole_digits head
  have dropped := dropWhile_append_of_stop written.whole_digits head
  have nonempty : numeral.whole.isEmpty = false := by
    simpa using written.whole_ne_nil
  unfold read? text
  rw [List.append_assoc, List.append_assoc, taken, dropped, nonempty,
    split_fraction_text written stops]
  simp only [Bool.false_eq_true, if_false]
  rw [split_percent_text stops]

theorem split_fraction_stops {tail : Text} (stop : ∀ c ∈ tail.head?, c.isDigit = false) :
    (∀ c ∈ (splitFraction tail).1, c.isDigit = true) ∧
      (∀ c ∈ (splitFraction tail).2.head?, c.isDigit = false) ∧
      ((splitFraction tail).1 = [] → ¬BeginsFraction (splitFraction tail).2) := by
  by_cases begins : BeginsFraction tail
  · obtain ⟨c, after, rfl, digit⟩ := begins
    have taken : splitFraction ('.' :: c :: after) =
        ((c :: after).takeWhile Char.isDigit, (c :: after).dropWhile Char.isDigit) := by
      simp [splitFraction, digit]
    rw [taken]
    refine ⟨fun item member => ?_, head_dropWhile Char.isDigit _, fun none => ?_⟩
    · exact List.all_eq_true.1 List.all_takeWhile item member
    · simp [digit] at none
  · rw [split_fraction_of_not_begins begins]
    exact ⟨by simp, stop, fun _ => begins⟩

/-- What is read is a written literal that the rest does not make longer. -/
theorem well_formed_of_read {source rest : Text} {numeral : Numeral}
    (read : read? source = some (numeral, rest)) :
    numeral.WellFormed ∧ numeral.StopsBefore rest := by
  have nonempty := whole_ne_nil_of_read read
  unfold read? at read
  split at read
  · contradiction
  · simp only [Option.some.injEq, Prod.mk.injEq] at read
    obtain ⟨rfl, rfl⟩ := read
    obtain ⟨fractionDigits, restStop, noFraction⟩ :=
      split_fraction_stops (head_dropWhile Char.isDigit source)
    refine ⟨⟨nonempty, fun c member => ?_, fractionDigits⟩, ?_⟩
    · exact List.all_eq_true.1 List.all_takeWhile c member
    · unfold splitPercent
      split
      · exact .inl rfl
      · rename_i noPercent
        refine .inr ⟨?_, restStop, noFraction⟩
        intro percent
        obtain ⟨after, same⟩ := List.head?_eq_some_iff.1 percent
        exact noPercent _ same

theorem stops_before_nil (numeral : Numeral) : numeral.StopsBefore [] :=
  stops_before_of_head (by simp)

/-- A literal can be told from its text. -/
theorem WellFormed.text_inj {first second : Numeral} (written : first.WellFormed)
    (other : second.WellFormed) (same : first.text = second.text) : first = second := by
  have read := read_text_append written (stops_before_nil first)
  rw [same, read_text_append other (stops_before_nil second), Option.some.injEq,
    Prod.mk.injEq] at read
  exact read.1.symm

theorem read_eq_none {c : Char} {rest : Text} (other : c.isDigit = false) :
    read? (c :: rest) = none := by
  unfold read?
  simp [other]

theorem is_digit_of_read_eq_none {c : Char} {rest : Text} (missing : read? (c :: rest) = none) :
    c.isDigit = false := by
  rw [Bool.eq_false_iff]
  intro digit
  simp [read?, digit] at missing

end Numeral

end Reckoner
