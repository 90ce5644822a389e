import Reckoner.Proofs.Field.Chain

/-!
# Asking for one result after another

A host whose line was answered asks again by typing another equals sign with two blanks. Each time
the line grows by the same link, however often this is done, and nothing else in the field changes.
Behind a failure nothing is answered any more.
-/

namespace Reckoner.Field

open Equation (EndsIn asking link links)

set_option autoImplicit false

namespace Host

def atEnd (before behind line : Text) : Host :=
  ⟨before ++ (line ++ behind), before.length + line.length⟩

theorem changed_insert (before behind line text : Text) :
    (atEnd before behind line).changed (.insert text) = atEnd before behind (line ++ text) := by
  have taken :
      (before ++ (line ++ behind)).take (before.length + line.length) = before ++ line := by
    rw [← List.append_assoc, ← List.length_append, List.take_left]
  have dropped : (before ++ (line ++ behind)).drop (before.length + line.length) = behind := by
    rw [← List.append_assoc, ← List.length_append, List.drop_left]
  simp [changed, atEnd, taken, dropped, Nat.add_assoc]

theorem is_in_line_asking : ∀ c ∈ asking, isInLine c = true :=
  List.all_eq_true.1 rfl

theorem is_in_line_link {result : Text} (fits : Fits result) :
    ∀ c ∈ link result, isInLine c = true := by
  unfold link
  simp only [List.forall_mem_cons, List.forall_mem_append]
  exact ⟨rfl, rfl, fits.inLine, rfl, by simp⟩

theorem is_in_line_links {result : Text} (fits : Fits result) (count : Nat) :
    ∀ c ∈ links result count, isInLine c = true := by
  induction count with
  | zero => simp [links]
  | succ count ih =>
      rw [Equation.links_succ, List.forall_mem_append]
      exact ⟨is_in_line_link fits, ih⟩

section Asked

variable {settings : Settings} {before line behind result : Text} {caret : Nat}

/-- What becomes of a field when its line is asked is what becomes of the line. -/
theorem of_field_asked (found : IsLineAt before line behind caret) :
    Edit.ofField? settings ((atEnd before behind line).changed (.insert asking)).value
        ((atEnd before behind line).changed (.insert asking)).caret =
      (answeredLine? settings (line ++ asking)).map (Option.map (Edit.ofLine before behind)) := by
  have longer := found.replaced (List.forall_mem_append.2 ⟨found.inLine, is_in_line_asking⟩)
  rw [changed_insert]
  exact longer.of_field_eq

variable (chains : Chains result) (figured : result.any Char.isDigit = true)
  (itself : Answer.textOf settings result = .ok result)

include chains figured itself

theorem of_field_chained (found : IsLineAt before line behind caret) (ends : EndsIn result line) :
    Edit.ofField? settings ((atEnd before behind line).changed (.insert asking)).value
        ((atEnd before behind line).changed (.insert asking)).caret =
      .ok (some (Edit.ofLine before behind (line ++ link result))) := by
  rw [of_field_asked found, answered_line_chain ends chains figured itself]
  rfl

theorem step_chained (found : IsLineAt before line behind caret) (ends : EndsIn result line) :
    step settings (atEnd before behind line) (.insert asking) =
      .ok (atEnd before behind (line ++ link result), true) := by
  unfold step
  dsimp only
  rw [of_field_chained chains figured itself found ends]
  rfl

/-- Asking any number of times adds a link each time. -/
theorem run_chained (found : IsLineAt before line behind caret) (ends : EndsIn result line)
    (count : Nat) :
    run settings (atEnd before behind line) (List.replicate count (.insert asking)) =
      .ok ((List.range count).map fun fewer =>
        (atEnd before behind (line ++ links result (fewer + 1)), true)) := by
  -- the line that the first link makes longer ends in the result again
  induction count generalizing line caret with
  | zero => rfl
  | succ count ih =>
      have longer := found.replaced
        (List.forall_mem_append.2 ⟨found.inLine, is_in_line_link chains.toFits⟩)
      have rest := ih longer (ends.grown chains.toFits)
      rw [List.replicate_succ, run, step_chained chains figured itself found ends]
      change (run settings (atEnd before behind (line ++ link result)) _).map _ = _
      have first : line ++ links result 1 = line ++ link result := by simp [links]
      have next := fun fewer => Equation.append_links line result (fewer + 1)
      rw [rest, List.range_succ_eq_map]
      simp [Except.map, first, next]

end Asked

def afterEdit (edit : Edit) : Host :=
  ⟨edit.value, edit.caret⟩

theorem after_edit_of_line (before behind line : Text) :
    afterEdit (Edit.ofLine before behind line) = atEnd before behind line := rfl

/-- The host that has taken an edit over, with so many more results behind the caret. -/
def chained (edit : Edit) (result : Text) (count : Nat) : Host :=
  (afterEdit edit).changed (.insert (links result count))

def asked (host : Host) : Host :=
  host.changed (.insert asking)

/-- Behind an edit the result can be asked for any number of times. Each time the announced line has
one copy more. -/
def GoesOn (settings : Settings) (edit : Edit) (result : Text) : Prop :=
  ∀ count,
    between (chained edit result count).value
        (lineBounds (chained edit result count).value (chained edit result count).caret) =
      edit.announcement ++ links result count ∧
    Edit.ofField? settings (chained edit result count).asked.value
        (chained edit result count).asked.caret =
      .ok (some ⟨(chained edit result (count + 1)).value, (chained edit result (count + 1)).caret,
        edit.announcement ++ links result (count + 1)⟩) ∧
    run settings (afterEdit edit) (List.replicate count (.insert asking)) =
      .ok ((List.range count).map fun fewer => (chained edit result (fewer + 1), true))

section Edited

variable {settings : Settings} {before line behind : Text} {caret : Nat}
  (found : IsLineAt before line behind caret)

include found

theorem goes_on_of_result {result : Text} (ends : EndsIn result line) (chains : Chains result)
    (figured : result.any Char.isDigit = true)
    (itself : Answer.textOf settings result = .ok result) :
    GoesOn settings (Edit.ofLine before behind line) result := by
  intro count
  have longer := found.replaced
    (List.forall_mem_append.2 ⟨found.inLine, is_in_line_links chains.toFits count⟩)
  have further := ends.links chains.toFits count
  have answered := of_field_chained chains figured itself longer further
  rw [changed_insert, Equation.links_append_link] at answered
  unfold asked chained
  simp only [after_edit_of_line, changed_insert]
  exact ⟨longer.between_eq, answered, run_chained chains figured itself found ends count⟩

theorem quiet_of_failure (ends : EndsIn settings.failureText line)
    (untouched : settings.failureText = ({} : Settings).failureText) :
    Edit.ofField? settings (afterEdit (Edit.ofLine before behind line)).asked.value
      (afterEdit (Edit.ofLine before behind line)).asked.caret = .ok none := by
  have chains := chains_failure_text
  have plain : ({} : Settings).failureText.any Char.isDigit = false := by decide
  rw [← untouched] at chains plain
  unfold asked
  rw [after_edit_of_line, of_field_asked found, answered_line_broken ends chains plain]
  rfl

end Edited

theorem exists_result {settings : Settings} {raw : Text} {answer : Answer}
    (figured : raw.any Char.isDigit = true) (answered : Answer.ofText settings raw = .ok answer)
    (succeeded : answer.ok = true) :
    ∃ result, answer.result = some result ∧ Answer.resultText settings answer = result := by
  cases Answer.outcome_of_text answered with
  | nothing _ plain =>
      rw [plain] at figured
      contradiction
  | value => exact ⟨_, rfl, rfl⟩
  | _ => contradiction

/-- An edited field has a line that asks for a result, and the edit leaves the answered line in its
place. -/
theorem exists_answered {settings : Settings} {value : Text} {caret : Nat} {edit : Edit}
    (inside : caret ≤ value.length)
    (edited : Edit.ofField? settings value caret = .ok (some edit)) :
    ∃ before line behind equation answer, IsLineAt before line behind caret ∧
      between value (lineBounds value caret) = line ∧ Equation.ofLine? line = some equation ∧
      Answer.ofText settings equation.expression = .ok answer ∧
      edit = Edit.ofLine before behind (Equation.answered equation.leftPart equation.expression
        (Answer.resultText settings answer)) := by
  obtain ⟨before, line, behind, rfl, found⟩ := exists_is_line_at inside
  obtain ⟨equation, result, asks, shown, _⟩ := Edit.of_field_eq_some.1 edited
  rw [found.between_eq] at asks
  rw [found.of_field_eq, answered_line_of_some asks] at edited
  unfold Answer.textOf at edited shown
  cases answered : Answer.ofText settings equation.expression with
  | error fault =>
      rw [answered] at shown
      contradiction
  | ok answer =>
      rw [answered] at edited
      cases edited
      exact ⟨before, line, behind, equation, answer, found, found.between_eq, asks, answered, rfl⟩

/-- Where a line was answered with a result, asking again any number of times appends as many copies
of it, each answered anew. Where it was answered with a failure, asking again is in vain. -/
theorem chain_goes_on {settings : Settings} {value : Text} {caret : Nat} {edit : Edit}
    (behind : 0 ≤ settings.places) (inside : caret ≤ value.length)
    (edited : Edit.ofField? settings value caret = .ok (some edit)) :
    ∃ equation answer,
      Equation.ofLine? (between value (lineBounds value caret)) = some equation ∧
      Answer.ofText settings equation.expression = .ok answer ∧
      (answer.ok = true → ∃ result, answer.result = some result ∧
        ((result.length : Int) ≤ settings.inputLimit → GoesOn settings edit result)) ∧
      (answer.ok = false → settings.failureText = ({} : Settings).failureText →
        Edit.ofField? settings (afterEdit edit).asked.value (afterEdit edit).asked.caret =
          .ok none) := by
  obtain ⟨before, line, rest, equation, answer, found, same, asks, answered, rfl⟩ :=
    exists_answered inside edited
  rw [same]
  refine ⟨equation, answer, asks, answered, ?_, ?_⟩
  · intro succeeded
    obtain ⟨result, resulted, shown⟩ :=
      exists_result (Equation.any_digit_of_equation asks) answered succeeded
    refine ⟨result, resulted, fun short => ?_⟩
    obtain ⟨chains, figured⟩ := chains_of_result behind answered resulted
    have fits := Equation.is_in_line_answered asks found.inLine chains.inLine
    rw [shown]
    have ends := Equation.ends_in_answered asks result
    apply goes_on_of_result (found.replaced fits) ends chains figured
    exact text_of_result behind answered resulted short
  · intro failed untouched
    have shown : Answer.resultText settings answer = settings.failureText := by
      simp [Answer.resultText, failed]
    have inLine := fits_failure_text.inLine
    rw [← untouched] at inLine
    have fits := Equation.is_in_line_answered asks found.inLine inLine
    rw [shown]
    exact quiet_of_failure (found.replaced fits) (Equation.ends_in_answered asks _) untouched

/-- A half with its unit behind an equals sign without spaces is chained twice, a sum without its
second operand not at all. -/
theorem half_chained_twice :
    run {} ⟨"so\nx = 7 kg / 2 = 3.5 kg \nend".toList, 25⟩ [.insert asking, .insert asking] =
        .ok [(⟨"so\nx = 7 kg / 2 = 3.5 kg = 3.5 kg \nend".toList, 34⟩, true),
          (⟨"so\nx = 7 kg / 2 = 3.5 kg = 3.5 kg = 3.5 kg \nend".toList, 43⟩, true)] ∧
      Edit.ofField? {} "1 + = Invalid expression =  ".toList 28 = .ok none := by
  have halved : Edit.ofField? {} "so\nx =7 kg / 2=  \nend".toList (5 : Nat) =
      .ok (some ⟨"so\nx = 7 kg / 2 = 3.5 kg \nend".toList, 25,
        "x = 7 kg / 2 = 3.5 kg ".toList⟩) := by
    decide +kernel
  have halfAsked : Equation.ofLine? (between "so\nx =7 kg / 2=  \nend".toList
      (lineBounds "so\nx =7 kg / 2=  \nend".toList (5 : Nat))) =
        some ⟨"x =".toList, "7 kg / 2".toList, "7 kg / 2".toList⟩ := by
    decide +kernel
  have half : Answer.ofText {} "7 kg / 2".toList = .ok {
      ok := true
      result := some "3.5 kg".toList
      value := some (Binary64.ofDecimal 35 1)
      expression := some "7 / 2".toList
      unit := some "kg".toList } := by
    decide +kernel
  have refused : Edit.ofField? {} "1 +=  ".toList (6 : Nat) =
      .ok (some ⟨"1 + = Invalid expression ".toList, 25, "1 + = Invalid expression ".toList⟩) := by
    decide +kernel
  have failureAsked : Equation.ofLine? (between "1 +=  ".toList
      (lineBounds "1 +=  ".toList (6 : Nat))) = some ⟨[], "1 +".toList, "1 +".toList⟩ := by
    decide +kernel
  have failure : Answer.ofText {} "1 +".toList = .ok {
      ok := false
      expression := some "1 +".toList
      error := some "Missing operand for '+'".toList
      errorCode := some "MALFORMED_EXPRESSION".toList } := by
    decide +kernel
  constructor
  · obtain ⟨equation, answer, asks, answered, goesOn, _⟩ :=
      chain_goes_on (by decide) (by decide) halved
    cases halfAsked.symm.trans asks
    cases half.symm.trans answered
    obtain ⟨result, same, repeated⟩ := goesOn rfl
    cases same
    exact (repeated (by decide) 2).2.2
  · obtain ⟨equation, answer, asks, answered, _, quiet⟩ :=
      chain_goes_on (by decide) (by decide) refused
    cases failureAsked.symm.trans asks
    cases failure.symm.trans answered
    exact quiet rfl rfl

end Host

end Reckoner.Field
