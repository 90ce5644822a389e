import Reckoner.Proofs.Expression.Calculation
import Reckoner.Proofs.Expression.Marking
import Reckoner.Proofs.Expression.Reordering
import Reckoner.Proofs.Expression.Writing

/-!
# Evaluating a written expression

The stages put together: however an expression is written, it is cut into its terminals, its signs
are marked, it is reordered into the listing of its tree, and it comes to the value of the tree.
-/

namespace Reckoner.Expression

set_option autoImplicit false

section Written

variable {tree : Tree} {terminals : List Terminal} {source : Text}

theorem tokens_of_writing (derived : Derives .sum tree terminals)
    (written : Writing terminals source) :
    normal source = .ok (spelled source) ∧
      tokens (spelled source) = .ok (terminals.map Terminal.unmarked) :=
  tokens_normal (lexes_of_writing written (separated_of_derives derived))

theorem to_postfix_of_writing (derived : Derives .sum tree terminals) :
    toPostfix (markSigns (terminals.map Terminal.unmarked)) = .ok tree.postorder := by
  rw [mark_signs_of_derives derived]
  exact to_postfix_of_derives derived

theorem postfix_of_writing (derived : Derives .sum tree terminals)
    (written : Writing terminals source) : postfixOf source = .ok tree.postorder := by
  obtain ⟨normalized, read⟩ := tokens_of_writing derived written
  have nonempty : (terminals.map Terminal.unmarked).isEmpty = false := by
    simpa using ne_nil_of_derives derived
  unfold postfixOf
  simp only [bind, Except.bind, normalized, read, nonempty, Bool.false_eq_true, if_false]
  exact to_postfix_of_writing derived

theorem evaluate_of_writing (derived : Derives .sum tree terminals)
    (written : Writing terminals source) : evaluate source = .ok tree.value := by
  unfold evaluate
  rw [postfix_of_writing derived written]
  exact value_of_postfix_postorder tree

/-- Every writing of an expression is reordered into the listing of its tree and evaluates to the
value of its tree. -/
theorem written_expression_evaluates (derived : Derives .sum tree terminals)
    (written : Writing terminals source) :
    (∃ text found, normal source = .ok text ∧ tokens text = .ok found ∧
      toPostfix (markSigns found) = .ok tree.postorder) ∧
      evaluate source = .ok tree.value := by
  obtain ⟨normalized, read⟩ := tokens_of_writing derived written
  refine ⟨⟨spelled source, _, normalized, read, to_postfix_of_writing derived⟩, ?_⟩
  exact evaluate_of_writing derived written

end Written

/-- A product of a signed number and a group with a share, written with the capital X and with
blanks in some places only: minus two times the sum of three and half of it. -/
theorem signed_product_with_share_evaluates :
    evaluate "-2 X( 3+50% )".toList = .ok (-Binary64.ofDecimal 9 0) := by
  have two := Derives.figure (.ofNumeral ⟨['2'], [], false⟩)
  have three := Derives.figure (.ofNumeral ⟨['3'], [], false⟩)
  have half := Derives.figure (.ofNumeral ⟨['5', '0'], [], true⟩)
  have group := Derives.group (.combined .plus (.single (.single three)) (.single half))
  have derived : Derives .sum _ _ := .single (.combined .times (.single (.signed .minus two)) group)
  have spelledTwo := Spelling.literal (show Numeral.WellFormed ⟨['2'], [], false⟩ by decide)
  have spelledThree := Spelling.literal (show Numeral.WellFormed ⟨['3'], [], false⟩ by decide)
  have spelledHalf := Spelling.literal (show Numeral.WellFormed ⟨['5', '0'], [], true⟩ by decide)
  have ending : Writing [] [] := .done (by simp)
  have sum := Writing.spaced spelledThree
    (.directly (.operator .plus) (.directly spelledHalf (.spaced .closing ending)))
  have written : Writing _ "-2 X( 3+50% )".toList :=
    .directly (.sign .minus) (.directly spelledTwo (.spaced .timesSign (.directly .opening sum)))
  rw [(written_expression_evaluates derived written).2]
  decide +kernel

end Reckoner.Expression
