import Reckoner.Proofs.Extraction.Partition

/-!
# Characters beside the arithmetic

Words, blanks and stray characters do not reach the arithmetic, and it does not matter which of them
stand where: spaces in their places leave every literal, parenthesis and operator as it is. Words
are cut anew then, and runs of blanks grow, but no literal gets longer.
-/

namespace Reckoner.Extraction

set_option autoImplicit false

/-- For each character of the pieces' text, the piece that it belongs to. -/
def owners (cut : List Piece) : List Piece :=
  cut.flatMap fun piece => List.replicate piece.text.length piece

/-- The piece does not belong to the arithmetic: a word, blanks or a stray character. -/
def Piece.isNoise (piece : Piece) : Bool :=
  !piece.token?.any isArithmetic

/-- The character at the position of a text is in no literal, parenthesis or operator. -/
def IsNoiseAt (raw : Text) (position : Nat) : Prop :=
  (owners (pieces raw))[position]?.any Piece.isNoise = true

instance (raw : Text) (position : Nat) : Decidable (IsNoiseAt raw position) :=
  inferInstanceAs (Decidable (_ = true))

def spacedAt (chosen : Nat → Bool) (raw : Text) : Text :=
  raw.mapIdx fun position c => if chosen position then ' ' else c

def figures (cut : List Piece) : List Token :=
  (cut.filterMap Piece.token?).filter isArithmetic

/-- The chosen positions are not those of a piece of the arithmetic. -/
def SparesFigures (chosen : Nat → Bool) (cut : List Piece) : Prop :=
  ∀ position piece, chosen position = true → (owners cut)[position]? = some piece →
    piece.isNoise = true

/-- The arithmetic is written with the tokens that belong to it alone. -/
theorem arithmetic_filter (tokens : List Token) :
    arithmetic (tokens.filter isArithmetic) = arithmetic tokens := by
  have same : (tokens.filter isArithmetic).any Token.isOperand = tokens.any Token.isOperand := by
    rw [List.any_filter]
    congr 1
    funext token
    cases operand : token.isOperand with
    | false => exact Bool.and_false _
    | true => rw [is_arithmetic_of_is_operand operand]; rfl
  rw [arithmetic, arithmetic, same, List.filter_filter]
  simp only [Bool.and_self]

section Spaced

variable {front rest : Text} {chosen : Nat → Bool} {c : Char}

theorem length_spaced_at (chosen : Nat → Bool) (raw : Text) :
    (spacedAt chosen raw).length = raw.length :=
  List.length_mapIdx

theorem spaced_at_cons (chosen : Nat → Bool) (c : Char) (rest : Text) :
    spacedAt chosen (c :: rest) =
      (if chosen 0 then ' ' else c) :: spacedAt (fun position => chosen (position + 1)) rest :=
  List.mapIdx_cons

theorem spaced_at_append (chosen : Nat → Bool) (front rest : Text) :
    spacedAt chosen (front ++ rest) =
      spacedAt chosen front ++ spacedAt (fun position => chosen (position + front.length)) rest :=
  List.mapIdx_append

theorem spaced_at_of_kept (kept : ∀ position < front.length, chosen position = false) :
    spacedAt chosen front = front := by
  apply List.ext_getElem (length_spaced_at chosen front)
  intro position _ inside
  simp [spacedAt, kept position inside]

theorem mem_spaced_at (member : c ∈ spacedAt chosen front) : c = ' ' ∨ c ∈ front := by
  obtain ⟨position, inside, same⟩ := List.mem_mapIdx.1 member
  split at same
  · exact .inl same.symm
  · exact .inr (same ▸ List.getElem_mem inside)

/-- What begins a text with spaces in some places, and is none of these spaces, begins the text. -/
theorem prefix_of_prefix_spaced_at {word source : Text} (solid : ∀ c ∈ word, c ≠ ' ')
    (begins : word <+: spacedAt chosen source) : word <+: source := by
  induction word generalizing source chosen with
  | nil => exact List.nil_prefix
  | cons c word ih =>
      obtain ⟨noSpace, others⟩ := List.forall_mem_cons.1 solid
      cases source with
      | nil => simp [spacedAt] at begins
      | cons first source =>
          rw [spaced_at_cons, List.cons_prefix_cons] at begins
          obtain ⟨same, follows⟩ := begins
          split at same
          · exact absurd same noSpace
          · rw [same, List.cons_prefix_cons]
            exact ⟨rfl, ih others follows⟩

/-- No space makes a literal longer. -/
theorem is_longest_spaced_at {word : Text} (longest : Numeral.IsLongest word rest) :
    Numeral.IsLongest word (spacedAt chosen rest) where
  isLiteral := longest.isLiteral
  noMore := by
    intro longer more written spelled follows
    apply longest.noMore longer more written spelled
    apply prefix_of_prefix_spaced_at _ follows
    rintro c member rfl
    have solid := Expression.is_blank_of_mem_text (c := ' ') written
      (spelled ▸ List.mem_append_right word member)
    contradiction

end Spaced

section Idle

variable {front rest : Text} {c : Char}

/-- The character begins nothing that belongs to the arithmetic. -/
def IsIdle (c : Char) : Prop :=
  Text.isWordCharacter c = true ∨ Text.isBlank c = true ∨ IsStray c

theorem is_idle_space : IsIdle ' ' :=
  .inr (.inl rfl)

theorem figures_cons (piece : Piece) (cut : List Piece) :
    figures (piece :: cut) = figures [piece] ++ figures cut := by
  rw [figures, ← List.singleton_append, List.filterMap_append, List.filter_append]
  rfl

theorem figures_of_noise {piece : Piece} (noise : piece.isNoise = true) : figures [piece] = [] := by
  cases piece with
  | stray c => rfl
  | token token =>
      have other : isArithmetic token = false := by simpa [Piece.isNoise, Piece.token?] using noise
      exact List.filter_cons_of_neg (by simp [other])

theorem pieces_run {kind : Kind} {test : Char → Bool} (tested : runTest? kind = some test)
    (inside : test c = true) (rest : Text) :
    pieces (c :: rest) =
      .token (.bare kind (c :: rest.takeWhile test)) :: pieces (rest.dropWhile test) := by
  have run : ∀ other ∈ c :: rest.takeWhile test, test other = true :=
    List.forall_mem_cons.2 ⟨inside, fun _ => List.mem_takeWhile_imp⟩
  have stop := head_dropWhile test rest
  have whole : c :: rest = c :: rest.takeWhile test ++ rest.dropWhile test := by
    rw [List.cons_append, List.takeWhile_append_dropWhile]
  rw [whole]
  unfold runTest? at tested
  split at tested
  · cases tested
    exact pieces_word run stop
  · cases tested
    exact pieces_blank run stop
  · contradiction

theorem is_noise_run {kind : Kind} {test : Char → Bool} (tested : runTest? kind = some test)
    (text : Text) : Piece.isNoise (.token (.bare kind text)) = true := by
  unfold runTest? at tested
  split at tested
  · rfl
  · rfl
  · contradiction

theorem figures_run {kind : Kind} {test : Char → Bool} (tested : runTest? kind = some test)
    (inside : test c = true) (rest : Text) :
    figures (pieces (c :: rest)) = figures (pieces (rest.dropWhile test)) := by
  rw [pieces_run tested inside, figures_cons, figures_of_noise (is_noise_run tested _)]
  rfl

/-- Where a run ends sooner or later, the arithmetic behind it is the same. -/
theorem figures_dropWhile {kind : Kind} {test : Char → Bool} (tested : runTest? kind = some test)
    (rest : Text) : figures (pieces (rest.dropWhile test)) = figures (pieces rest) := by
  cases rest with
  | nil => rfl
  | cons c rest =>
      by_cases inside : test c = true
      · rw [List.dropWhile_cons_of_pos inside, figures_run tested inside]
      · rw [List.dropWhile_cons_of_neg inside]

theorem figures_idle (idle : IsIdle c) (rest : Text) :
    figures (pieces (c :: rest)) = figures (pieces rest) := by
  rcases idle with inWord | blank | stray
  · have tested : runTest? .word = some Text.isWordCharacter := rfl
    rw [figures_run tested inWord, figures_dropWhile tested]
  · have tested : runTest? .blank = some Text.isBlank := rfl
    rw [figures_run tested blank, figures_dropWhile tested]
  · rw [stray.pieces_eq]
    rfl

theorem figures_append_idle (idle : ∀ c ∈ front, IsIdle c) (rest : Text) :
    figures (pieces (front ++ rest)) = figures (pieces rest) := by
  induction front with
  | nil => rfl
  | cons c front ih =>
      obtain ⟨first, others⟩ := List.forall_mem_cons.1 idle
      rw [List.cons_append, figures_idle first, ih others]

end Idle

section Placed

variable {front rest : Text} {piece : Piece}

theorem Placed.is_idle (placed : Placed front piece rest) (noise : piece.isNoise = true) :
    ∀ c ∈ piece.text, IsIdle c := by
  cases placed with
  | @literal token _ _ _ kind _ _ =>
      have operand := is_operand_of_literal_kind kind
      simp [Piece.isNoise, Piece.token?, is_arithmetic_of_is_operand operand] at noise
  | opening => contradiction
  | closing => contradiction
  | operator _ => contradiction
  | word run => exact fun c member => .inl (run.inside c member)
  | blank run => exact fun c member => .inr (.inl (run.inside c member))
  | stray stray => exact List.forall_mem_singleton.2 (.inr (.inr stray))

/-- A piece of the arithmetic keeps its place when spaces come behind it. -/
theorem Placed.spaced (placed : Placed front piece rest) (figure : piece.isNoise = false)
    (chosen : Nat → Bool) : Placed front piece (spacedAt chosen rest) := by
  cases placed with
  | literal longest kind named carried =>
      exact .literal (is_longest_spaced_at longest) kind named carried
  | opening => exact .opening
  | closing => exact .closing
  | operator sign => exact .operator sign
  | word run => contradiction
  | blank run => contradiction
  | stray stray => contradiction

end Placed

section Spares

variable {piece : Piece} {cut : List Piece} {chosen : Nat → Bool} {position : Nat}

theorem owners_cons_of_lt (inside : position < piece.text.length) :
    (owners (piece :: cut))[position]? = some piece := by
  rw [owners, List.flatMap_cons, List.getElem?_append_left (by simpa using inside),
    List.getElem?_replicate_of_lt inside]

theorem owners_cons_add (position : Nat) :
    (owners (piece :: cut))[position + piece.text.length]? = (owners cut)[position]? := by
  rw [owners, List.flatMap_cons, List.getElem?_append_right (by simp), List.length_replicate,
    Nat.add_sub_cancel]
  rfl

theorem SparesFigures.behind (spares : SparesFigures chosen (piece :: cut)) :
    SparesFigures (fun position => chosen (position + piece.text.length)) cut := by
  intro position other isChosen owner
  apply spares _ other isChosen
  rw [owners_cons_add, owner]

theorem SparesFigures.kept (spares : SparesFigures chosen (piece :: cut))
    (figure : piece.isNoise = false) :
    ∀ position < piece.text.length, chosen position = false := by
  intro position inside
  by_contra isChosen
  have noise := spares position piece (by simpa using isChosen) (owners_cons_of_lt inside)
  rw [noise] at figure
  contradiction

/-- Spaces at positions beside the arithmetic leave the arithmetic as it is. -/
theorem figures_spaced_at (placed : AllPlaced cut) (spares : SparesFigures chosen cut) :
    figures (pieces (spacedAt chosen (textOf cut))) = figures cut := by
  -- the pieces of the text with spaces are not those of the text, so the induction compares the
  -- arithmetic alone: noise is cut anew in any way, and a figure is found where it was
  induction placed generalizing chosen with
  | nil => rw [textOf, List.flatMap_nil, spacedAt, List.mapIdx_nil, pieces]
  | @cons _ piece cut here _ ih =>
      have follows := ih spares.behind
      rw [text_of_cons, spaced_at_append, figures_cons]
      cases kind : piece.isNoise with
      | true =>
          rw [figures_of_noise kind, figures_append_idle, follows]
          · rfl
          · intro c member
            rcases mem_spaced_at member with rfl | member
            · exact is_idle_space
            · exact here.is_idle kind c member
      | false =>
          rw [spaced_at_of_kept (spares.kept kind), (here.spaced kind _).pieces_eq, figures_cons,
            follows]

end Spares

/-- Spaces in the places of noise leave the arithmetic of a text as it is. -/
theorem arithmetic_spaced_at {raw : Text} {chosen : Nat → Bool}
    (noise : ∀ position, chosen position = true → IsNoiseAt raw position) :
    arithmetic (tokensOf (spacedAt chosen raw)) = arithmetic (tokensOf raw) := by
  have spares : SparesFigures chosen (pieces raw) := by
    intro position piece isChosen owner
    have beside := noise position isChosen
    rwa [IsNoiseAt, owner] at beside
  have same := figures_spaced_at (all_placed_pieces raw) spares
  rw [text_of_pieces] at same
  rw [← arithmetic_filter, ← arithmetic_filter (tokensOf raw)]
  exact congrArg arithmetic same

end Reckoner.Extraction
