import Mathlib.Data.List.TakeWhile
import Reckoner.Proofs.CommandLine.Reading

/-!
# Which arguments are values

The value of an option can be attached to it, whatever it is. An argument of its own can be its
value only if it is not taken for an option, and that is decided by the argument alone: it may begin
with a dash only if it is a dash, a negative number, or has a space and names no option.
-/

namespace Reckoner.CommandLine

set_option autoImplicit false

/-- A dash with decimal digits behind it, and a point before the last of them at most. -/
inductive NegativeNumber : Text → Prop
  | whole {digits : Text} : digits ≠ [] → (∀ c ∈ digits, isAnyDigit c = true) →
      NegativeNumber ('-' :: digits)
  | fraction {digits behind : Text} : (∀ c ∈ digits, isAnyDigit c = true) → behind ≠ [] →
      (∀ c ∈ behind, isAnyDigit c = true) → NegativeNumber ('-' :: (digits ++ '.' :: behind))

/-- The argument begins with the short name of an option, or what it has before its first equals
sign is the beginning of a long one. -/
inductive NamesOption : Text → Prop
  | short {flag : Flag} {name argument : Text} : name ∈ flag.names → isShort name = true →
      name <+: argument → NamesOption argument
  | long {flag : Flag} {name argument : Text} : name ∈ flag.names → marker <+: argument →
      beforeEquals argument <+: name → NamesOption argument

/-- The argument can be the value of an option that stands before it. -/
inductive StandsAlone : Text → Prop
  | plain {argument : Text} : argument.head? ≠ some '-' → StandsAlone argument
  | dash : StandsAlone ['-']
  | negative {argument : Text} : NegativeNumber argument → StandsAlone argument
  | negativeLine {argument : Text} : NegativeNumber argument → StandsAlone (argument ++ ['\n'])
  | spaced {argument : Text} : ' ' ∈ argument → ¬NamesOption argument → StandsAlone argument

section Negative

variable {number argument : Text}

theorem is_any_digit_point : isAnyDigit '.' = false := by
  decide +kernel

theorem is_unsigned_number_iff :
    isUnsignedNumber number = true ↔ NegativeNumber ('-' :: number) := by
  constructor
  · intro unsigned
    unfold isUnsignedNumber at unsigned
    split at unsigned
    · rename_i run
      apply NegativeNumber.whole
      · simpa using unsigned
      · exact List.dropWhile_eq_nil_iff.1 run
    · rename_i behind run
      rw [← List.takeWhile_append_dropWhile (p := isAnyDigit) (l := number), run]
      rw [Bool.and_eq_true, List.all_eq_true] at unsigned
      apply NegativeNumber.fraction
      · intro c member
        exact List.mem_takeWhile_imp member
      · simpa using unsigned.1
      · exact unsigned.2
    · contradiction
  · intro negative
    cases negative with
    | whole nonempty digits =>
        rw [isUnsignedNumber, List.dropWhile_eq_nil_iff.2 digits]
        simpa using nonempty
    | fraction digits nonempty behind =>
        rw [isUnsignedNumber, List.dropWhile_append_of_pos digits,
          List.dropWhile_cons_of_neg (by simp [is_any_digit_point])]
        simpa [List.all_eq_true, nonempty] using behind

/-- A negative number begins with a dash and ends in a digit, and behind the dash stands a digit or
the point. -/
theorem NegativeNumber.ends (negative : NegativeNumber argument) :
    ∃ second rest last, argument = '-' :: second :: rest ∧
      (isAnyDigit second = true ∨ second = '.') ∧
      (second :: rest).getLast? = some last ∧ isAnyDigit last = true := by
  cases negative with
  | @whole digits nonempty run =>
      obtain ⟨second, rest, rfl⟩ := List.exists_cons_of_ne_nil nonempty
      refine ⟨second, rest, _, rfl, .inl (run _ List.mem_cons_self),
        List.getLast?_eq_some_getLast nonempty, run _ (List.getLast_mem nonempty)⟩
  | @fraction digits behind run nonempty fraction =>
      have last : (digits ++ '.' :: behind).getLast? = some (behind.getLast nonempty) := by
        rw [List.getLast?_append, List.getLast?_cons, List.getLast?_eq_some_getLast nonempty]
        rfl
      have digit := fraction _ (List.getLast_mem nonempty)
      cases digits with
      | nil => exact ⟨'.', behind, _, rfl, .inr rfl, last, digit⟩
      | cons second rest =>
          exact ⟨second, _, _, rfl, .inl (run _ List.mem_cons_self), last, digit⟩

/-- What looks like a negative number is one, on a line of its own or not. -/
theorem looks_negative_iff : looksNegative argument = true ↔
    NegativeNumber argument ∨ ∃ front, argument = front ++ ['\n'] ∧ NegativeNumber front := by
  have noDigit : isAnyDigit '\n' = false := by decide +kernel
  constructor
  · intro looks
    unfold looksNegative at looks
    split at looks
    · rename_i number
      rw [is_unsigned_number_iff] at looks
      split at looks
      · rename_i broken
        obtain ⟨digits, rfl⟩ := List.getLast?_eq_some_iff.1 broken
        rw [List.dropLast_concat] at looks
        exact .inr ⟨_, rfl, looks⟩
      · exact .inl looks
    · contradiction
  · intro negative
    rcases negative with negative | ⟨front, rfl, negative⟩
    · obtain ⟨second, rest, last, rfl, _, ending, digit⟩ := negative.ends
      have unbroken : (second :: rest).getLast? ≠ some '\n' := by
        rw [ending]
        rintro ⟨⟩
        rw [noDigit] at digit
        contradiction
      rw [looksNegative, if_neg unbroken, is_unsigned_number_iff]
      exact negative
    · obtain ⟨second, rest, _, rfl, _⟩ := negative.ends
      have broken : (second :: rest ++ ['\n']).getLast? = some '\n' := List.getLast?_concat
      rw [List.cons_append, looksNegative, if_pos broken, List.dropLast_concat,
        is_unsigned_number_iff]
      exact negative

/-- Behind the dash of what looks like a negative number stands a digit or the point. -/
theorem second_of_looks_negative (looks : looksNegative argument = true) :
    ∃ second rest, argument = '-' :: second :: rest ∧
      (isAnyDigit second = true ∨ second = '.') := by
  rcases looks_negative_iff.1 looks with negative | ⟨front, rfl, negative⟩
  · obtain ⟨second, rest, _, same, other, _⟩ := negative.ends
    exact ⟨second, rest, same, other⟩
  · obtain ⟨second, rest, _, rfl, other, _⟩ := negative.ends
    exact ⟨second, rest ++ ['\n'], rfl, other⟩

end Negative

section Names

variable {argument name : Text} {flag : Flag}

theorem mem_named_iff : (name, flag) ∈ Flag.named ↔ name ∈ flag.names := by
  have listed : flag ∈ Flag.all := by
    cases flag <;> decide
  constructor
  · intro member
    obtain ⟨other, _, entry⟩ := List.mem_flatMap.1 member
    obtain ⟨found, known, same⟩ := List.mem_map.1 entry
    cases same
    exact known
  · intro known
    exact List.mem_flatMap.2 ⟨flag, listed, List.mem_map.2 ⟨name, known, rfl⟩⟩

theorem of_name_eq_some_iff : Flag.ofName? name = some flag ↔ name ∈ flag.names := by
  have unique : ∀ entry ∈ Flag.named, Flag.ofName? entry.1 = some entry.2 := by decide
  constructor
  · intro found
    obtain ⟨before, behind, split, _⟩ := List.lookup_eq_some_iff.1 found
    rw [← mem_named_iff, split]
    exact List.mem_append_right _ List.mem_cons_self
  · intro known
    exact unique (name, flag) (mem_named_iff.2 known)

def shortNames : List Text :=
  "hedv".toList.map (['-', ·])

theorem long_or_short (known : name ∈ flag.names) : marker <+: name ∨ name ∈ shortNames := by
  have forms : ∀ entry ∈ Flag.named, marker <+: entry.1 ∨ entry.1 ∈ shortNames := by decide
  exact forms (name, flag) (mem_named_iff.2 known)

theorem is_short_of_mem_short_names (listed : name ∈ shortNames) : isShort name = true := by
  have forms : ∀ name ∈ shortNames, isShort name = true := by decide
  exact forms name listed

/-- A short name is a letter behind a dash. -/
theorem eq_letter_of_is_short (known : name ∈ flag.names) (short : isShort name = true) :
    ∃ letter, letter ∈ "hedv".toList ∧ ['-', letter] = name := by
  apply List.mem_map.1
  apply (long_or_short known).resolve_left
  rintro ⟨behind, rfl⟩
  contradiction

/-- An argument names an option if a name stands in it before its first equals sign. -/
theorem names_option_of_prefix (known : name ∈ flag.names) (begins : name <+: argument)
    (within : beforeEquals argument <+: name) : NamesOption argument := by
  rcases long_or_short known with long | short
  · exact .long known (long.trans begins) within
  · exact .short known (is_short_of_mem_short_names short) begins

theorem names_option_of_exact_shape {shape : Shape} (found : exactShape? argument = some shape) :
    NamesOption argument := by
  have before : beforeEquals argument <+: argument := List.takeWhile_prefix _
  unfold exactShape? at found
  split at found
  · rename_i named
    exact names_option_of_prefix (of_name_eq_some_iff.1 named) (List.prefix_refl _) before
  · split at found
    · obtain ⟨flag, named, _⟩ := Option.map_eq_some_iff.1 found
      exact names_option_of_prefix (of_name_eq_some_iff.1 named) before (List.prefix_refl _)
    · contradiction

theorem names_option_dash_iff {second : Char} {rest : Text} :
    NamesOption ('-' :: second :: rest) ↔
      (∃ flag : Flag, ['-', second] ∈ flag.names) ∨
      (second = '-' ∧ ∃ flag : Flag, ∃ name ∈ flag.names,
        beforeEquals ('-' :: second :: rest) <+: name) := by
  constructor
  · intro names
    cases names with
    | short known short begins =>
        obtain ⟨letter, _, rfl⟩ := eq_letter_of_is_short known short
        obtain ⟨_, same⟩ := begins
        cases same
        exact .inl ⟨_, known⟩
    | long known begins within =>
        obtain ⟨_, same⟩ := begins
        cases same
        exact .inr ⟨rfl, _, _, known, within⟩
  · intro either
    rcases either with ⟨flag, known⟩ | ⟨rfl, flag, name, known, within⟩
    · have short : ∀ entry ∈ Flag.named, entry.1.length = 2 → isShort entry.1 = true := by decide
      exact .short known (short (_, flag) (mem_named_iff.2 known) rfl) ⟨rest, rfl⟩
    · exact .long known ⟨rest, rfl⟩ within

/-- Behind the dash of an argument that names an option stands another one or a letter. -/
theorem NamesOption.second {second : Char} {rest : Text}
    (names : NamesOption ('-' :: second :: rest)) : second = '-' ∨ second ∈ "hedv".toList := by
  rcases names_option_dash_iff.1 names with ⟨flag, known⟩ | ⟨dash, _⟩
  · rcases long_or_short known with long | short
    · obtain ⟨_, same⟩ := long
      cases same
      exact .inl rfl
    · obtain ⟨letter, listed, same⟩ := List.mem_map.1 short
      cases same
      exact .inr listed
  · exact .inl dash

theorem readings_of_short {second : Char} {rest : Text} (apart : second ≠ '-') :
    readings ('-' :: second :: rest) = [] ↔ ∀ flag : Flag, ['-', second] ∉ flag.names := by
  have short : isShort ('-' :: second :: rest) = true := by
    simpa [isShort] using apart
  have front : ('-' :: second :: rest).take 2 = ['-', second] := rfl
  rw [readings, if_pos short, front]
  cases named : Flag.ofName? ['-', second] with
  | none =>
      apply iff_of_true rfl
      intro flag known
      rw [of_name_eq_some_iff.2 known] at named
      contradiction
  | some flag =>
      apply iff_of_false (List.cons_ne_nil _ _)
      intro unknown
      exact unknown flag (of_name_eq_some_iff.1 named)

theorem readings_of_long {rest : Text} :
    readings ('-' :: '-' :: rest) = [] ↔
      ∀ flag : Flag, ∀ name ∈ flag.names, ¬beforeEquals ('-' :: '-' :: rest) <+: name := by
  have long : ¬isShort ('-' :: '-' :: rest) = true := Bool.false_ne_true
  rw [readings, if_neg long, List.map_eq_nil_iff, List.filter_eq_nil_iff]
  constructor
  · intro none flag name known begins
    exact none (name, flag) (mem_named_iff.2 known) (List.isPrefixOf_iff_prefix.2 begins)
  · intro unknown entry member begins
    exact unknown entry.2 entry.1 (mem_named_iff.1 member) (List.isPrefixOf_iff_prefix.1 begins)

theorem readings_eq_nil_iff {second : Char} {rest : Text} :
    readings ('-' :: second :: rest) = [] ↔ ¬NamesOption ('-' :: second :: rest) := by
  rw [names_option_dash_iff]
  by_cases dash : second = '-'
  · have unnamed : ∀ entry ∈ Flag.named, entry.1 ≠ marker := by decide
    have noMarker : ∀ flag : Flag, ['-', '-'] ∉ flag.names := by
      intro flag known
      exact unnamed (_, flag) (mem_named_iff.2 known) rfl
    rw [dash, readings_of_long]
    simp [noMarker]
  · rw [readings_of_short dash]
    simp [dash]

end Names

section Shape

variable {argument : Text}

theorem not_names_option_of_looks_negative (looks : looksNegative argument = true) :
    ¬NamesOption argument := by
  have apart : ('-' :: "hedv".toList).all (fun c => !isAnyDigit c && c != '.') = true := by
    decide +kernel
  intro names
  obtain ⟨second, rest, rfl, other⟩ := second_of_looks_negative looks
  have neither := List.all_eq_true.1 apart second (List.mem_cons.2 names.second)
  rcases other with digit | point
  · simp [digit] at neither
  · simp [point] at neither

theorem ne_value_of_exact_shape {shape : Shape} (found : exactShape? argument = some shape) :
    shape ≠ .value := by
  unfold exactShape? at found
  split at found
  · cases found
    nofun
  · split at found
    · obtain ⟨flag, _, rfl⟩ := Option.map_eq_some_iff.1 found
      nofun
    · contradiction

theorem ne_value_of_mem_readings {reading : Text × Shape} (member : reading ∈ readings argument) :
    reading.2 ≠ .value := by
  unfold readings at member
  split at member
  · split at member
    · rw [List.mem_singleton.1 member]
      nofun
    · contradiction
  · obtain ⟨entry, _, rfl⟩ := List.mem_map.1 member
    nofun

/-- Two characters or more that begin with a dash are a value if they name no option and are a
number or have a space. -/
theorem shape_of_dash_iff {second : Char} {rest : Text} :
    shapeOf ('-' :: second :: rest) = .ok .value ↔
      ¬NamesOption ('-' :: second :: rest) ∧
        (looksNegative ('-' :: second :: rest) = true ∨ ' ' ∈ '-' :: second :: rest) := by
  -- Both an exact name and a reading name an option, so what is left is neither of them.
  unfold shapeOf
  cases exact : exactShape? ('-' :: second :: rest) with
  | some shape =>
      apply iff_of_false
      · intro same
        exact ne_value_of_exact_shape exact (Except.ok.inj same)
      · intro both
        exact both.1 (names_option_of_exact_shape exact)
  | none =>
      cases several : readings ('-' :: second :: rest) with
      | nil =>
          have unnamed := readings_eq_nil_iff.1 several
          rw [and_iff_right unnamed, ← List.contains_iff_mem, ← Bool.or_eq_true]
          cases looksNegative ('-' :: second :: rest) ||
              ('-' :: second :: rest).contains ' ' with
          | true => exact iff_of_true rfl rfl
          | false => simp
      | cons reading others =>
          have named : NamesOption ('-' :: second :: rest) := by
            by_contra unnamed
            rw [readings_eq_nil_iff.2 unnamed] at several
            contradiction
          apply iff_of_false
          · intro same
            cases others with
            | nil =>
                apply ne_value_of_mem_readings (several ▸ List.mem_cons_self)
                exact Except.ok.inj same
            | cons _ _ => contradiction
          · intro both
            exact both.1 named

theorem stands_alone_dash_iff {second : Char} {rest : Text}
    (argument_eq : argument = '-' :: second :: rest) :
    StandsAlone argument ↔
      ¬NamesOption argument ∧ (looksNegative argument = true ∨ ' ' ∈ argument) := by
  constructor
  · intro alone
    cases alone with
    | plain other =>
        rw [argument_eq] at other
        contradiction
    | dash => cases argument_eq
    | negative negative =>
        have looks := looks_negative_iff.2 (.inl negative)
        exact ⟨not_names_option_of_looks_negative looks, .inl looks⟩
    | negativeLine negative =>
        have looks := looks_negative_iff.2 (.inr ⟨_, rfl, negative⟩)
        exact ⟨not_names_option_of_looks_negative looks, .inl looks⟩
    | spaced space unnamed => exact ⟨unnamed, .inr space⟩
  · intro both
    obtain ⟨unnamed, looks | space⟩ := both
    · rcases looks_negative_iff.1 looks with negative | ⟨front, rfl, negative⟩
      · exact .negative negative
      · exact .negativeLine negative
    · exact .spaced space unnamed

/-- Only an argument that stands alone is taken for a value. -/
theorem shape_of_eq_value_iff : shapeOf argument = .ok .value ↔ StandsAlone argument := by
  rcases argument with _ | ⟨first, _ | ⟨second, rest⟩⟩
  · exact iff_of_true rfl (.plain nofun)
  · apply iff_of_true
    · simp [shapeOf]
    · by_cases dash : first = '-'
      · rw [dash]
        exact .dash
      · exact .plain (by simpa using dash)
  · by_cases dash : first = '-'
    · rw [dash, shape_of_dash_iff, stands_alone_dash_iff rfl]
    · apply iff_of_true
      · simp [shapeOf, dash]
      · exact .plain (by simpa using dash)

/-- A sum without spaces that begins with a minus is no value; with spaces it is one. -/
example : shapeOf "-5+3".toList = .ok .unknown ∧ shapeOf "-5 + 3".toList = .ok .value := by
  decide +kernel

end Shape

namespace Options

/-- An option is left without its value if what follows is no value. -/
theorem consumed_without_value {flag : Flag} {shape : Shape} (takes : flag.takesValue = true)
    (other : shape ≠ .value) (name value : Text) (short : Bool) :
    consumed {} [(name, .option flag short none), (value, shape)] =
      .error (.problem (.withoutValue flag)) := by
  have needs : Chain.needsValue { last := flag } = true := by
    simp [Chain.needsValue, takes]
  cases shape with
  | value => contradiction
  | unknown => simp [consumed, Chain.ofShape, needs]
  | option _ _ _ => simp [consumed, Chain.ofShape, needs]

section Separate

variable {name other value : Text} {flag : Flag} (known : name ∈ flag.names)

include known

theorem classified_name (rest : List Text) :
    classified (name :: rest) =
      (classified rest).map ((name, .option flag (isShort name) none) :: ·) := by
  have shapes : ∀ entry ∈ Flag.named, entry.1 ≠ marker ∧
      shapeOf entry.1 = .ok (.option entry.2 (isShort entry.1) none) := by decide
  obtain ⟨unmarked, shape⟩ := shapes (name, flag) (mem_named_iff.2 known)
  rw [classified, if_neg unmarked, shape]

/-- An option can be given by any of its names. -/
theorem of_arguments_congr (same : other ∈ flag.names) (rest : List Text) :
    ofArguments (name :: rest) = ofArguments (other :: rest) := by
  unfold ofArguments
  rw [classified_name known, classified_name same]
  cases classified rest with
  | error problem => rfl
  | ok shaped =>
      dsimp only [Except.map]
      rw [consumed.eq_def, consumed.eq_def]
      rfl

variable (takes : flag.takesValue = true)

include takes

theorem of_arguments_of_stands_alone {changed : Options} (alone : StandsAlone value)
    (changes : chained {} { last := flag, value := some value } = .ok changed) :
    ofArguments [name, value] = .ok changed := by
  have shape := shape_of_eq_value_iff.2 alone
  have unmarked : value ≠ marker := by
    intro marked
    rw [marked] at shape
    revert shape
    decide
  have classifies : classified [name, value] =
      .ok [(name, .option flag (isShort name) none), (value, .value)] := by
    rw [classified_name known, classified, if_neg unmarked, shape]
    rfl
  have needs : Chain.needsValue { last := flag } = true := by
    simp [Chain.needsValue, takes]
  apply of_arguments_eq_ok.2
  exact ⟨_, classifies, .withNext rfl needs changes (.done changed)⟩

theorem of_arguments_of_not_stands_alone (bound : ¬StandsAlone value) :
    ∃ problem, ofArguments [name, value] = .error (.problem problem) := by
  unfold ofArguments
  rw [classified_name known, classified]
  -- The marker is refused without being taken for anything.
  by_cases marked : value = marker
  · have other : Shape.unknown ≠ .value := by decide
    rw [if_pos marked]
    dsimp only [Except.map, List.map]
    rw [consumed_without_value takes other]
    exact ⟨_, rfl⟩
  · rw [if_neg marked]
    cases shape : shapeOf value with
    | error problem => exact ⟨problem, rfl⟩
    | ok found =>
        have other : found ≠ .value := by
          intro same
          rw [same] at shape
          exact bound (shape_of_eq_value_iff.1 shape)
        dsimp only [Except.map, classified]
        rw [consumed_without_value takes other]
        exact ⟨_, rfl⟩

end Separate

end Options

end Reckoner.CommandLine
