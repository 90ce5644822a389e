import Reckoner.CommandLine.Options
import Reckoner.Proofs.Success

/-!
# Reading a command line from left to right

The options of a command line are those of its beginning, changed by what stands behind it. So an
expression that is attached to its option can be added behind any command line that can be read, and
nothing else of what it asks for changes.
-/

namespace Reckoner.CommandLine

set_option autoImplicit false

section Classified

variable {arguments : List Text} {shaped : List (Text × Shape)}

theorem classified_cons {first : Text} {rest : List Text} (unmarked : first ≠ marker)
    (classifies : classified (first :: rest) = .ok shaped) :
    ∃ shape others, shapeOf first = .ok shape ∧ classified rest = .ok others ∧
      shaped = (first, shape) :: others := by
  rw [classified, if_neg unmarked] at classifies
  cases firstShape : shapeOf first with
  | error problem =>
      rw [firstShape] at classifies
      contradiction
  | ok shape =>
      rw [firstShape] at classifies
      obtain ⟨others, restShapes, same⟩ := exists_of_map_eq_ok classifies
      exact ⟨shape, others, rfl, restShapes, same.symm⟩

/-- What an argument is taken for does not depend on those before it, if the marker is not among
them. -/
theorem classified_concat {argument : Text} {shape : Shape} (unmarked : marker ∉ arguments)
    (classifies : classified arguments = .ok shaped) (last : argument ≠ marker)
    (lastShape : shapeOf argument = .ok shape) :
    classified (arguments ++ [argument]) = .ok (shaped ++ [(argument, shape)]) := by
  induction arguments generalizing shaped with
  | nil =>
      cases classifies
      simp only [List.nil_append, classified, if_neg last, lastShape]
      rfl
  | cons first rest ih =>
      have firstUnmarked : first ≠ marker := by
        intro same
        exact unmarked (same ▸ List.mem_cons_self)
      obtain ⟨firstShape, others, known, restShapes, rfl⟩ :=
        classified_cons firstUnmarked classifies
      have behind := ih (fun member => unmarked (List.mem_cons_of_mem _ member)) restShapes
      rw [List.cons_append, classified, if_neg firstUnmarked, known]
      dsimp only
      rw [behind]
      rfl

theorem mem_classified_of_marker (marked : marker ∈ arguments)
    (classifies : classified arguments = .ok shaped) : (marker, Shape.unknown) ∈ shaped := by
  induction arguments generalizing shaped with
  | nil => contradiction
  | cons first rest ih =>
      by_cases same : first = marker
      · rw [classified, if_pos same] at classifies
        cases classifies
        rw [same]
        exact List.mem_cons_self
      · obtain ⟨shape, others, _, restShapes, rfl⟩ := classified_cons same classifies
        have later := (List.mem_cons.1 marked).resolve_left fun first => same first.symm
        exact List.mem_cons_of_mem _ (ih later restShapes)

end Classified

namespace Options

/-- The classified arguments change the options into others and leave some arguments to nobody. -/
inductive Reads : Options → List (Text × Shape) → Options → List Text → Prop
  | done (options : Options) : Reads options [] options []
  | withNext {options changed reached : Options} {argument next : Text} {flag : Flag}
      {short : Bool} {attached : Option Text} {chain : Chain} {others : List (Text × Shape)}
      {extra : List Text} : Chain.ofShape flag short attached = .ok chain →
      chain.needsValue = true → options.chained { chain with value := some next } = .ok changed →
      Reads changed others reached extra →
      Reads options ((argument, .option flag short attached) :: (next, .value) :: others) reached
        extra
  | alone {options changed reached : Options} {argument : Text} {flag : Flag} {short : Bool}
      {attached : Option Text} {chain : Chain} {rest : List (Text × Shape)} {extra : List Text} :
      Chain.ofShape flag short attached = .ok chain → chain.needsValue = false →
      options.chained chain = .ok changed → Reads changed rest reached extra →
      Reads options ((argument, .option flag short attached) :: rest) reached extra
  | left {options reached : Options} {argument : Text} {shape : Shape}
      {rest : List (Text × Shape)} {extra : List Text} :
      (∀ flag short attached, shape ≠ .option flag short attached) →
      Reads options rest reached extra →
      Reads options ((argument, shape) :: rest) reached (argument :: extra)

theorem consumed_of_reads {options reached : Options} {shaped : List (Text × Shape)}
    {extra : List Text} (reads : Reads options shaped reached extra) :
    consumed options shaped = .ok (reached, extra) := by
  induction reads with
  | done => rfl
  | withNext parts needs changes _ ih =>
      rw [consumed, parts]
      dsimp only
      rw [if_pos needs, changes]
      exact ih
  | alone parts needs changes _ ih =>
      rw [consumed.eq_def]
      simp only [parts, needs, changes, Bool.false_eq_true, if_false]
      exact ih
  | left other _ ih =>
      rw [consumed, ih]
      · rfl
      · exact other

theorem reads_of_consumed {options reached : Options} {shaped : List (Text × Shape)}
    {extra : List Text} (read : consumed options shaped = .ok (reached, extra)) :
    Reads options shaped reached extra := by
  fun_induction consumed options shaped generalizing reached extra with
  | case1 =>
      cases read
      exact .done _
  | case2 => contradiction
  | case3 _ _ _ _ _ _ parts needs _ _ ih =>
      obtain ⟨changed, changes, behind⟩ := exists_of_bind_eq_ok read
      exact .withNext parts needs changes (ih changed behind)
  | case4 => contradiction
  | case5 _ _ _ _ _ _ _ parts needs ih =>
      obtain ⟨changed, changes, behind⟩ := exists_of_bind_eq_ok read
      exact .alone parts (by simpa using needs) changes (ih changed behind)
  | case6 _ _ _ _ other ih =>
      obtain ⟨found, behind, same⟩ := exists_of_map_eq_ok read
      cases same
      exact .left other (ih behind)

theorem Reads.append {options reached last : Options} {front behind : List (Text × Shape)}
    {extra more : List Text} (reads : Reads options front reached extra)
    (goesOn : Reads reached behind last more) :
    Reads options (front ++ behind) last (extra ++ more) := by
  induction reads with
  | done => exact goesOn
  | withNext parts needs changes _ ih => exact .withNext parts needs changes (ih goesOn)
  | alone parts needs changes _ ih => exact .alone parts needs changes (ih goesOn)
  | left other _ ih => exact .left other (ih goesOn)

/-- Nobody takes an argument that nobody knows. -/
theorem Reads.mem_of_unknown {options reached : Options} {shaped : List (Text × Shape)}
    {extra : List Text} {argument : Text} (reads : Reads options shaped reached extra)
    (member : (argument, Shape.unknown) ∈ shaped) : argument ∈ extra := by
  induction reads with
  | done => contradiction
  | withNext _ _ _ _ ih =>
      apply ih
      simpa using member
  | alone _ _ _ _ ih =>
      apply ih
      simpa using member
  | left _ _ ih =>
      rcases List.mem_cons.1 member with same | later
      · cases same
        exact List.mem_cons_self
      · exact List.mem_cons_of_mem _ (ih later)

theorem of_arguments_eq_ok {arguments : List Text} {options : Options} :
    ofArguments arguments = .ok options ↔
      ∃ shaped, classified arguments = .ok shaped ∧ Reads {} shaped options [] := by
  unfold ofArguments
  constructor
  · intro read
    cases classifies : classified arguments with
    | error problem =>
        rw [classifies] at read
        contradiction
    | ok shaped =>
        rw [classifies] at read
        obtain ⟨⟨reached, extra⟩, consumes, finishes⟩ := exists_of_bind_eq_ok read
        cases extra with
        | nil =>
            cases finishes
            exact ⟨shaped, rfl, reads_of_consumed consumes⟩
        | cons first others => contradiction
  · intro both
    obtain ⟨shaped, classifies, reads⟩ := both
    rw [classifies]
    dsimp only
    rw [consumed_of_reads reads]
    rfl

theorem of_name_eq_none {name : Text} (attaches : '=' ∈ name) : Flag.ofName? name = none := by
  have plain : ∀ entry ∈ Flag.named, '=' ∉ entry.1 := by decide
  apply List.lookup_eq_none_iff.2
  intro entry member
  rw [bne_iff_ne]
  intro same
  exact plain entry member (same ▸ attaches)

def attached (name value : Text) : Text :=
  marker ++ (name ++ '=' :: value)

section Attached

variable {name : Text} {flag : Flag} (plain : '=' ∉ name)
  (named : Flag.ofName? (marker ++ name) = some flag) (value : Text)

include plain named

theorem exact_shape_attached :
    exactShape? (attached name value) = some (.option flag false (some value)) := by
  have solid : ∀ c ∈ marker ++ name, (c != '=') = true := by
    intro c member
    rw [bne_iff_ne]
    rintro rfl
    exact (List.mem_append.1 member).elim (by decide) plain
  have split : attached name value = (marker ++ name) ++ '=' :: value :=
    (List.append_assoc _ _ _).symm
  have before : beforeEquals (attached name value) = marker ++ name := by
    rw [beforeEquals, split, List.takeWhile_append_of_pos solid]
    simp
  have after : afterEquals? (attached name value) = some value := by
    rw [afterEquals?, split, List.dropWhile_append_of_pos solid]
    simp
  have unnamed : Flag.ofName? (attached name value) = none := by
    apply of_name_eq_none
    simp [split]
  rw [exactShape?, unnamed, after, before]
  dsimp only
  rw [named]
  rfl

theorem shape_of_attached :
    shapeOf (attached name value) = .ok (.option flag false (some value)) := by
  have exact := exact_shape_attached plain named value
  change exactShape? ('-' :: '-' :: (name ++ '=' :: value)) = _ at exact
  change shapeOf ('-' :: '-' :: (name ++ '=' :: value)) = _
  unfold shapeOf
  rw [exact]
  rfl

/-- An option with its value can be added behind any command line that can be read. -/
theorem of_arguments_attached {arguments : List Text} {options changed : Options}
    (takes : flag.takesValue = true) (read : ofArguments arguments = .ok options)
    (changes : options.chained { last := flag, value := some value } = .ok changed) :
    ofArguments (arguments ++ [attached name value]) = .ok changed := by
  obtain ⟨shaped, classifies, reads⟩ := of_arguments_eq_ok.1 read
  have unmarked : marker ∉ arguments := by
    intro marked
    have unknown := mem_classified_of_marker marked classifies
    exact absurd (reads.mem_of_unknown unknown) List.not_mem_nil
  have apart : attached name value ≠ marker := by
    simp [attached]
  have whole := classified_concat unmarked classifies apart (shape_of_attached plain named value)
  have parts : Chain.ofShape flag false (some value) =
      .ok { last := flag, value := some value } := by
    rw [Chain.ofShape, Chain.ofAttached.eq_def, if_pos takes]
  have last : Reads options [(attached name value, .option flag false (some value))] changed [] :=
    .alone parts rfl changes (.done _)
  exact of_arguments_eq_ok.2 ⟨_, whole, reads.append last⟩

end Attached

def asking (expression : Text) : Text :=
  attached "eval".toList expression

/-- The expression behind its option, as far as there is one: the marker is none. -/
def presented (expression : Text) : Presence Text :=
  if expression = marker then .bare else .valued expression

theorem chained_expression (options : Options) (expression : Text) :
    options.chained { last := .expression, value := some expression } =
      .ok { options with expression := presented expression } := by
  unfold presented
  change (if expression = marker then _ else _) = _
  by_cases bare : expression = marker
  · rw [if_pos bare, if_pos bare]
    rfl
  · rw [if_neg bare, if_neg bare]
    rfl

/-- An expression can be asked for behind any command line that can be read. -/
theorem of_arguments_asking {arguments : List Text} {options : Options}
    (read : ofArguments arguments = .ok options) (expression : Text) :
    ofArguments (arguments ++ [asking expression]) =
      .ok { options with expression := presented expression } := by
  have named : Flag.ofName? (marker ++ "eval".toList) = some .expression := by decide
  exact of_arguments_attached (by decide) named expression rfl read
    (chained_expression options expression)

def notingAt (level : Text) : Text :=
  attached "log-level".toList level

/-- A level can be asked for behind any command line that can be read. -/
theorem of_arguments_noting_at {arguments : List Text} {options : Options} {level : Text}
    (read : ofArguments arguments = .ok options) (known : level ∈ journalLevelNames) :
    ofArguments (arguments ++ [notingAt level]) =
      .ok { options with journalLevel := some level } := by
  have named : Flag.ofName? (marker ++ "log-level".toList) = some .journalLevel := by decide
  apply of_arguments_attached (by decide) named level rfl read
  have unmarked : level ≠ marker := by
    intro same
    exact absurd (same ▸ known) (by decide)
  change (if level = marker then _ else _) = _
  rw [if_neg unmarked, valued, if_pos (by simpa using known)]

def IsLevelListed (options : Options) : Prop :=
  ∀ level, options.journalLevel = some level → level ∈ journalLevelNames

section Level

variable {options changed : Options} (listed : options.IsLevelListed)

include listed

theorem IsLevelListed.switched {flag : Flag} (changes : options.switched flag = .ok changed) :
    changed.IsLevelListed := by
  cases flag <;> cases changes
  exact listed

theorem IsLevelListed.bared {flag : Flag} (changes : options.bared flag = .ok changed) :
    changed.IsLevelListed := by
  cases flag <;> cases changes
  case journalLevel => nofun
  all_goals exact listed

theorem IsLevelListed.valued {flag : Flag} {value : Text}
    (changes : options.valued flag value = .ok changed) : changed.IsLevelListed := by
  cases flag <;> simp only [Options.valued] at changes
  case journalLevel =>
    split at changes
    · rename_i known
      cases changes
      intro level same
      cases same
      simpa using known
    · contradiction
  case format =>
    split at changes
    · cases changes
      exact listed
    · contradiction
  case places =>
    split at changes
    · cases changes
      exact listed
    · contradiction
  case help | version => contradiction
  case expression | line | journalFile =>
    cases changes
    exact listed

theorem IsLevelListed.chained {chain : Chain} (changes : options.chained chain = .ok changed) :
    changed.IsLevelListed := by
  obtain ⟨reached, before, last⟩ := exists_of_bind_eq_ok changes
  have kept : reached.IsLevelListed := by
    clear changes last
    generalize chain.before = flags at before
    induction flags generalizing options with
    | nil =>
        cases before
        exact listed
    | cons flag rest ih =>
        rw [List.foldlM_cons] at before
        obtain ⟨next, first, others⟩ := exists_of_bind_eq_ok before
        exact ih (listed.switched first) others
  split at last
  · split at last
    · exact kept.bared last
    · exact kept.valued last
  · exact kept.switched last

end Level

theorem Reads.is_level_listed {options reached : Options} {shaped : List (Text × Shape)}
    {extra : List Text} (reads : Reads options shaped reached extra)
    (listed : options.IsLevelListed) : reached.IsLevelListed := by
  induction reads with
  | done => exact listed
  | withNext _ _ changes _ ih => exact ih (listed.chained changes)
  | alone _ _ changes _ ih => exact ih (listed.chained changes)
  | left _ _ ih => exact ih listed

theorem is_level_listed_of_read {arguments : List Text} {options : Options}
    (read : ofArguments arguments = .ok options) : options.IsLevelListed := by
  obtain ⟨shaped, _, reads⟩ := of_arguments_eq_ok.1 read
  exact reads.is_level_listed nofun

end Options

end Reckoner.CommandLine
