import Reckoner.Proofs.CommandLine.Reading
import Reckoner.Proofs.Session.History

/-!
# The number of places over a session

A command line sets the number of places for good. It does so only after the journal is set up, so
the number is lost with a command line whose level is refused or whose file is not opened. Beyond
the number of places nothing of the past shows in a reply.
-/

namespace Reckoner

set_option autoImplicit false

def Journal.IsLevel (name : Text) : Prop :=
  ∃ level, Journal.levelOfName name = .ok level

theorem Journal.is_level_of_listed {name : Text}
    (listed : name ∈ CommandLine.Options.journalLevelNames) : Journal.IsLevel name := by
  have all : ∀ name ∈ CommandLine.Options.journalLevelNames,
      (Journal.levelOfName name).toOption.isSome = true := by decide +kernel
  unfold Journal.IsLevel
  cases known : Journal.levelOfName name with
  | ok level => exact ⟨level, rfl⟩
  | error fault =>
      have accepted := all name listed
      rw [known] at accepted
      contradiction

def Request.Opens (request : Request) : Prop :=
  ∀ name opened, request.journalAsked? = some (name, opened) → ∃ file, opened = .ok file

namespace Session

/-- The journal can be set up as options ask, on a disk. -/
structure CanSetUp (settings : Settings) (options : CommandLine.Options) (disk : Journal.Disk) :
    Prop where
  level : Journal.IsLevel (levelName settings options.journalLevel)
  file : ∀ path, pathName options.journalFile = some path → ∃ file, disk.opened path = .ok file

section SetUp

variable {settings : Settings} {options : CommandLine.Options} {disk : Journal.Disk}

theorem opened_if_any_iff {path : Option Text} :
    (∃ file, disk.openedIfAny path = .ok file) ↔
      ∀ named, path = some named → ∃ file, disk.opened named = .ok file := by
  cases path with
  | none => exact iff_of_true ⟨none, rfl⟩ nofun
  | some named =>
      constructor
      · intro opens other same
        cases same
        obtain ⟨_, opens⟩ := opens
        obtain ⟨file, found, _⟩ := exists_of_map_eq_ok opens
        exact ⟨file, found⟩
      · intro opens
        obtain ⟨file, found⟩ := opens named rfl
        rw [Journal.Disk.openedIfAny, found]
        exact ⟨some file, rfl⟩

theorem CanSetUp.exists_opened (can : CanSetUp settings options disk) :
    ∃ level file, Journal.levelOfName (levelName settings options.journalLevel) = .ok level ∧
      disk.openedIfAny (pathName options.journalFile) = .ok file := by
  obtain ⟨level, known⟩ := can.level
  obtain ⟨file, opens⟩ := opened_if_any_iff.2 can.file
  exact ⟨level, file, known, opens⟩

/-- A command line that can be read sets the journal up exactly if that can be done. -/
theorem set_up_iff_of_read {arguments : List Text}
    (read : CommandLine.Options.ofArguments arguments = .ok options) (input : Text) :
    (∃ setUp, Request.setUp? settings (.commandLine arguments input disk) = some setUp) ↔
      CanSetUp settings options disk := by
  constructor
  · intro sets
    obtain ⟨⟨level, file⟩, set⟩ := sets
    have attempted := Request.attempt_of_set_up set
    rw [Request.attempt_of_read read] at attempted
    obtain ⟨number, known, same⟩ := Option.map_eq_some_iff.1 attempted
    have opens := congrArg Journal.Attempt.opened same
    constructor
    · cases level : Journal.levelOfName (levelName settings options.journalLevel) with
      | ok found => exact ⟨found, level⟩
      | error fault =>
          rw [level] at known
          contradiction
    · exact opened_if_any_iff.1 ⟨file, opens⟩
  · intro can
    obtain ⟨level, file, known, opens⟩ := can.exists_opened
    refine ⟨(level, file), Request.set_up_of_opened ?_⟩
    rw [Request.attempt_of_read read, known, opens]
    rfl

end SetUp

section Level

variable {settings : Settings} {request : Request}

theorem is_level_name (own : Journal.IsLevel settings.journalLevel)
    {options : CommandLine.Options} (listed : options.IsLevelListed) :
    Journal.IsLevel (levelName settings options.journalLevel) := by
  cases asked : options.journalLevel with
  | none => exact own
  | some name =>
      cases name with
      | nil => exact own
      | cons c rest => exact Journal.is_level_of_listed (listed _ asked)

theorem exists_set_up_of_is_level (own : Journal.IsLevel settings.journalLevel)
    (opens : request.Opens) {options : CommandLine.Options}
    (asked : request.options? = some options) :
    ∃ setUp, request.setUp? settings = some setUp := by
  cases request with
  | commandLine arguments input disk =>
      cases read : CommandLine.Options.ofArguments arguments with
      | error ending =>
          rw [Request.options?, read] at asked
          contradiction
      | ok options =>
          have listed := CommandLine.Options.is_level_listed_of_read read
          rw [set_up_iff_of_read read]
          constructor
          · exact is_level_name own listed
          · apply opened_if_any_iff.1
            apply opens options.journalLevel
            rw [Request.journalAsked?, read]
            rfl
  | _ => contradiction

/-- Where the level of the session can be set up and files are opened, no number of places is lost.
-/
theorem set_places_of_is_level (own : Journal.IsLevel settings.journalLevel)
    (opens : request.Opens) : request.setPlaces? settings = request.places? := by
  unfold Request.setPlaces? Request.places?
  cases asked : request.options? with
  | none => exact Option.bind_fun_none _
  | some options =>
      obtain ⟨setUp, set⟩ := exists_set_up_of_is_level own opens asked
      rw [set]
      rfl

/-- Where the level of the session is refused, a command line that leaves the level to the session
sets nothing. -/
theorem set_places_of_refused (refused : ¬Journal.IsLevel settings.journalLevel)
    {opened : Except Journal.Obstacle (Option Text)}
    (asked : request.journalAsked? = some (none, opened)) : request.setPlaces? settings = none := by
  have unattempted : request.attempt? settings = none := by
    rw [Request.attempt?, asked]
    cases known : Journal.levelOfName settings.journalLevel with
    | ok level => exact absurd ⟨level, known⟩ refused
    | error fault => simp [levelName, known, Except.toOption]
  rw [Request.setPlaces?, Request.set_up_of_no_attempt unattempted]
  rfl

end Level

section Places

variable (session : Session) (requests : List Request)

theorem places_after_concat (request : Request) :
    (session.after (requests ++ [request])).settings.places =
      (request.setPlaces? session.settings).getD (session.after requests).settings.places := by
  rw [settings_after, settings_after, last_found_concat]
  cases request.setPlaces? session.settings <;> rfl

/-- The places are always the last that were asked for exactly if each command line that asks for
some without setting the journal up asks for those that are in force. -/
theorem places_as_asked_iff_nothing_lost :
    (∀ front, front <+: requests → (session.after front).settings.places =
      (lastFound Request.places? front).getD session.settings.places) ↔
    ∀ front request places, front ++ [request] <+: requests →
      request.places? = some places → request.setUp? session.settings = none →
      (session.after front).settings.places = places := by
  constructor
  · intro asAsked front request places begins asked unset
    have reached := asAsked _ begins
    have lost : request.setPlaces? session.settings = none := by
      rw [Request.setPlaces?, unset]
      rfl
    rw [places_after_concat, lost, last_found_concat, asked] at reached
    exact reached
  · intro nothingLost front
    induction front using List.reverseRecOn with
    | nil =>
        intro _
        rfl
    | append_singleton front request ih =>
        intro begins
        have before := ih ((List.prefix_append front [request]).trans begins)
        rw [places_after_concat, last_found_concat, Request.setPlaces?]
        cases asked : request.places? with
        | none =>
            rw [Option.bind_fun_none]
            exact before
        | some places =>
            cases set : request.setUp? session.settings with
            | some setUp => rfl
            | none => exact nothingLost front request places begins asked set

def placing (numeral : Text) : Request :=
  .commandLine ["-d".toList, numeral] [] .plain

theorem placing_opens {numeral : Text}
    (asked : (placing numeral).journalAsked? = some (none, .ok none)) :
    (placing numeral).Opens := by
  intro name opened found
  rw [asked] at found
  cases found
  exact ⟨none, rfl⟩

theorem places_after_lost {request : Request}
    (unset : request.setPlaces? session.settings = none) :
    (session.after [request]).settings.places = session.settings.places := by
  rw [settings_after, lastFound, List.filterMap_cons_none unset]
  rfl

/-- Where files are opened, the places are those that were asked for last, for all sessions at once,
exactly if the level of the session can be set up. -/
theorem places_as_asked_iff_is_level :
    (∀ requests, (∀ request ∈ requests, request.Opens) →
      (session.after requests).settings.places =
        (lastFound Request.places? requests).getD session.settings.places) ↔
    Journal.IsLevel session.settings.journalLevel := by
  constructor
  · intro asAsked
    by_contra refused
    -- Neither of two command lines sets anything, but the places cannot be what both asked for.
    have zeroAsks : (placing "0".toList).journalAsked? = some (none, .ok none) := by
      decide +kernel
    have oneAsks : (placing "1".toList).journalAsked? = some (none, .ok none) := by
      decide +kernel
    have zero := asAsked [placing "0".toList] (List.forall_mem_singleton.2 (placing_opens zeroAsks))
    have one := asAsked [placing "1".toList] (List.forall_mem_singleton.2 (placing_opens oneAsks))
    rw [places_after_lost session (set_places_of_refused refused zeroAsks)] at zero
    rw [places_after_lost session (set_places_of_refused refused oneAsks)] at one
    have zeroFound : (lastFound Request.places? [placing "0".toList]) = some 0 := by
      decide +kernel
    have oneFound : (lastFound Request.places? [placing "1".toList]) = some 1 := by
      decide +kernel
    rw [zeroFound] at zero
    rw [oneFound] at one
    have same : (0 : Int) = 1 := zero.symm.trans one
    exact absurd same (by decide)
  · intro own requests opens
    have nothingLost : ∀ request ∈ requests,
        request.setPlaces? session.settings = request.places? := by
      intro request member
      exact set_places_of_is_level own (opens request member)
    rw [settings_after, lastFound, List.filterMap_congr nothingLost]
    rfl

end Places

section Replies

variable (settings : Settings) (level : Text)

theorem host_run_of_level (host : Field.Host) (changes : List Field.Host.Change) :
    host.run { settings with journalLevel := level } changes = host.run settings changes := by
  induction changes generalizing host with
  | nil => rfl
  | cons change rest ih =>
      rw [Field.Host.run, Field.Host.run]
      simp only [ih]
      rfl

/-- The journal level does not show in a reply. -/
theorem reply_of_level (query : Query) :
    query.reply { settings with journalLevel := level } = query.reply settings := by
  cases query with
  | hostRun value changes =>
      rw [Query.reply, Query.reply, host_run_of_level]
  | _ => rfl

end Replies

/-- A command line with exit code 2 is one that is refused, and changes nothing. -/
theorem unchanged_of_refusal {session : Session} {arguments : List Text} {input : Text}
    {disk : Journal.Disk}
    (refused : (session.runCommandLine arguments input disk).2.ending = .ok 2) :
    (session.runCommandLine arguments input disk).1 = session := by
  cases read : CommandLine.Options.ofArguments arguments with
  | ok options => exact absurd refused (ending_ne_refusal_code read)
  | error ending =>
      rw [runCommandLine, read]
      cases ending <;> rfl

theorem same_replies {session other : Session} (query : Query)
    (sameLimit : other.settings.inputLimit = session.settings.inputLimit)
    (sameText : other.settings.failureText = session.settings.failureText)
    (samePlaces : other.settings.places = session.settings.places) :
    (other.step (.query query)).2.1 = (session.step (.query query)).2.1 := by
  have agree : other.settings =
      { session.settings with journalLevel := other.settings.journalLevel } := by
    simp only [← sameLimit, ← sameText, ← samePlaces]
  have replies := reply_of_level session.settings other.settings.journalLevel query
  rw [← agree] at replies
  rw [step, step]
  exact congrArg Response.reply replies

/-- Of all that was asked of a session only the last number of places that was set shows in its
replies. A command line that can be read sets its places exactly if the journal can be set up as it
asks. So the last that were set are the last that were asked for, unless a command line for which
that fails asks for other places than are in force; where all files are opened, that cannot happen
exactly if the level of the session can be set up. A command line with exit code 2 changes nothing
at all. -/
theorem only_places_outlast_requests (session : Session) :
    (∀ requests, (session.after requests).settings.places =
      (lastFound (Request.setPlaces? session.settings) requests).getD session.settings.places) ∧
    (∀ arguments input disk options, CommandLine.Options.ofArguments arguments = .ok options →
      ((∃ setUp, (Request.commandLine arguments input disk).setUp? session.settings = some setUp) ↔
        CanSetUp session.settings options disk)) ∧
    (∀ requests,
      (∀ front, front <+: requests → (session.after front).settings.places =
        (lastFound Request.places? front).getD session.settings.places) ↔
      ∀ front request places, front ++ [request] <+: requests →
        request.places? = some places → request.setUp? session.settings = none →
        (session.after front).settings.places = places) ∧
    ((∀ requests, (∀ request ∈ requests, request.Opens) →
      (session.after requests).settings.places =
        (lastFound Request.places? requests).getD session.settings.places) ↔
      Journal.IsLevel session.settings.journalLevel) ∧
    (∀ requests arguments input disk,
      ((session.after requests).runCommandLine arguments input disk).2.ending = .ok 2 →
      ((session.after requests).step (.commandLine arguments input disk)).1 =
        session.after requests) ∧
    ∀ (other : Session) requests others query,
      other.settings.inputLimit = session.settings.inputLimit →
      other.settings.failureText = session.settings.failureText →
      (other.after others).settings.places = (session.after requests).settings.places →
      ((other.after others).step (.query query)).2.1 =
        ((session.after requests).step (.query query)).2.1 := by
  refine ⟨?places, ?setUp, places_as_asked_iff_nothing_lost session,
    places_as_asked_iff_is_level session, ?refusal, ?replies⟩
  case places =>
    intro requests
    rw [settings_after]
  case setUp =>
    intro arguments input disk options read
    exact set_up_iff_of_read read input
  case refusal =>
    intro requests arguments input disk refused
    exact unchanged_of_refusal refused
  case replies =>
    intro other requests others query sameLimit sameText samePlaces
    apply same_replies query
    · simp only [settings_after, sameLimit]
    · simp only [settings_after, sameText]
    · exact samePlaces

/-- The variable for the level can be set so that a number of places is lost. -/
theorem not_places_as_asked_of_variables :
    ¬∀ (valueOf : Text → Option Text) (settings : Settings),
      Settings.ofVariables valueOf = .ok settings → ∀ requests,
        (after { settings } requests).settings.places =
          (lastFound Request.places? requests).getD settings.places := by
  intro claimed
  have set : Settings.ofVariables (fun name =>
      if name = Settings.journalLevelVariable then some "BASIC_FORMAT".toList else none) =
        .ok { journalLevel := "BASIC_FORMAT".toList } := by
    decide +kernel
  have asked := claimed _ _ set [.commandLine ["-d".toList, "3".toList, "-v".toList] [] .plain]
  revert asked
  decide +kernel

end Session

end Reckoner
