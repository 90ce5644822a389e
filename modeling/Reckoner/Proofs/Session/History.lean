import Mathlib.Data.List.Induction
import Reckoner.Proofs.Session.Step

/-!
# What a session keeps of its past

Of all that was asked of a session only the last number of places that was set and the last set-up
of the journal matter for what comes, besides the lines of the files.
-/

namespace Reckoner

set_option autoImplicit false

namespace Session

def after (session : Session) (requests : List Request) : Session :=
  requests.foldl (fun reached request => (reached.step request).1) session

/-- What is found for the last request that anything is found for. -/
def lastFound {Found : Type} (find : Request → Option Found) (requests : List Request) :
    Option Found :=
  (requests.filterMap find).getLast?

section After

variable (session : Session) (requests : List Request) (request : Request)

theorem after_concat :
    session.after (requests ++ [request]) = ((session.after requests).step request).1 := by
  rw [after, List.foldl_append]
  rfl

/-- A run takes each step from the session after the requests before it. -/
theorem run_concat :
    session.run (requests ++ [request]) =
      session.run requests ++ [(session.after requests).step request] := by
  induction requests generalizing session with
  | nil => rfl
  | cons first rest ih =>
      rw [List.cons_append, run, run, ih, List.cons_append]
      rfl

theorem last_found_concat {Found : Type} (find : Request → Option Found) :
    lastFound find (requests ++ [request]) = (find request).or (lastFound find requests) := by
  unfold lastFound
  rw [List.filterMap_append]
  cases found : find request with
  | none => simp [found]
  | some value => simp [found]

theorem last_found_eq_none_iff {Found : Type} {find : Request → Option Found} :
    lastFound find requests = none ↔ ∀ request ∈ requests, find request = none := by
  rw [lastFound, List.getLast?_eq_none_iff, List.filterMap_eq_nil_iff]

/-- Nothing but the number of places changes among the settings, and it is the last that was set. -/
theorem settings_after :
    (session.after requests).settings = { session.settings with
      places := (lastFound (Request.setPlaces? session.settings) requests).getD
        session.settings.places } := by
  induction requests using List.reverseRecOn with
  | nil => rfl
  | append_singleton front request ih =>
      have sameSets : request.setPlaces? (session.after front).settings =
          request.setPlaces? session.settings := by
        rw [ih]
        rfl
      rw [after_concat, (takes_step _ request).settings, Request.settingsAfter, sameSets, ih,
        last_found_concat]
      cases request.setPlaces? session.settings <;> rfl

theorem attempt_after :
    request.attempt? (session.after requests).settings = request.attempt? session.settings := by
  rw [settings_after]
  rfl

end After

def lastAttempt (settings : Settings) : List Request → Option Journal.Attempt :=
  lastFound (Request.attempt? settings)

def lastSetUp (settings : Settings) : List Request → Option (Int × Option Text) :=
  lastFound (Request.setUp? settings)

/-- The set-up that is in force: that of the last attempt, or none if that failed. -/
def setUpInForce (settings : Settings) (requests : List Request) : Option (Int × Option Text) :=
  (lastAttempt settings requests).bind Journal.Attempt.setUp?

/-- No set-up is lost: if the last attempt failed, none succeeded before. -/
def KeepsSetUp (settings : Settings) (requests : List Request) : Prop :=
  ∀ attempt ∈ lastAttempt settings requests, attempt.setUp? = none →
    lastSetUp settings requests = none

/-- The journal notes what the last attempt to set it up says. -/
structure NotesBy (journal : Journal) (attempt : Option Journal.Attempt) : Prop where
  level : ∀ made ∈ attempt, journal.level = made.level
  console : journal.console = (attempt.bind Journal.Attempt.setUp?).isSome
  file : journal.file = (attempt.bind Journal.Attempt.setUp?).bind Prod.snd

section InForce

variable (settings : Settings) (requests : List Request) (request : Request)

theorem set_up_in_force_concat :
    setUpInForce settings (requests ++ [request]) =
      (request.attempt? settings).elim (setUpInForce settings requests)
        Journal.Attempt.setUp? := by
  rw [setUpInForce, lastAttempt, last_found_concat]
  cases request.attempt? settings <;> rfl

theorem last_set_up_concat :
    lastSetUp settings (requests ++ [request]) =
      (request.setUp? settings).or (lastSetUp settings requests) :=
  last_found_concat requests request (Request.setUp? settings)

/-- A set-up that is in force is the last one. -/
theorem last_set_up_of_in_force {setUp : Int × Option Text}
    (inForce : setUpInForce settings requests = some setUp) :
    lastSetUp settings requests = some setUp := by
  induction requests using List.reverseRecOn with
  | nil => contradiction
  | append_singleton front request ih =>
      rw [set_up_in_force_concat] at inForce
      rw [last_set_up_concat, Request.setUp?]
      cases attempted : request.attempt? settings with
      | none =>
          rw [attempted] at inForce
          exact ih inForce
      | some attempt =>
          rw [attempted, Option.elim_some] at inForce
          rw [Option.bind_some, inForce, Option.some_or]

theorem in_force_eq_last_iff :
    setUpInForce settings requests = lastSetUp settings requests ↔
      KeepsSetUp settings requests := by
  constructor
  · intro same attempt last failed
    rw [← same, setUpInForce, last]
    exact failed
  · intro keeps
    cases inForce : setUpInForce settings requests with
    | some setUp => exact (last_set_up_of_in_force settings requests inForce).symm
    | none =>
        cases attempted : lastAttempt settings requests with
        | some attempt =>
            rw [setUpInForce, attempted] at inForce
            exact (keeps attempt attempted inForce).symm
        | none =>
            apply Eq.symm
            rw [lastSetUp, last_found_eq_none_iff]
            intro request member
            exact Request.set_up_of_no_attempt
              ((last_found_eq_none_iff requests).1 attempted request member)

end InForce

section Journal

variable {session : Session} (requests : List Request) (request : Request)

theorem notes_by_journal_for {attempt : Option Journal.Attempt}
    (notes : NotesBy session.journal attempt) :
    NotesBy (session.journalFor request) ((request.attempt? session.settings).or attempt) := by
  cases attempted : request.attempt? session.settings with
  | none =>
      rw [journal_for_no_attempt attempted]
      exact notes
  | some made =>
      obtain ⟨level, opened⟩ := made
      cases opened with
      | error obstacle =>
          rw [journal_for_unopened attempted]
          refine ⟨?_, rfl, rfl⟩
          intro found same
          cases same
          rfl
      | ok file =>
          rw [journal_for_opened attempted]
          refine ⟨?_, rfl, rfl⟩
          intro found same
          cases same
          rfl

theorem notes_by_step {attempt : Option Journal.Attempt}
    (notes : NotesBy session.journal attempt) :
    NotesBy (session.step request).1.journal
      ((request.attempt? session.settings).or attempt) := by
  have taken := takes_step session request
  have noting := notes_by_journal_for request notes
  constructor
  · intro made found
    rw [taken.level, noting.level made found]
  · rw [taken.console, noting.console]
  · rw [taken.file, noting.file]

/-- After any requests the journal is as the last attempt to set it up left it. -/
theorem notes_by_after (fresh : NotesBy session.journal none) :
    NotesBy (session.after requests).journal (lastAttempt session.settings requests) := by
  induction requests using List.reverseRecOn with
  | nil => exact fresh
  | append_singleton front request ih =>
      have noting := notes_by_step request ih
      rw [attempt_after] at noting
      rw [after_concat, lastAttempt, last_found_concat]
      exact noting

end Journal

end Session

end Reckoner
