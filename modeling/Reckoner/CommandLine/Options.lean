import Reckoner.CommandLine.Argument
import Reckoner.Text.Integer

/-!
# Options

The options of a command line are taken in order, each with the value attached to it or the argument
behind it; a later one replaces an earlier one. An option that the marker is attached to is given
without a value, as the standard parser did before its release 3.11.10; since then the marker is its
value. The first problem ends the reading, and arguments that nobody takes are a problem at the end.
-/

namespace Reckoner.CommandLine

set_option autoImplicit false

/-- Why there are no options to go by: help is asked for, or the command line is refused. -/
inductive Ending
  | help
  | problem (problem : Problem)
deriving DecidableEq, Repr

inductive Format
  | human
  | json
deriving DecidableEq, Repr

/-- Whether an option is given, and its value if it has one. -/
inductive Presence (α : Type)
  | absent
  | bare
  | valued (value : α)
deriving DecidableEq, Repr

/-- What the command line asks for. The format and the journal have a setting for when they are not
asked for; an option of theirs without a value brings it back. -/
structure Options where
  expression : Presence Text := .absent
  line : Presence Text := .absent
  format : Format := .human
  places : Presence Int := .absent
  version : Bool := false
  journalLevel : Option Text := none
  journalFile : Option Text := none
deriving DecidableEq, Repr

namespace Options

def asksForDialogue (options : Options) : Bool :=
  !options.version && options.line = .absent && options.expression = .absent

def formatNames : List Text := ["json".toList, "human".toList]

def journalLevelNames : List Text :=
  ["DEBUG".toList, "INFO".toList, "WARNING".toList, "ERROR".toList]

def switched (options : Options) : Flag → Except Ending Options
  | .help => .error .help
  | .version => .ok { options with version := true }
  | flag => .error (.problem (.withoutValue flag))

def valued (options : Options) (flag : Flag) (value : Text) : Except Ending Options :=
  match flag with
  | .expression => .ok { options with expression := .valued value }
  | .line => .ok { options with line := .valued value }
  | .format =>
      if formatNames.contains value then
        .ok { options with format := if value = "json".toList then .json else .human }
      else .error (.problem (.notAChoice flag value formatNames))
  | .places =>
      match Text.readInteger value with
      | .integer places => .ok { options with places := .valued places }
      | _ => .error (.problem (.notAnInteger flag value))
  | .journalLevel =>
      if journalLevelNames.contains value then .ok { options with journalLevel := some value }
      else .error (.problem (.notAChoice flag value journalLevelNames))
  | .journalFile => .ok { options with journalFile := some value }
  | .help | .version => .error (.problem (.uselessValue flag value))

/-- The options after one more that is given without the value it should have. -/
def bared (options : Options) (flag : Flag) : Except Ending Options :=
  match flag with
  | .expression => .ok { options with expression := .bare }
  | .line => .ok { options with line := .bare }
  | .format => .ok { options with format := .human }
  | .places => .ok { options with places := .bare }
  | .journalLevel => .ok { options with journalLevel := none }
  | .journalFile => .ok { options with journalFile := none }
  | .help | .version => .error (.problem (.uselessValue flag marker))

def chained (options : Options) (chain : Chain) : Except Ending Options := do
  let reached ← chain.before.foldlM switched options
  match chain.value with
  | some value =>
      if value = marker then reached.bared chain.last else reached.valued chain.last value
  | none => reached.switched chain.last

/-- The options of the classified arguments, and the arguments that nobody takes. -/
def consumed (options : Options) : List (Text × Shape) → Except Ending (Options × List Text)
  | [] => .ok (options, [])
  | (_, .option flag short attached) :: rest =>
      match Chain.ofShape flag short attached with
      | .error problem => .error (.problem problem)
      | .ok chain =>
          if chain.needsValue then
            match rest with
            | (next, .value) :: others => do
                consumed (← options.chained { chain with value := some next }) others
            | _ => .error (.problem (.withoutValue chain.last))
          else do
            consumed (← options.chained chain) rest
  | (argument, _) :: rest =>
      (consumed options rest).map fun (reached, extra) => (reached, argument :: extra)

def ofArguments (arguments : List Text) : Except Ending Options :=
  match classified arguments with
  | .error problem => .error (.problem problem)
  | .ok shaped => do
      let (options, extra) ← consumed {} shaped
      if extra.isEmpty then return options
      else throw (.problem (.unknownArguments extra))

end Options

end Reckoner.CommandLine
