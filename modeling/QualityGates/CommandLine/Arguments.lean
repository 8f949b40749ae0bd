import QualityGates.Number.Digits
import QualityGates.Number.ReadFloat

/-!
# Command-line arguments

A command takes options by their long names, some of them with a value, and perhaps one or more
plain arguments. Arguments are read from left to right, and the first thing that decides the outcome
does: a mistake, a request for help, or a request for the version.
-/

namespace QualityGates.CommandLine

/-- What an option takes. -/
inductive OptionKind where
  | flag
  | text
  | float
  | count
  deriving DecidableEq, Repr, Inhabited

/-- Whether a text is a value for an option. -/
def OptionKind.accepts (kind : OptionKind) (value : String) : Bool :=
  match kind with
  | flag => false
  | text => true
  | float => (Number.readFloat value.toList).isSome
  | count => (Number.readPlusWord value.toList).isSome

/-- The arguments that a command takes. -/
structure Grammar where
  options : List (String × OptionKind)
  /-- How many plain arguments there may be. -/
  plain : Nat := 0
  /-- The names of subcommands. -/
  subcommands : List String := []
  /-- Whether the version can be asked for. -/
  versioned : Bool := false
  deriving Inhabited

/-- The arguments that were given. -/
structure Matches where
  values : List (String × String) := []
  flags : List String := []
  plain : List String := []
  deriving DecidableEq, Repr, Inhabited

namespace Matches

/-- The value of an option. -/
def value? (m : Matches) (name : String) : Option String :=
  m.values.lookup name

/-- Whether a flag was given. -/
def flag (m : Matches) (name : String) : Bool :=
  m.flags.contains name

end Matches

/-- What reading arguments comes to. -/
inductive Reading where
  | usageError
  | help
  | version
  | subcommand (name : String) (rest : List String)
  | finished (m : Matches)
  deriving Inhabited

/-- The form of an argument. -/
inductive Argument where
  /-- Two dashes, after which every argument is plain. -/
  | separator
  | long (name : String) (value : Option String)
  | short (letter : Char)
  | plain
  deriving DecidableEq, Repr, Inhabited

/-- The form of an argument. -/
def Argument.ofText (s : String) : Argument :=
  match s.toList with
  | ['-', '-'] => .separator
  | '-' :: '-' :: rest =>
    let name := String.ofList (rest.takeWhile (fun c => c != '='))
    match rest.dropWhile (fun c => c != '=') with
    | _ :: value => .long name (some (String.ofList value))
    | [] => .long name none
  | '-' :: letter :: _ => .short letter
  | _ => .plain

namespace Grammar

/-- Takes a value for an option; none if the value is refused or the option repeated. -/
def takeValue (kind : OptionKind) (m : Matches) (name value : String) : Option Matches :=
  if kind.accepts value && (m.value? name).isNone then
    some { m with values := m.values ++ [(name, value)] }
  else none

/-- Reads arguments. -/
def read (g : Grammar) (m : Matches) : List String → Reading
  | [] => .finished m
  | arg :: rest =>
    match Argument.ofText arg with
    | .separator =>
      if m.plain.length + rest.length ≤ g.plain then .finished { m with plain := m.plain ++ rest }
      else .usageError
    | .short letter =>
      if letter = 'h' then .help
      else if letter = 'V' ∧ g.versioned then .version
      else .usageError
    | .plain =>
      if g.subcommands.contains arg then .subcommand arg rest
      else if m.plain.length < g.plain then read g { m with plain := m.plain ++ [arg] } rest
      else .usageError
    | .long name attached =>
      match g.options.lookup name, attached, rest with
      | none, none, _ =>
        if name = "help" then .help
        else if name = "version" ∧ g.versioned then .version
        else .usageError
      | none, some _, _ => .usageError
      | some .flag, some _, _ => .usageError
      | some .flag, none, rest =>
        if m.flag name then .usageError else read g { m with flags := m.flags ++ [name] } rest
      | some kind, some value, rest =>
        match takeValue kind m name value with
        | some m => read g m rest
        | none => .usageError
      | some _, none, [] => .usageError
      | some kind, none, value :: rest =>
        if Argument.ofText value = .plain then
          match takeValue kind m name value with
          | some m => read g m rest
          | none => .usageError
        else .usageError
termination_by args => args.length

end Grammar
end QualityGates.CommandLine
