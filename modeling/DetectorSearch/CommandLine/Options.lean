import DetectorSearch.Keyed
/-! # Options among arguments

The arguments of a command are options and words, told apart as typer documents it for commands
that are run by POSIX conventions with long options. An option begins with a dash. One that needs a
value has it behind an equals sign, or else takes the next argument, whatever that is. Two dashes
alone end the options; a single dash is a word.
-/

namespace DetectorSearch.CommandLine

/-- Why a command ends before it begins. -/
inductive Halt where
  /-- Help was asked for. -/
  | help
  /-- The arguments cannot be understood. -/
  | misused
  deriving DecidableEq, Repr

/-- Whether an option needs a value. -/
inductive OptionKind where
  | valued
  | alone
  deriving DecidableEq, Repr

/-- The options that a command was given, in order, and the words. An option that stands alone has an
empty value. -/
structure Given where
  options : List (String × String)
  words : List String
  deriving Repr

namespace Given

/-- The options and words with an option in front. -/
def withOption (name value : String) (given : Given) : Given :=
  { given with options := (name, value) :: given.options }

/-- The options and words with a word in front. -/
def withWord (word : String) (given : Given) : Given :=
  { given with words := word :: given.words }

/-- The last given option among some, with its value. -/
def last? (names : List String) (given : Given) : Option (String × String) :=
  (given.options.filter fun option => names.contains option.1).getLast?

/-- The value of an option; the last one counts. -/
def value? (name : String) (given : Given) : Option String :=
  (given.last? [name]).map (·.2)

end Given

/-- Whether an argument is an option, and not a word. -/
def isOption (argument : String) : Bool :=
  match argument.toList with
  | '-' :: _ :: _ => true
  | _ => false

/-- The name of an option, and the value behind its equals sign. -/
def splitOption (argument : String) : String × Option String :=
  let chars := argument.toList
  match chars.dropWhile (· != '=') with
  | [] => (argument, none)
  | _ :: value => (String.ofList (chars.takeWhile (· != '=')), some (String.ofList value))

/-- Tells options and words apart. `stopsAtWord` says that the first word ends the options. -/
def scan (known : Keyed OptionKind) (stopsAtWord : Bool) : List String → Except Halt Given
  | [] => .ok ⟨[], []⟩
  | argument :: rest =>
      if argument = "--" then .ok ⟨[], rest⟩
      else if !isOption argument then
        if stopsAtWord then .ok ⟨[], argument :: rest⟩
        else (scan known stopsAtWord rest).map (·.withWord argument)
      else
        let (name, attached) := splitOption argument
        match Keyed.find? name known, attached with
        | some .valued, some value =>
            (scan known stopsAtWord rest).map (·.withOption name value)
        | some .valued, none =>
            match rest with
            | [] => .error .misused
            | value :: rest => (scan known stopsAtWord rest).map (·.withOption name value)
        | some .alone, none => (scan known stopsAtWord rest).map (·.withOption name "")
        | _, _ => .error .misused

/-- The option that asks for help. -/
def helpOption : String := "--help"

/-- Reads the options and words of a command, which may be asked for help. -/
def Given.read (known : Keyed OptionKind) (stopsAtWord : Bool) (arguments : List String) :
    Except Halt Given :=
  match scan (Keyed.put helpOption .alone known) stopsAtWord arguments with
  | .error halt => .error halt
  | .ok given => if (given.value? helpOption).isSome then .error .help else .ok given

end DetectorSearch.CommandLine
