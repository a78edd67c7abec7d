import CallAtlas.Text.Cut

/-!
# Options of a command line

An option has a long name after two dashes and may have a letter after one. Letters may stand together
after one dash. A value follows a long name after an equals sign, a letter at once, or either as the
next argument, whatever that looks like. Two dashes alone end the options; one dash alone is an
argument.

- `scan`: the options of a command line and its arguments.
-/

namespace CallAtlas.Cli

/-- An option. -/
structure OptionSpec where
  long : String
  short : Option Char := none
  takesValue : Bool := false
  deriving DecidableEq, Repr

/-- Why a command line is refused. -/
inductive UsageError where
  | noSuchOption (name : String)
  | needsValue (name : String)
  | takesNoValue (name : String)
  | notAnInteger (text : String)
  | nullCharacter (text : String)
  | missingArgument
  | extraArgument (text : String)
  | missingCommand
  | noSuchCommand (name : String)
  deriving DecidableEq, Repr

/-- The error in words. -/
def UsageError.message : UsageError → String
  | .noSuchOption name => "No such option: " ++ name
  | .needsValue name => "Option '" ++ name ++ "' requires an argument."
  | .takesNoValue name => "Option '" ++ name ++ "' does not take a value."
  | .notAnInteger text => "'" ++ text ++ "' is not a valid integer."
  | .nullCharacter text => "'" ++ text ++ "' has a null character."
  | .missingArgument => "Missing argument."
  | .extraArgument text => "Got unexpected extra argument (" ++ text ++ ")"
  | .missingCommand => "Missing command."
  | .noSuchCommand name => "No such command '" ++ name ++ "'."

/-- An option as it was given, by its long name. -/
structure Given where
  long : String
  value : Option String := none
  deriving DecidableEq, Repr

/-- What one argument says: the options whose values are known, and perhaps one whose value is the
next argument. -/
structure Reading where
  given : List Given := []
  awaiting : Option String := none
  deriving DecidableEq, Repr

/-- A command line, read. -/
structure Scanned where
  given : List Given := []
  arguments : List String := []
  deriving DecidableEq, Repr

/-- The letters after one dash. -/
def readLetters (specs : List OptionSpec) : List Char → Except UsageError Reading
  | [] => .ok {}
  | c :: rest =>
    match specs.find? fun o => o.short == some c with
    | none => .error (.noSuchOption (String.ofList ['-', c]))
    | some o =>
      if o.takesValue then
        if rest = [] then .ok { awaiting := some o.long }
        else .ok { given := [⟨o.long, some (String.ofList rest)⟩] }
      else (readLetters specs rest).map fun r => { r with given := ⟨o.long, none⟩ :: r.given }

/-- An option by its long name, with the value after the equals sign if there is one. -/
def readLong (o : OptionSpec) (value : Option String) : Except UsageError Reading :=
  match o.takesValue, value with
  | true, some v => .ok { given := [⟨o.long, some v⟩] }
  | true, none => .ok { awaiting := some o.long }
  | false, some _ => .error (.takesNoValue o.long)
  | false, none => .ok { given := [⟨o.long, none⟩] }

/-- An argument that starts with a dash and has more. -/
def readOption (specs : List OptionSpec) (arg : List Char) : Except UsageError Reading :=
  let (name, value) :=
    match Text.cutFirst '=' arg with
    | some (name, value) => (name, some (String.ofList value))
    | none => (arg, none)
  match specs.find? fun o => o.long.toList == name with
  | some o => readLong o value
  | none =>
    match arg with
    | '-' :: '-' :: _ => .error (.noSuchOption (String.ofList name))
    | _ => readLetters specs (arg.drop 1)

/-- Whether an argument is to be read as options. -/
def looksLikeOption : List Char → Bool
  | '-' :: _ :: _ => true
  | _ => false

/-- Puts options in front of those already read. -/
def Scanned.withGiven (given : List Given) (s : Scanned) : Scanned :=
  { s with given := given ++ s.given }

/-- Reads a command line. If options may not stand after arguments, the first argument ends them. -/
def scan (specs : List OptionSpec) (mixed : Bool) : List String → Except UsageError Scanned
  | [] => .ok {}
  | arg :: rest =>
    if arg = "--" then .ok { arguments := rest }
    else if looksLikeOption arg.toList then
      match readOption specs arg.toList with
      | .error e => .error e
      | .ok ⟨given, none⟩ => (scan specs mixed rest).map (·.withGiven given)
      | .ok ⟨given, some long⟩ =>
        match rest with
        | [] => .error (.needsValue long)
        | value :: rest =>
          (scan specs mixed rest).map (·.withGiven (given ++ [⟨long, some value⟩]))
    else if mixed then
      (scan specs mixed rest).map fun s => { s with arguments := arg :: s.arguments }
    else .ok { arguments := arg :: rest }

/-- Whether the option was given. -/
def Scanned.has (s : Scanned) (long : String) : Bool :=
  s.given.any fun o => o.long == long

/-- The value last given for the option. -/
def Scanned.value? (s : Scanned) (long : String) : Option String :=
  (s.given.reverse.find? fun o => o.long == long).bind (·.value)

end CallAtlas.Cli
