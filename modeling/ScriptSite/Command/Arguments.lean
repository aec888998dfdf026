import ScriptSite.Text.Quoted
import ScriptSite.Text.Word

/-!
# Arguments

The arguments of the program are options. The value of an option is the next argument, or follows an
equals sign; a long name may be cut short as long as one name begins so. Arguments are first told
apart one by one, and then used from left to right.
-/

namespace ScriptSite

/-- The options of the program. -/
inductive ProgramOption
  | help
  | root
  | config
  | group
  deriving DecidableEq, Repr

/-- What the arguments ask for. -/
structure Arguments where
  root : Text := ['.']
  config : Option Text := none
  groups : List Text := []
  deriving DecidableEq, Repr

/-- What is wrong with arguments. -/
inductive ArgumentFault
  /-- Several names begin with the name of an option. -/
  | ambiguous (argument : Text) (names : List Text)
  | expectedValue (which : ProgramOption)
  /-- An option that takes no value has one. -/
  | unexpectedValue (which : ProgramOption) (value : Text)
  | unrecognized (arguments : List Text)
  deriving DecidableEq, Repr

/-- What the program is to do. -/
inductive Request
  | build (arguments : Arguments)
  | help
  deriving DecidableEq, Repr

namespace ProgramOption

/-- The short name of the only option that has one. -/
def shortName : Text :=
  ['-', 'h']

def longName : ProgramOption → Text
  | .help => "--help".toList
  | .root => "--root".toList
  | .config => "--config".toList
  | .group => "--group".toList

/-- The options in the order in which they are listed. -/
def all : List ProgramOption :=
  [.help, .root, .config, .group]

/-- An option as it is named in messages. -/
def shown : ProgramOption → Text
  | .help => "-h/--help".toList
  | option => option.longName

def named? (name : Text) : Option ProgramOption :=
  if name = shortName then some .help else all.find? (·.longName == name)

end ProgramOption

/-- The words for what is wrong. -/
def ArgumentFault.message : ArgumentFault → Text
  | .ambiguous argument names =>
    "ambiguous option: ".toList ++ argument ++ " could match ".toList ++
      Text.joinWith [',', ' '] names
  | .expectedValue which =>
    "argument ".toList ++ which.shown ++ ": expected one argument".toList
  | .unexpectedValue which value =>
    "argument ".toList ++ which.shown ++ ": ignored explicit argument ".toList ++ Text.quoted value
  | .unrecognized arguments =>
    "unrecognized arguments: ".toList ++ Text.joinWith [' '] arguments

namespace Arguments

/-- What an argument is. -/
inductive Word
  | plain
  /-- Two dashes, behind which there are no options. -/
  | separator
  /-- The name of an option, whether it is the short one, and the value in the same argument. -/
  | option (which : ProgramOption) (short : Bool) (value : Option Text)
  | unknownOption
  deriving DecidableEq, Repr

/-- A text up to the first equals sign, and what is behind it. -/
def splitEquals (text : Text) : Text × Option Text :=
  match Text.splitFirst? ['='] text with
  | some (name, value) => (name, some value)
  | none => (text, none)

/-- Whether a text is a negative number in decimal digits. -/
def isNegativeNumber (text : Text) : Bool :=
  match text with
  | '-' :: number =>
    let number := if number.getLast? = some '\n' then number.dropLast else number
    let whole := number.takeWhile isDecimalDigit
    match number.drop whole.length with
    | [] => !whole.isEmpty
    | '.' :: fraction => !fraction.isEmpty && fraction.all isDecimalDigit
    | _ => false
  | _ => false

/-- The options whose long names an argument with two dashes may stand for, and the value in it. -/
def longMatches (argument : Text) : List ProgramOption × Option Text :=
  let (name, value) := splitEquals argument
  (ProgramOption.all.filter fun option => Text.startsWith name option.longName, value)

/-- What an argument is that begins with a dash and has no exact name of an option in it. -/
def inexact (argument : Text) : Except ArgumentFault Word :=
  let other : Word :=
    if isNegativeNumber argument || argument.contains ' ' then .plain else .unknownOption
  if Text.startsWith ['-', '-'] argument then
    match longMatches argument with
    | ([], _) => .ok other
    | ([option], value) => .ok (.option option false value)
    | (options, _) => .error (.ambiguous argument (options.map ProgramOption.longName))
  else
    match Text.dropPrefix? ProgramOption.shortName argument with
    | some value => .ok (.option .help true (some value))
    | none => .ok other

/-- What an argument is. -/
def wordOf (argument : Text) : Except ArgumentFault Word :=
  if argument.head? ≠ some '-' ∨ argument.length = 1 then .ok .plain
  else
    let (name, value) := splitEquals argument
    match ProgramOption.named? argument, ProgramOption.named? name with
    | some option, _ => .ok (.option option (argument == ProgramOption.shortName) none)
    | none, some option => .ok (.option option (name == ProgramOption.shortName) value)
    | none, none => inexact argument

def classify : List Text → Except ArgumentFault (List (Text × Word))
  | [] => .ok []
  | argument :: rest => do
    if argument = ['-', '-'] then
      return (argument, .separator) :: rest.map fun other => (other, .plain)
    else
      let word ← wordOf argument
      return (argument, word) :: (← classify rest)

def withValue (arguments : Arguments) (which : ProgramOption) (value : Text) : Arguments :=
  match which with
  | .help => arguments
  | .root => { arguments with root := value }
  | .config => { arguments with config := some value }
  | .group => { arguments with groups := arguments.groups ++ [value] }

/-- Whether the value in the argument that asks for help, if there is one, is the short name of the
option again, any number of times. -/
def checkHelp (short : Bool) : (value : Option Text) → Except ArgumentFault Unit
  | none => .ok ()
  | some value =>
    let rest := if short then value.dropWhile (· == 'h') else value
    if rest.isEmpty ∧ !value.isEmpty then .ok () else .error (.unexpectedValue .help rest)

/-- Uses arguments from left to right; `unused` holds those that mean nothing, in reverse order. -/
def use (arguments : Arguments) (unused : List Text) :
    List (Text × Word) → Except ArgumentFault Request
  | [] =>
    if unused.isEmpty then .ok (.build arguments) else .error (.unrecognized unused.reverse)
  | (_, .option .help short value) :: _ => do
    checkHelp short value
    return .help
  | (_, .option which _ (some value)) :: rest => use (arguments.withValue which value) unused rest
  | (_, .option which _ none) :: (value, .plain) :: rest =>
    use (arguments.withValue which value) unused rest
  | (_, .option which _ none) :: _ => .error (.expectedValue which)
  | (argument, _) :: rest => use arguments (argument :: unused) rest

/-- What arguments ask for. -/
def read (argv : List Text) : Except ArgumentFault Request := do
  use {} [] (← classify argv)

end Arguments

end ScriptSite
