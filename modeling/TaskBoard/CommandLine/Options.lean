/-!
# Options on the command line

An option is given by its long name or by a letter; its value follows it or is
attached to it.  Letters may be run together, an option may be given only once,
and after two hyphens everything is an operand.  Arguments are read from left to
right, and the first one that makes no sense decides.
-/

namespace TaskBoard.CommandLine

/-- What stands behind an option. -/
inductive Shape where
  /-- Nothing. -/
  | flag
  /-- A value that meets a condition. -/
  | value (accepts : String → Bool)
  /-- Nothing, and what follows is not looked at. -/
  | final

/-- Whether a text may stand behind an option. -/
def Shape.accepts : Shape → String → Bool
  | flag, _ => true
  | value accepts, text => accepts text
  | final, _ => true

/-- An option that may be given. -/
structure OptionForm where
  name : String
  letter : Option Char
  shape : Shape

/-- What is given on the command line: options with their values, and operands. -/
structure Given where
  options : List (String × String)
  operands : List String
  deriving DecidableEq, Repr

namespace Given

/-- Nothing is given. -/
def nothing : Given := ⟨[], []⟩

/-- Whether an option is given. -/
def has (given : Given) (name : String) : Bool := (given.options.lookup name).isSome

/-- The value of an option, if it is given. -/
def value? (given : Given) (name : String) : Option String := given.options.lookup name

/-- Give one more option with an acceptable value; it must not be given yet. -/
def add? (given : Given) (form : OptionForm) (value : String) : Option Given :=
  if given.has form.name || !form.shape.accepts value then none
  else some { given with options := given.options ++ [(form.name, value)] }

/-- Give one more operand, of which there may be `most`. -/
def addOperand? (most : Nat) (given : Given) (operand : String) : Option Given :=
  if given.operands.length < most then
    some { given with operands := given.operands ++ [operand] }
  else none

end Given

/-- Whether an argument is read as options: it begins with a hyphen and goes on. -/
def looksLikeOption (argument : String) : Bool :=
  match argument.toList with
  | '-' :: _ :: _ => true
  | _ => false

/-- An argument, by its form. -/
inductive Argument where
  | divider
  | named (name : String) (attached : Option String)
  | letters (letters : List Char)
  | operand (text : String)
  deriving DecidableEq, Repr

/-- The form of an argument. -/
def Argument.ofText (text : String) : Argument :=
  match text.toList with
  | ['-', '-'] => divider
  | '-' :: '-' :: rest =>
      let name := rest.takeWhile fun character => character != '='
      match rest.drop name.length with
      | [] => named (String.ofList name) none
      | _ :: value => named (String.ofList name) (some (String.ofList value))
  | '-' :: first :: rest => letters (first :: rest)
  | _ => operand text

/-- What to do after an option was given. -/
inductive Next where
  /-- Go on with the next argument. -/
  | proceed
  /-- The next argument is the value of an option. -/
  | awaitValue (form : OptionForm)
  /-- Look at nothing else. -/
  | finish

/-- Give the options of letters that are run together. -/
def giveLetters (forms : List OptionForm) : List Char → Given → Option (Given × Next)
  | [], given => some (given, .proceed)
  | letter :: rest, given =>
      match forms.find? fun form => form.letter == some letter with
      | none => none
      | some form =>
          match form.shape with
          | .flag => (given.add? form "") >>= giveLetters forms rest
          | .final => (given.add? form "").map fun given => (given, .finish)
          | _ =>
              match rest with
              | [] => some (given, .awaitValue form)
              | '=' :: value =>
                  (given.add? form (String.ofList value)).map fun given => (given, .proceed)
              | value => (given.add? form (String.ofList value)).map fun given => (given, .proceed)

/-- Give an option by its name. -/
def giveNamed (forms : List OptionForm) (name : String) (attached : Option String)
    (given : Given) : Option (Given × Next) :=
  match forms.find? fun form => form.name == name with
  | none => none
  | some form =>
      match form.shape, attached with
      | .flag, none => (given.add? form "").map fun given => (given, .proceed)
      | .final, none => (given.add? form "").map fun given => (given, .finish)
      | .flag, some _ => none
      | .final, some _ => none
      | _, none => some (given, .awaitValue form)
      | _, some value => (given.add? form value).map fun given => (given, .proceed)

/-- What becomes of operands. -/
inductive OperandRule where
  /-- The first operand and what follows it are left. -/
  | leave
  /-- Operands are taken up to a number. -/
  | take (most : Nat)
  deriving DecidableEq, Repr

/-- What arguments give, and the arguments that are left. -/
def give (forms : List OptionForm) (operands : OperandRule) :
    List String → Next → Given → Option (Given × List String)
  | rest, .finish, given => some (given, rest)
  | [], .proceed, given => some (given, [])
  | [], .awaitValue _, _ => none
  | argument :: rest, .awaitValue form, given =>
      if looksLikeOption argument then none
      else (given.add? form argument) >>= give forms operands rest .proceed
  | argument :: rest, .proceed, given =>
      match Argument.ofText argument with
      | .divider =>
          match operands with
          | .leave => none
          | .take most =>
              (rest.foldlM (Given.addOperand? most) given).map fun given => (given, [])
      | .named name attached =>
          match giveNamed forms name attached given with
          | none => none
          | some (given, next) => give forms operands rest next given
      | .letters letters =>
          match giveLetters forms letters given with
          | none => none
          | some (given, next) => give forms operands rest next given
      | .operand text =>
          match operands with
          | .leave => some (given, argument :: rest)
          | .take most => given.addOperand? most text >>= give forms operands rest .proceed

end TaskBoard.CommandLine
