import DeclAtlas.Text.Basic

/-!
# Arguments

Reading a list of arguments by rules for the options in it.  An option is given by its name behind
two dashes or by its letter behind one; letters may stand together.  A value follows as the next
argument, behind an equals sign or, for a letter, directly.  Behind a lone double dash everything is
an operand.

Reading goes argument by argument and ends early at the first that cannot be accepted or that asks
for something else than a command.
-/

namespace DeclAtlas.Command

/-- Why reading ends early. -/
inductive EarlyEnd where
  /-- The arguments cannot be accepted. -/
  | refused
  /-- Help is asked for. -/
  | help
  /-- The version is asked for. -/
  | version
  deriving DecidableEq, Repr

/-- A rule for an option. -/
structure OptionRule where
  /-- Its name, without dashes. -/
  name : Text
  /-- Its letter, without a dash. -/
  letter : Option Char := none
  /-- Whether a value belongs to it. -/
  takesValue : Bool := false
  /-- Whether it may be given more than once. -/
  isRepeatable : Bool := false
  /-- Which values it accepts. -/
  accepts : Text → Bool := fun _ => true
  /-- Whether it ends the reading. -/
  ends : Option EarlyEnd := none

/-- What the arguments say. -/
structure Arguments where
  /-- The options in the order given, each with its value; the value of a flag is empty. -/
  options : List (Text × Text) := []
  /-- The operands in the order given. -/
  operands : List Text := []
  deriving DecidableEq, Repr

namespace Arguments

/-- Whether an option is given. -/
def has (arguments : Arguments) (name : Text) : Bool :=
  arguments.options.any fun (given, _) => given == name

/-- The values of an option in the order given. -/
def values (arguments : Arguments) (name : Text) : List Text :=
  (arguments.options.filter fun (given, _) => given == name).map Prod.snd

/-- The value of an option. -/
def value? (arguments : Arguments) (name : Text) : Option Text :=
  (arguments.values name).head?

end Arguments

/-- The arguments read so far. -/
structure ArgumentReader where
  /-- What they say. -/
  arguments : Arguments := {}
  /-- The option whose value is expected next. -/
  awaiting : Option OptionRule := none
  /-- Whether only operands can follow. -/
  operandsOnly : Bool := false

namespace ArgumentReader

/-- Notes an option. -/
def note (reader : ArgumentReader) (rule : OptionRule) (value : Text) :
    Except EarlyEnd ArgumentReader :=
  match rule.ends with
  | some reason => .error reason
  | none =>
    let isRepeated := reader.arguments.has rule.name && !rule.isRepeatable
    if isRepeated || !rule.accepts value then .error .refused
    else
      let arguments := { reader.arguments with
        options := reader.arguments.options ++ [(rule.name, value)] }
      .ok { reader with arguments, awaiting := none }

/-- Notes an operand.  There can be `limit` operands, and none is empty. -/
def noteOperand (limit : Nat) (reader : ArgumentReader) (operand : Text) :
    Except EarlyEnd ArgumentReader :=
  if operand.isEmpty || reader.arguments.operands.length ≥ limit then .error .refused
  else
    let arguments := { reader.arguments with
      operands := reader.arguments.operands ++ [operand] }
    .ok { reader with arguments }

/-- Reads an option that is given by its name. -/
def readName (rules : List OptionRule) (reader : ArgumentReader) (argument : Text) :
    Except EarlyEnd ArgumentReader :=
  let (name, value) := match Text.cutAt? '=' argument with
    | some (name, value) => (name, some value)
    | none => (argument, none)
  match rules.find? (fun rule => rule.name == name), value with
  | none, _ => .error .refused
  | some rule, some value => if rule.takesValue then reader.note rule value else .error .refused
  | some rule, none =>
    if rule.takesValue then .ok { reader with awaiting := some rule } else reader.note rule []

/-- Reads options that are given by their letters.  What follows the letter of an option with a
value is its value. -/
def readLetters (rules : List OptionRule) (reader : ArgumentReader) :
    Text → Except EarlyEnd ArgumentReader
  | [] => .ok reader
  | letter :: rest =>
    match rules.find? fun rule => rule.letter == some letter with
    | none => .error .refused
    | some rule =>
      if rule.takesValue then
        if rest.isEmpty then .ok { reader with awaiting := some rule }
        else reader.note rule ((Text.after? ['='] rest).getD rest)
      else
        match reader.note rule [] with
        | .ok reader => reader.readLetters rules rest
        | .error reason => .error reason

/-- Whether an argument looks like an option: it starts with a dash and is no lone dash. -/
def looksLikeOption (argument : Text) : Bool :=
  Text.startsWith argument ['-'] && argument != ['-']

/-- Reads an argument. -/
def step (rules : List OptionRule) (limit : Nat) (reader : ArgumentReader) (argument : Text) :
    Except EarlyEnd ArgumentReader :=
  match reader.awaiting with
  | some rule => if looksLikeOption argument then .error .refused else reader.note rule argument
  | none =>
    if reader.operandsOnly || !looksLikeOption argument then reader.noteOperand limit argument
    else if argument = ['-', '-'] then .ok { reader with operandsOnly := true }
    else
      match Text.after? ['-', '-'] argument with
      | some name => reader.readName rules name
      | none => reader.readLetters rules argument.tail

/-- The arguments once all have been read.  No value may be missing. -/
def finish (reader : ArgumentReader) : Except EarlyEnd Arguments :=
  if reader.awaiting.isSome then .error .refused else .ok reader.arguments

end ArgumentReader

/-- Reads arguments by rules, with at most `limit` operands. -/
def Arguments.read (rules : List OptionRule) (limit : Nat) (arguments : List Text) :
    Except EarlyEnd Arguments := do
  let reader ← arguments.foldlM (ArgumentReader.step rules limit) {}
  reader.finish

end DeclAtlas.Command
