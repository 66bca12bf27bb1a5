/-
This file reads the arguments of the command line. Each argument is first classed by its looks
alone: it is a flag, something that looks like a flag, or a plain word; after an argument of two
dashes every argument is plain. Then the arguments are taken in order. A flag may be shortened as
long as no other flag starts in the same way, and a value follows its flag or is attached to it by
an equals sign. Asking for help or for the version ends the reading at once, so what stands behind
it does not matter unless it cannot even be classed.
-/

import LineShell.CommandLine.Flag
import LineShell.Settings
import LineShell.Text.Decimal
import LineShell.Text.Quoted

namespace LineShell

namespace Arguments

/-! ### Mistakes -/

/-- What is wrong with a command line. -/
inductive Mistake where
  /-- An argument could be short for several spellings. -/
  | ambiguous (argument : Text) (spellings : List Text)
  /-- No value follows a flag that needs one. -/
  | missingValue (flag : Flag)
  /-- A value is attached to a flag that takes none. -/
  | ignoredValue (flag : Flag) (value : Text)
  /-- Some arguments mean nothing. -/
  | unrecognized (arguments : List Text)
  deriving DecidableEq, Repr

/-- The wording of a mistake. -/
def Mistake.message : Mistake → Text
  | .ambiguous argument spellings =>
    Text.of "ambiguous option: " ++ argument ++ Text.of " could match " ++
      (Text.of ", ").intercalate spellings
  | .missingValue flag => Text.of "argument " ++ flag.label ++ Text.of ": expected one argument"
  | .ignoredValue flag value =>
    Text.of "argument " ++ flag.label ++ Text.of ": ignored explicit argument " ++ Text.quoted value
  | .unrecognized arguments =>
    Text.of "unrecognized arguments: " ++ Text.joined .space arguments

/-! ### Classes of arguments -/

/-- What an argument looks like. -/
inductive Class where
  /-- A plain word, which can be a value. -/
  | plain
  /-- The two dashes after which everything is plain. -/
  | separator
  /-- A flag, in its short spelling or not, and the value attached to it. -/
  | flag (flag : Flag) (short : Bool) (attached : Option Text)
  /-- Something that looks like a flag and is none. -/
  | unknown
  deriving DecidableEq, Repr

/-- The character that flags start with. -/
def dash : Glyph := .scalar '-'

/-- The character that attaches a value. -/
def equals : Glyph := .scalar '='

/-- Whether a text is a row of decimal digits. -/
def isDigits (text : Text) : Bool := text.all Glyph.isDecimalDigit

/-- Whether a text is a whole number or a number with a point. -/
def isUnsigned (text : Text) : Bool :=
  match text.splitOn (.scalar '.') with
  | [whole] => !whole.isEmpty && isDigits whole
  | [whole, fraction] => isDigits whole && !fraction.isEmpty && isDigits fraction
  | _ => false

/-- Whether an argument is a dash and a number. A line feed at the very end does no harm. -/
def isNegativeNumber (argument : Text) : Bool :=
  let number := argument.tail
  isUnsigned number || (number.getLast? = some (.scalar '\n') && isUnsigned number.dropLast)

/-- An argument cut at its first equals sign, and the value after it if there is such a sign. -/
def cutValue (argument : Text) : Text × Option Text :=
  let (name, value) := argument.cut equals
  (name, if equals ∈ argument then some value else none)

/-- The spellings that an argument with two dashes may be short for. -/
def completions (name : Text) : List (Text × Flag) :=
  Flag.spellings.filter fun entry => name.isPrefixOf entry.1

/-- The class of an argument that starts with a dash and is no spelling by itself. -/
def classifyInexact (argument : Text) : Except Mistake Class :=
  let (name, attached) := cutValue argument
  let named := if attached.isSome then Flag.ofSpelling? name else none
  match named with
  | some flag => .ok (.flag flag (name = Text.of "-h") attached)
  | none =>
    let long := (Text.of "--").isPrefixOf argument
    let candidates := if long then completions name else []
    match candidates with
    | _ :: _ :: _ => .error (.ambiguous argument (candidates.map Prod.fst))
    | [(_, flag)] => .ok (.flag flag false attached)
    | [] =>
      if ¬ long ∧ (Text.of "-h").isPrefixOf argument then
        .ok (.flag .help true (some (argument.drop 2)))
      else if isNegativeNumber argument ∨ .space ∈ argument then .ok .plain
      else .ok .unknown

/-- The class of an argument that stands before any two dashes. -/
def classify (argument : Text) : Except Mistake Class :=
  match argument with
  | [] => .ok .plain
  | first :: rest =>
    if first ≠ dash then .ok .plain
    else match Flag.ofSpelling? argument with
      | some flag => .ok (.flag flag (argument = Text.of "-h") none)
      | none => if rest = [] then .ok .plain else classifyInexact argument

/-- Every argument with its class. -/
def classifyAll : List Text → Except Mistake (List (Text × Class))
  | [] => .ok []
  | argument :: rest =>
    if argument = [dash, dash] then
      .ok ((argument, .separator) :: rest.map fun later => (later, .plain))
    else do
      let looks ← classify argument
      let others ← classifyAll rest
      pure ((argument, looks) :: others)

/-! ### Reading in order -/

/-- What a command line chooses. -/
structure Wishes where
  choices : Choices
  /-- Whether a prompt is given that has no text. -/
  promptless : Bool
  deriving DecidableEq, Repr

/-- What is chosen before anything is read. -/
def Wishes.none : Wishes := ⟨.none, false⟩

/-- What a command line asks for. -/
inductive Request where
  /-- Start the shell. -/
  | start (wishes : Wishes)
  /-- Show the help. -/
  | help
  /-- Show the version. -/
  | version
  deriving DecidableEq, Repr

/-- The wishes with a value for a flag, or with the flag alone where its value was taken away. A
later flag takes the place of an earlier one. -/
def Wishes.choose (wishes : Wishes) (flag : Flag) (value : Option Text) : Wishes :=
  let choices := wishes.choices
  match flag with
  | .prompt => ⟨{ choices with prompt := value }, value.isNone⟩
  | .level => { wishes with choices := { choices with level := value } }
  | .journal => { wishes with choices := { choices with journal := value } }
  | .help | .version => wishes

/-- The value that an attached text gives to a flag. Two dashes are taken away wherever they stand
alone, so attached to a flag they leave it without a value. -/
def attachedValue (text : Text) : Option Text := if text = [dash, dash] then none else some text

/-- The text that a flag without a value cannot have attached to it, if there is one. The short
spelling of help may be followed by more letters for help, and only these. -/
def refusedText (short : Bool) (text : Text) : Option Text :=
  if short ∧ text ≠ [] then
    match text.dropWhile (· = .scalar 'h') with
    | [] => none
    | rest => some rest
  else some text

/-- The request of a flag that takes no value. -/
def requestOf : Flag → Request
  | .version => .version
  | _ => .help

/-- Take the arguments in order, with the wishes so far and the arguments that meant nothing. -/
def consume (wishes : Wishes) (strays : List Text) :
    List (Text × Class) → Except Mistake Request
  | [] => if strays = [] then .ok (.start wishes) else .error (.unrecognized strays)
  | (_, .flag flag short attached) :: rest =>
    match attached, flag.takesValue with
    | some text, true => consume (wishes.choose flag (attachedValue text)) strays rest
    | some text, false =>
      match refusedText short text with
      | some refused => .error (.ignoredValue flag refused)
      | none => .ok (requestOf flag)
    | none, true =>
      match rest with
      | (value, .plain) :: others => consume (wishes.choose flag (some value)) strays others
      | _ => .error (.missingValue flag)
    | none, false => .ok (requestOf flag)
  | (argument, _) :: rest => consume wishes (strays ++ [argument]) rest

/-- What the arguments ask for. -/
def read (arguments : List Text) : Except Mistake Request := do
  consume .none [] (← classifyAll arguments)

end Arguments

end LineShell
