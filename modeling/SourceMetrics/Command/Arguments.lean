import SourceMetrics.Config
import SourceMetrics.Identity

/-!
# Command lines

What the words of a command line ask for. A word that starts with a dash is an option: a flag, or
one that takes a value, which follows in the same word or is the next one. Behind `--` no word is an
option. Each option may be given once. A value is judged when the next option or the end of the line
is reached, so of two mistakes in a line the one that shows first is reported.
-/

namespace SourceMetrics

/-- What the program is to do. -/
inductive Command where
  | analyze (paths : List String) (format : Option OutputFormat) (config : Option String)
  | call (tool : String) (arguments : Option String) (config : Option String)
  | tools
  | init (output : String)
  deriving DecidableEq, Repr

/-- A command, and whether its progress is to be told. -/
structure Invocation where
  verbose : Bool
  command : Command
  deriving DecidableEq, Repr

/-- Why a command line does not lead to a command. -/
inductive Usage where
  | help
  | version
  /-- There are no words at all. -/
  | nothing
  /-- There are options only. -/
  | missingCommand
  | unknownCommand
  | unknownArgument
  | missingArgument
  | invalidValue
  /-- A flag is given a value. -/
  | surplusValue
  | repeatedArgument
  deriving DecidableEq, Repr

/-- Whether the user asked for information, so that nothing went wrong. -/
def Usage.isInformation : Usage → Bool
  | help | version => true
  | _ => false

namespace Command

/-! ## Options -/

/-- An option without a value. -/
inductive Flag where
  | verbose
  | help
  | version
  deriving DecidableEq, Repr

/-- An option with a value. -/
inductive Slot where
  | format
  | config
  | output
  deriving DecidableEq, Repr

/-- The words that a command takes: options by their letter and their name, and other words, the
operands. -/
structure Scheme where
  flags : List (Char × String × Flag)
  slots : List (Char × String × Slot)
  /-- How many operands there may be, if their number is bounded. -/
  maxOperands : Option Nat
  /-- Whether operands are paths, which are never empty. -/
  takesPaths : Bool

def commonFlags : List (Char × String × Flag) :=
  [('v', "verbose", .verbose), ('h', "help", .help)]

def configSlot : Char × String × Slot := ('c', "config", .config)

/-- The options before the command. -/
def programScheme : Scheme :=
  ⟨commonFlags ++ [('V', "version", .version)], [], some 0, false⟩

def analyzeScheme : Scheme := ⟨commonFlags, [('f', "format", .format), configSlot], none, true⟩

def callScheme : Scheme := ⟨commonFlags, [configSlot], some 2, false⟩

def toolsScheme : Scheme := ⟨commonFlags, [], some 0, false⟩

def initScheme : Scheme := ⟨commonFlags, [('o', "output", .output)], some 0, false⟩

/-- What has been given but not yet judged. -/
inductive Pending where
  | nothing
  | slot (slot : Slot) (value : Option String)
  | operands (values : List String)
  deriving DecidableEq, Repr

/-- What the words so far have given. -/
structure Given where
  verbose : Bool
  format : Option OutputFormat
  config : Option String
  output : Option String
  operands : List String
  pending : Pending
  /-- Whether no more options follow. -/
  onlyOperands : Bool
  deriving DecidableEq, Repr

namespace Given

def start : Given := ⟨false, none, none, none, [], .nothing, false⟩

/-- A path as the value of an option. -/
def pathValue (present : Option String) (value : String) : Except Usage (Option String) :=
  if present.isSome then .error .repeatedArgument
  else if value.isEmpty then .error .invalidValue
  else .ok (some value)

/-- Takes the value of an option. -/
def fill (g : Given) (slot : Slot) (value : String) : Except Usage Given :=
  match slot with
  | .config => do return { g with config := ← pathValue g.config value }
  | .output => do return { g with output := ← pathValue g.output value }
  | .format =>
    if g.format.isSome then .error .repeatedArgument
    else
      match OutputFormat.ofName? value with
      | some format => .ok { g with format }
      | none => .error .invalidValue

/-- Judges what is pending. -/
def settle (s : Scheme) (g : Given) : Except Usage Given :=
  match g.pending with
  | .nothing => .ok g
  | .slot _ none => .error .invalidValue
  | .slot slot (some value) => { g with pending := .nothing }.fill slot value
  | .operands values =>
    if s.takesPaths && values.contains "" then .error .invalidValue
    else .ok { g with pending := .nothing, operands := g.operands ++ values }

/-- Takes a flag. -/
def raise (s : Scheme) (g : Given) (flag : Flag) : Except Usage Given := do
  let g ← g.settle s
  match flag with
  | .help => throw .help
  | .version => throw .version
  | .verbose => if g.verbose then throw .repeatedArgument else return { g with verbose := true }

/-- Takes an option with the value in its word, or leaves it open for the next word. -/
def takeSlot (s : Scheme) (g : Given) (slot : Slot) (value : Option String) :
    Except Usage Given := do
  let g ← g.settle s
  match value with
  | some value => g.fill slot value
  | none => return { g with pending := .slot slot none }

/-- Takes an option by its name. -/
def takeLong (s : Scheme) (g : Given) (name : String) (value : Option String) :
    Except Usage Given :=
  -- Names of options have to be given in full.
  match s.slots.find? (·.2.1 = name), s.flags.find? (·.2.1 = name), value with
  | some (_, _, slot), _, _ => g.takeSlot s slot value
  | none, some (_, _, flag), none => g.raise s flag
  | none, some _, some _ => .error .surplusValue
  | none, none, _ => .error .unknownArgument

/-- Takes options by their letters. What is behind the letter of an option with a value is the
value, perhaps after an equals sign. -/
def takeShort (s : Scheme) : List Char → Given → Except Usage Given
  | [], g => .ok g
  | c :: cs, g =>
    match s.flags.find? (·.1 = c), s.slots.find? (·.1 = c) with
    | some (_, _, flag), _ => do takeShort s cs (← g.raise s flag)
    | none, some (_, _, slot) =>
      let value := match cs with
        | [] => none
        | '=' :: cs => some (String.ofList cs)
        | cs => some (String.ofList cs)
      g.takeSlot s slot value
    | none, none => .error .unknownArgument

/-- Takes a word that starts with a dash as options; none if it is no option. -/
def takeOption? (s : Scheme) (g : Given) (word : String) : Option (Except Usage Given) :=
  match word.toList with
  | '-' :: '-' :: cs =>
    let name := cs.takeWhile (· ≠ '=')
    let value := match cs.dropWhile (· ≠ '=') with
      | [] => none
      | _ :: cs => some (String.ofList cs)
    some (g.takeLong s (String.ofList name) value)
  | '-' :: c :: cs => some (takeShort s (c :: cs) g)
  | _ => none

/-- The number of operands so far. -/
def operandCount (g : Given) : Nat :=
  match g.pending with
  | .operands values => g.operands.length + values.length
  | _ => g.operands.length

/-- Takes a word as an operand. -/
def takeOperand (s : Scheme) (g : Given) (word : String) : Except Usage Given :=
  if s.maxOperands.any (· ≤ g.operandCount) then .error .unknownArgument
  else
    match g.pending with
    -- Operands in a row are judged together.
    | .operands values => .ok { g with pending := .operands (values ++ [word]) }
    | _ => do return { ← g.settle s with pending := .operands [word] }

/-- Takes a word that is no option: as a value, if one is missing, else as an operand. -/
def takePlain (s : Scheme) (g : Given) (word : String) : Except Usage Given :=
  match g.pending with
  | .slot slot none => .ok { g with pending := .slot slot (some word) }
  | _ => g.takeOperand s word

/-- Takes all words of a command. -/
def takeWords (s : Scheme) : List String → Given → Except Usage Given
  | [], g => g.settle s
  | word :: words, g =>
    if g.onlyOperands then do takeWords s words (← g.takeOperand s word)
    else if word = "--" then takeWords s words { g with onlyOperands := true }
    else
      match g.takeOption? s word with
      | some given => do takeWords s words (← given)
      | none => do takeWords s words (← g.takePlain s word)

end Given

/-! ## Commands -/

/-- The commands: the words they take, and what they make of them. -/
def forms : List (String × Scheme × (Given → Except Usage Command)) := [
  ("analyze", analyzeScheme, fun g => .ok (.analyze g.operands g.format g.config)),
  ("call", callScheme, fun g =>
    match g.operands with
    | [] => .error .missingArgument
    | tool :: rest => .ok (.call tool rest.head? g.config)),
  ("tools", toolsScheme, fun _ => .ok .tools),
  ("init", initScheme, fun g => .ok (.init (g.output.getD settingsFile)))]

/-- The command that explains the others. -/
def helpName : String := "help"

def isName (word : String) : Bool := word = helpName || forms.any (·.1 = word)

/-- What comes of a request for help on a command. -/
def helpOn : List String → Usage
  | [] => .help
  | [word] => if isName word then .help else .unknownCommand
  | _ => .unknownCommand

/-- What a line without a command lacks. -/
def withoutCommand (verbose : Bool) : Usage := if verbose then .missingCommand else .nothing

/-- Takes the words from the name of the command on. -/
def takeNamed (verbose : Bool) (word : String) (words : List String) :
    Except Usage Invocation := do
  match forms.find? (·.1 = word) with
  | none => throw (if word = helpName then helpOn words else .unknownCommand)
  | some (_, scheme, make) =>
    let g ← Given.takeWords scheme words .start
    return ⟨verbose || g.verbose, ← make g⟩

/-- Takes the words of a line: options of the program, then the command. -/
def takeLine : List String → Given → Except Usage Invocation
  | [], g => .error (withoutCommand g.verbose)
  | "--" :: words, g =>
    match words with
    | [] => .error (withoutCommand g.verbose)
    | word :: _ => .error (if isName word then .unknownArgument else .unknownCommand)
  | word :: words, g =>
    match g.takeOption? programScheme word with
    | some given => do takeLine words (← given)
    | none => takeNamed g.verbose word words

end Command

/-- What the words of a command line ask for. -/
def Invocation.ofWords (words : List String) : Except Usage Invocation :=
  Command.takeLine words .start

end SourceMetrics
