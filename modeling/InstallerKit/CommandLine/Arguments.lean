/-!
# Arguments

The words of a command line are options and operands. An option has a long name
after two hyphens, and may have a short one, a single letter after one hyphen. Some
options take a value: attached (after an equals sign if the name is long), or else
the next word, whatever it is. Several short options may share a hyphen, and the
last of them may take a value. Two hyphens on their own end the options; a single
one is an operand.

Options may stand between operands, or they may have to come first, so that the
first operand ends them.
-/

namespace InstallerKit.CommandLine

/-- An option. -/
structure Switch where
  /-- The long name, without hyphens. -/
  long : String
  /-- The short name. -/
  short : Option Char
  takesValue : Bool
  deriving DecidableEq, Repr

/-- An option as it was given. -/
structure Setting where
  switch : Switch
  value : Option String
  deriving DecidableEq, Repr

/-- What the words of a command line say. -/
structure Arguments where
  /-- The options in the order in which they were given. -/
  settings : List Setting
  operands : List String
  deriving DecidableEq, Repr

/-- What a word with options says by itself. -/
inductive Word
  /-- The options are complete. -/
  | complete (settings : List Setting)
  /-- The value of the last option is the next word. -/
  | open (settings : List Setting) (last : Switch)
  deriving DecidableEq, Repr

/-- Whether a word has options: it starts with a hyphen and goes on. -/
def isOptionWord (word : String) : Bool :=
  word.toList.head? = some '-' && 1 < word.length

/-- A word that is the long name of an option, and its value if it has one
    attached. None if there is no such option; an error if it has a value and
    should not. -/
def readLong (switches : List Switch) (word : String) : Option (Option Word) :=
  let name := word.toList.takeWhile (· ≠ '=')
  let value := (word.toList.drop name.length).drop 1
  let hasValue := name.length < word.length
  match switches.find? fun s => "--" ++ s.long = String.ofList name with
  | none => none
  | some s =>
    if s.takesValue then
      some (some (if hasValue then .complete [⟨s, some (.ofList value)⟩] else .open [] s))
    else if hasValue then some none
    else some (some (.complete [⟨s, none⟩]))

/-- Letters that are the short names of options. None if one of them is not. -/
def readShort (switches : List Switch) : List Char → Option Word
  | [] => some (.complete [])
  | c :: cs =>
    match switches.find? fun s => s.short = some c with
    | none => none
    | some s =>
      if s.takesValue then
        some (if cs.isEmpty then .open [] s else .complete [⟨s, some (.ofList cs)⟩])
      else
        match readShort switches cs with
        | some (.complete rest) => some (.complete (⟨s, none⟩ :: rest))
        | some (.open rest last) => some (.open (⟨s, none⟩ :: rest) last)
        | none => none

/-- What a word with options says. None if it makes no sense. -/
def readWord (switches : List Switch) (word : String) : Option Word :=
  match readLong switches word with
  | some w => w
  | none => if "--".isPrefixOf word then none else readShort switches (word.toList.drop 1)

/-- Puts settings in front. -/
def Arguments.after (settings : List Setting) (a : Arguments) : Arguments :=
  { a with settings := settings ++ a.settings }

/-- Puts an operand in front. -/
def Arguments.afterOperand (operand : String) (a : Arguments) : Arguments :=
  { a with operands := operand :: a.operands }

/-- What some words say. If options have to come first, everything from the first
    operand on is an operand. None if the words make no sense. -/
def readWords (switches : List Switch) (optionsFirst : Bool) : List String → Option Arguments
  | [] => some ⟨[], []⟩
  | word :: rest =>
    if word = "--" then some ⟨[], rest⟩
    else if isOptionWord word then
      match readWord switches word, rest with
      | some (.complete settings), rest =>
        (readWords switches optionsFirst rest).map (.after settings)
      | some (.open settings last), value :: rest =>
        (readWords switches optionsFirst rest).map (.after (settings ++ [⟨last, some value⟩]))
      | some (.open _ _), [] => none
      | none, _ => none
    else if optionsFirst then some ⟨[], word :: rest⟩
    else (readWords switches optionsFirst rest).map (.afterOperand word)

namespace Arguments

/-- The value that an option was given last. -/
def value? (a : Arguments) (s : Switch) : Option String :=
  (a.settings.filter (·.switch = s)).getLast?.bind Setting.value

/-- How often an option was given. -/
def count (a : Arguments) (s : Switch) : Nat :=
  a.settings.countP (·.switch = s)

/-- Whether an option was given. -/
def has (a : Arguments) (s : Switch) : Bool :=
  a.count s ≠ 0

/-- The options that were given, in the order of their first occurrence. -/
def switches (a : Arguments) : List Switch :=
  (a.settings.map Setting.switch).eraseDups

end Arguments

end InstallerKit.CommandLine
