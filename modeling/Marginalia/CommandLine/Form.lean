import Marginalia.CommandLine.Folder
import Marginalia.CommandLine.Usage
import Marginalia.Text.Similarity

/-!
# Forms of command lines

A command takes options and operands.  A word that begins with a dash names an option, several
one-letter options may share a word, and an option that takes a value finds it after an equals sign,
in the rest of its word, or in the next word.  Two dashes end the options.  Of an option that is
given twice the last value counts, and values are checked in the order in which their options first
come, those of operands after them.
-/

namespace Marginalia

namespace CommandLine

/-- What a value has to be. -/
inductive Demand where
  /-- Any text. -/
  | text
  /-- An integer. -/
  | integer
  /-- A path with something of a kind. -/
  | existing (place : PlaceKind)
  /-- A path with nothing, or with something of a kind. -/
  | vacant (place : PlaceKind)
deriving DecidableEq, Repr

/-- An option of a command. -/
structure OptionForm where
  /-- The name that it is asked for by. -/
  name : Text
  /-- Further names. -/
  aliases : List Text := []
  /-- What its value has to be, if it takes one. -/
  demand : Option Demand := none
deriving DecidableEq, Repr

/-- An operand of a command. -/
structure OperandForm where
  /-- The name. -/
  name : Text
  /-- What it has to be. -/
  demand : Demand
  /-- Whether it takes all words that are left. -/
  isRepeated : Bool := false
deriving DecidableEq, Repr

/-- What a command takes. -/
structure Form where
  /-- Its options. -/
  options : List OptionForm
  /-- Its operands. -/
  operands : List OperandForm := []
  /-- Whether options may come after operands. -/
  mixes : Bool := true

/-- The name of an operand or option as messages show it. -/
def hintOf (name : Text) : Text :=
  '\x27' :: name ++ ['\x27']

/-- All names of an option as messages show them. -/
def OptionForm.hint (option : OptionForm) : Text :=
  Text.glue [' ', '/', ' '] ((option.name :: option.aliases).map hintOf)

/-- The name of an operand as messages show it. -/
def OperandForm.hint (operand : OperandForm) : Text :=
  hintOf (operand.name ++ if operand.isRepeated then "...".toList else [])

/-! ## Words -/

/-- What a word says. -/
inductive WordMeaning where
  /-- It is an operand. -/
  | operand
  /-- No option follows. -/
  | endOfOptions
  /-- It names options without values. -/
  | switches (options : List OptionForm)
  /-- It names options, and the last one has its value. -/
  | valued (switches : List OptionForm) (option : OptionForm) (value : Text)
  /-- It names options, and the value of the last one is the next word. -/
  | awaiting (switches : List OptionForm) (option : OptionForm) (name : Text)
deriving DecidableEq, Repr

/-- The option of a name. -/
def Form.option? (form : Form) (name : Text) : Option OptionForm :=
  form.options.find? fun option => (option.name :: option.aliases).contains name

/-- The long names of options that are similar to a name. -/
def Form.similarTo (form : Form) (name : Text) : List Text :=
  Text.similarTo name
    ((form.options.flatMap fun option => option.name :: option.aliases).filter (2 < ·.length))

/-- Put an option without value in front of what a word says. -/
def WordMeaning.after (first : OptionForm) : WordMeaning → WordMeaning
  | .switches options => .switches (first :: options)
  | .valued before option value => .valued (first :: before) option value
  | .awaiting before option name => .awaiting (first :: before) option name
  | meaning => meaning

/-- The meaning of a word of one-letter options, after its dash. -/
def Form.readLetters (form : Form) : Text → Except Misuse WordMeaning
  | [] => .ok (.switches [])
  | letter :: rest =>
      match form.option? ['-', letter] with
      | none => .error (.noSuchOption ['-', letter] [])
      | some option =>
          match option.demand, rest with
          | none, rest => (form.readLetters rest).map (WordMeaning.after option)
          | some _, [] => .ok (.awaiting [] option ['-', letter])
          | some _, rest => .ok (.valued [] option rest)

/-- The meaning of a word. -/
def Form.readWord (form : Form) (word : Text) : Except Misuse WordMeaning :=
  match word with
  | ['-', '-'] => .ok .endOfOptions
  | '-' :: second :: rest =>
      let name := Text.before '=' word
      let value := if word.contains '=' then some (Text.after '=' word) else none
      match form.option? name with
      | some option =>
          if name.length = 2 then form.readLetters (second :: rest)
          else
            match option.demand, value with
            | none, none => .ok (.switches [option])
            | none, some _ => .error (.strayValue name)
            | some _, some value => .ok (.valued [] option value)
            | some _, none => .ok (.awaiting [] option name)
      | none =>
          if second = '-' then .error (.noSuchOption name (form.similarTo name))
          else form.readLetters (second :: rest)
  | _ => .ok .operand

/-- Options with their values, in the order in which they first came. -/
abbrev Mentions := Table Text (OptionForm × Option Text)

/-- Note options without values. -/
def Mentions.switchAll (switches : List OptionForm) (mentions : Mentions) : Mentions :=
  switches.foldl (fun mentions option => mentions.put option.name (option, none)) mentions

/-- Sort words into options and operands. -/
def Form.sort (form : Form) (mentions : Mentions) :
    List Text → Except Misuse (Mentions × List Text)
  | [] => .ok (mentions, [])
  | word :: rest =>
      match form.readWord word with
      | .error misuse => .error misuse
      | .ok .endOfOptions => .ok (mentions, rest)
      | .ok .operand =>
          if form.mixes then
            (form.sort mentions rest).map fun (mentions, operands) => (mentions, word :: operands)
          else .ok (mentions, word :: rest)
      | .ok (.switches switches) => form.sort (mentions.switchAll switches) rest
      | .ok (.valued switches option value) =>
          form.sort ((mentions.switchAll switches).put option.name (option, some value)) rest
      | .ok (.awaiting switches option name) =>
          match rest with
          | [] => .error (.noValue name)
          | value :: rest =>
              form.sort ((mentions.switchAll switches).put option.name (option, some value)) rest

/-! ## Checks -/

/-- Check a value. -/
def Demand.check (standing : Text → Standing) (hint value : Text) :
    Demand → Except Misuse Unit
  | .text => .ok ()
  | .integer =>
      match Text.readInteger value with
      | .ok _ => .ok ()
      | .error _ => .error (.noInteger hint value)
  | .existing place =>
      match standing value, place with
      | .nothing, place => .error (.nothingThere hint place value)
      | .folder, .file => .error (.otherKind hint .file value)
      | .file _, .folder => .error (.otherKind hint .folder value)
      | _, _ => .ok ()
  | .vacant place =>
      match standing value, place with
      | .folder, .file => .error (.otherKind hint .file value)
      | .file _, .folder => .error (.otherKind hint .folder value)
      | _, _ => .ok ()

/-- Check the value of an option. -/
def checkMention (standing : Text → Standing) (option : OptionForm) (value : Option Text) :
    Except Misuse Unit :=
  match option.demand, value with
  | some demand, some value => demand.check standing option.hint value
  | _, _ => .ok ()

/-- Give each operand its words; what nobody takes is left. -/
def assign : List OperandForm → List Text → List (OperandForm × List Text) × List Text
  | [], words => ([], words)
  | operand :: operands, words =>
      let (own, rest) := if operand.isRepeated then (words, []) else (words.take 1, words.drop 1)
      let (assigned, rest) := assign operands rest
      ((operand, own) :: assigned, rest)

/-- Check the words of an operand. -/
def checkOperand (standing : Text → Standing) (operand : OperandForm) (words : List Text) :
    Except Misuse Unit := do
  words.forM fun word => operand.demand.check standing operand.hint word
  if words.isEmpty then .error (.noOperand operand.hint) else .ok ()

/-- What a command was given. -/
structure Arguments where
  /-- Its options. -/
  mentions : Mentions := []
  /-- The words of its operands. -/
  operands : List (List Text) := []

/-- Accept options and operands, if all of them are as they have to be. -/
def Form.accept (form : Form) (standing : Text → Standing) (mentions : Mentions)
    (words : List Text) : Except Misuse Arguments := do
  mentions.forM fun (_, option, value) => checkMention standing option value
  let (assigned, rest) := assign form.operands words
  assigned.forM fun (operand, words) => checkOperand standing operand words
  if rest.isEmpty then pure { mentions, operands := assigned.map (·.2) }
  else .error (.strayOperands rest)

namespace Arguments

/-- Whether an option was given. -/
def has (arguments : Arguments) (name : String) : Bool :=
  (arguments.mentions.get? name.toList).isSome

/-- The value of an option. -/
def text? (arguments : Arguments) (name : String) : Option Text :=
  (arguments.mentions.get? name.toList).bind (·.2)

/-- The value of an option that takes an integer. -/
def integer? (arguments : Arguments) (name : String) : Option Int :=
  (arguments.text? name).bind fun value => (Text.readInteger value).toOption

/-- The words of an operand. -/
def operand (arguments : Arguments) (place : Nat) : List Text :=
  arguments.operands.getD place []

end Arguments

end CommandLine

end Marginalia
