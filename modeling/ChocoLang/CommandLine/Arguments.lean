import ChocoLang.CommandLine.Usage
import ChocoLang.Text.Decimal

/-!
# Arguments of a command

A command line consists of options, words, and perhaps a separator after which everything is a word.
An option may be shortened as long as no other one begins in the same way; its value follows it as
the next word or after an equals sign; options of one letter may be written together behind one
dash.  The separator never is a value: where it stands after the equals sign, the option is left
without one.  Every argument is classified first, and then they take effect in their order.
-/

namespace ChocoLang

/--
What an option does to settings of a type.  An option that takes a value can be left without one.
-/
inductive OptionEffect (σ : Type) where
  /-- It shows a text in place of everything else. -/
  | display (text : String)
  /-- It changes the settings. -/
  | mark (update : σ → σ)
  /-- It takes any value. -/
  | text (store : Option String → σ → σ)
  /-- It takes an integer. -/
  | integer (store : Option Int → σ → σ)
  /-- It takes one of some values. -/
  | choice (choices : List String) (store : Option String → σ → σ)

/-- The option takes a value. -/
def OptionEffect.takesValue {σ : Type} : OptionEffect σ → Bool
  | display _ | mark _ => false
  | text _ | integer _ | choice _ _ => true

/-- An option of a command. -/
structure CommandOption (σ : Type) where
  /-- The ways to write the option, dashes included. -/
  spellings : List String
  /-- What the option does. -/
  effect : OptionEffect σ

/-- The name of an option in messages. -/
def CommandOption.name {σ : Type} (option : CommandOption σ) : String :=
  "/".intercalate option.spellings

/-- Why the arguments of a command do not lead to its execution. -/
inductive Interruption where
  /-- A text was asked for in its place. -/
  | display (text : String)
  /-- The arguments are in error. -/
  | error (error : UsageError)
deriving DecidableEq, Repr

/-! ## Classification -/

/-- An option as it is written in an argument. -/
structure WrittenOption (σ : Type) where
  /-- The option. -/
  option : CommandOption σ
  /-- The spelling that was meant. -/
  spelling : List Char
  /-- The characters that are attached to it as its value. -/
  attached : Option (List Char)

/-- What an argument is. -/
inductive ArgumentRole (σ : Type) where
  /-- A word. -/
  | word
  /-- The mark that only words follow. -/
  | separator
  /-- An option of the command. -/
  | option (written : WrittenOption σ)
  /-- An option that the command does not have. -/
  | unknown

/-- An argument with what it is. -/
structure Argument (σ : Type) where
  /-- The argument as it is written. -/
  text : String
  /-- What it is. -/
  role : ArgumentRole σ

namespace Argument

variable {σ : Type}

/-- The mark that only words follow. -/
def separatorText : String := "--"

/-- All spellings of some options, in their order. -/
def spellings (options : List (CommandOption σ)) : List (List Char × CommandOption σ) :=
  options.flatMap fun option => option.spellings.map fun spelling => (spelling.toList, option)

/-- The option with a spelling. -/
def optionOf? (options : List (CommandOption σ)) (spelling : List Char) :
    Option (CommandOption σ) :=
  ((spellings options).find? (·.1 == spelling)).map Prod.snd

/-- The part of an argument before its first equals sign, and the value after it. -/
def splitValue (chars : List Char) : List Char × Option (List Char) :=
  let opening := chars.takeWhile (· != '=')
  match chars.dropWhile (· != '=') with
  | [] => (opening, none)
  | _ :: value => (opening, some value)

/-- The options that an argument with two dashes could be a shortened form of. -/
def longMatches (options : List (CommandOption σ)) (chars : List Char) :
    List (WrittenOption σ) :=
  let (opening, attached) := splitValue chars
  (spellings options).filterMap fun (spelling, option) =>
    if opening.isPrefixOf spelling then some { option, spelling, attached } else none

/--
The options that an argument with one dash could stand for: one of a letter that the rest of the
argument is attached to, or one that the argument is a shortened form of.
-/
def shortMatches (options : List (CommandOption σ)) (chars : List Char) :
    List (WrittenOption σ) :=
  (spellings options).filterMap fun (spelling, option) =>
    if spelling = chars.take 2 then
      some { option, spelling, attached := some (chars.drop 2) }
    else if chars.isPrefixOf spelling then some { option, spelling, attached := none }
    else none

/-- The argument is a negative number, perhaps with a line break after it. -/
def isNegativeNumber (chars : List Char) : Bool :=
  let isDigit := fun c => (Text.digitValue? c).isSome
  let body := if chars.getLast? = some '\n' then chars.dropLast else chars
  match body with
  | '-' :: rest =>
    match rest.dropWhile isDigit with
    | [] => !rest.isEmpty
    | '.' :: fraction => !fraction.isEmpty && fraction.all isDigit
    | _ => false
  | _ => false

/-- What an argument is that is no spelling of an option, by what it could be short for. -/
def shortened (chars : List Char) (found : List (WrittenOption σ)) :
    Except UsageError (ArgumentRole σ) :=
  match found with
  | [] => .ok (if isNegativeNumber chars || chars.contains ' ' then .word else .unknown)
  | [written] => .ok (.option written)
  | several =>
    .error (.ambiguousOption (String.ofList chars)
      (several.map fun written => String.ofList written.spelling))

/-- What an argument before the separator is. -/
def roleOf (options : List (CommandOption σ)) (chars : List Char) :
    Except UsageError (ArgumentRole σ) :=
  match chars with
  | '-' :: second :: _ =>
    match optionOf? options chars with
    | some option => .ok (.option { option, spelling := chars, attached := none })
    | none =>
      let (opening, attached) := splitValue chars
      match attached, optionOf? options opening with
      | some _, some option => .ok (.option { option, spelling := opening, attached })
      | _, _ =>
        shortened chars
          (if second = '-' then longMatches options chars else shortMatches options chars)
  | _ => .ok .word

/-- Classifies the arguments of a command. -/
def classify (options : List (CommandOption σ)) :
    List String → Except UsageError (List (Argument σ))
  | [] => .ok []
  | text :: rest =>
    if text = separatorText then
      .ok (⟨text, .separator⟩ :: rest.map fun word => ⟨word, .word⟩)
    else do
      let first ← roleOf options text.toList
      let others ← classify options rest
      return ⟨text, first⟩ :: others

end Argument

/-! ## Effects -/

/-- What the arguments of a command say beside its options. -/
structure Operands where
  /-- The operand, with the words after it if they belong to it. -/
  words : Option (List String) := none
  /-- The arguments that the command has no use for. -/
  extras : List String := []
deriving Repr

/-- What a command does with the first word among its arguments. -/
inductive OperandForm where
  /-- The command has no operand. -/
  | absent
  /-- The word is the operand, and a command line is in error without it. -/
  | required (name : String)
  /-- The word is the name of a further command, and all that follows belongs to that. -/
  | subcommand
deriving DecidableEq, Repr

namespace CommandOption

variable {σ : Type}

/-- Applies an option without a value. -/
def apply (option : CommandOption σ) (settings : σ) : Except Interruption σ :=
  match option.effect with
  | .display text => .error (.display text)
  | .mark update => .ok (update settings)
  | .text _ | .integer _ | .choice _ _ => .error (.error (.missingValue option.name))

/-- Applies an option that a value is given to, or that is left without one. -/
def applyTo (option : CommandOption σ) (value : Option String) (settings : σ) :
    Except Interruption σ :=
  match option.effect, value with
  | .text store, value => .ok (store value settings)
  | .integer store, none => .ok (store none settings)
  | .integer store, some written =>
    match Text.integer? written.toList with
    | some number => .ok (store (some number) settings)
    | none => .error (.error (.invalidInteger option.name written))
  | .choice _ store, none => .ok (store none settings)
  | .choice choices store, some written =>
    if choices.contains written then .ok (store (some written) settings)
    else .error (.error (.invalidChoice option.name written choices))
  | .display _, value | .mark _, value =>
    .error (.error (.unwantedValue option.name (value.getD Argument.separatorText)))

end CommandOption

/-- How the options written together in one argument end. -/
inductive ClusterEnd (σ : Type) where
  /-- With an option that stands alone, its value perhaps in the next argument. -/
  | open (option : CommandOption σ)
  /-- With an option and what is attached to it. -/
  | valued (option : CommandOption σ) (attached : List Char)

/-- The value that attached characters are: none if they are the separator. -/
def attachedValue? (attached : List Char) : Option String :=
  let value := String.ofList attached
  if value = Argument.separatorText then none else some value

namespace WrittenOption

variable {σ : Type}

/--
The options written together behind one dash: those without a value that `option` and the letters
attached to it are, and how they end.  An option whose next letter is not an option is in error.
-/
def cluster (options : List (CommandOption σ)) (option : CommandOption σ) :
    List Char → Except UsageError (List (CommandOption σ) × ClusterEnd σ)
  | [] =>
    if option.effect.takesValue then .ok ([], .valued option [])
    else .error (.unwantedValue option.name "")
  | c :: rest =>
    if option.effect.takesValue then .ok ([], .valued option (c :: rest))
    else
      match Argument.optionOf? options ['-', c], rest with
      | none, rest => .error (.unwantedValue option.name (String.ofList (c :: rest)))
      | some next, [] => .ok ([option], .open next)
      | some next, letters =>
        (cluster options next letters).map fun (flags, ending) => (option :: flags, ending)

/-- The options that an argument holds, and how they end. -/
def parts (options : List (CommandOption σ)) (written : WrittenOption σ) :
    Except UsageError (List (CommandOption σ) × ClusterEnd σ) :=
  match written.attached with
  | none => .ok ([], .open written.option)
  | some attached =>
    if written.option.effect.takesValue then .ok ([], .valued written.option attached)
    else
      match written.spelling with
      | _ :: '-' :: _ =>
        .error (.unwantedValue written.option.name (String.ofList attached))
      | _ => cluster options written.option attached

end WrittenOption

namespace Argument

variable {σ : Type}

/-- Applies options without values one after the other. -/
def applyAll (options : List (CommandOption σ)) (settings : σ) : Except Interruption σ :=
  options.foldlM (fun settings option => option.apply settings) settings

/--
Lets arguments take effect in their order: options change the settings, and the words become the
operand or are of no use.
-/
def interpret (options : List (CommandOption σ)) (form : OperandForm) (settings : σ)
    (operands : Operands) : List (Argument σ) → Except Interruption (σ × Operands)
  | [] => .ok (settings, operands)
  | ⟨text, .unknown⟩ :: rest =>
    interpret options form settings { operands with extras := operands.extras ++ [text] } rest
  | ⟨text, .word⟩ :: rest =>
    match form, operands.words, rest with
    | .subcommand, none, _ =>
      .ok (settings, { operands with words := some (text :: rest.map (·.text)) })
    | .required _, none, ⟨_, .separator⟩ :: rest =>
      interpret options form settings { operands with words := some [text] } rest
    | .required _, none, rest =>
      interpret options form settings { operands with words := some [text] } rest
    | _, _, rest =>
      interpret options form settings { operands with extras := operands.extras ++ [text] } rest
  | ⟨text, .separator⟩ :: rest =>
    match form, operands.words, rest with
    | .subcommand, none, ⟨_, .word⟩ :: _ =>
      .ok (settings, { operands with words := some (text :: rest.map (·.text)) })
    | .required _, none, ⟨word, .word⟩ :: rest =>
      interpret options form settings { operands with words := some [word] } rest
    | _, _, rest =>
      interpret options form settings { operands with extras := operands.extras ++ [text] } rest
  | ⟨_, .option written⟩ :: rest => do
    let (flags, ending) ← (written.parts options).mapError .error
    match ending, rest with
    | .valued option attached, rest =>
      let settings ← applyAll flags settings
      let settings ← option.applyTo (attachedValue? attached) settings
      interpret options form settings operands rest
    | .open option, ⟨value, .word⟩ :: rest =>
      if option.effect.takesValue then
        let settings ← applyAll flags settings
        let settings ← option.applyTo (some value) settings
        interpret options form settings operands rest
      else
        let settings ← applyAll (flags ++ [option]) settings
        interpret options form settings operands (⟨value, .word⟩ :: rest)
    | .open option, rest =>
      if option.effect.takesValue then .error (.error (.missingValue option.name))
      else
        let settings ← applyAll (flags ++ [option]) settings
        interpret options form settings operands rest

end Argument

/-- What can be said to a command. -/
structure CommandGrammar (σ : Type) where
  /-- How the command is used. -/
  usage : Usage
  /-- The options of the command. -/
  options : List (CommandOption σ)
  /-- What the command does with words. -/
  form : OperandForm

namespace CommandGrammar

variable {σ : Type}

/-- Reads the arguments of a command: its settings from given ones on, and its operands. -/
def read (grammar : CommandGrammar σ) (settings : σ) (args : List String) :
    Except Interruption (σ × Operands) := do
  let classified ← (Argument.classify grammar.options args).mapError .error
  let (settings, operands) ←
    Argument.interpret grammar.options grammar.form settings {} classified
  match grammar.form, operands.words with
  | .required name, none => .error (.error (.missingOperand name))
  | _, _ => return (settings, operands)

end CommandGrammar
end ChocoLang
