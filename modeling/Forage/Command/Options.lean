import Forage.Datum
import Forage.Text.Blank
import Forage.Text.Whole
import Forage.Text.Quoted

/-!
# Options

The words of a command line are sorted into options and values before any of them
is looked at closely. An option may be shortened as long as it stays the only one
that begins so, and its value may follow it after an equals sign or as the next
word. A word that looks like a negative number is a value, and after two dashes
standing alone everything is. Two dashes alone are never a value: an option that is
given nothing else has an empty list.
-/

namespace Forage

inductive OptionShape where
  | text
  | whole
  /-- Nothing; the option itself says yes, or no if it begins with the word for that. -/
  | switch
  /-- Nothing; the option asks how the command is used. -/
  | help
deriving DecidableEq, Repr

structure OptionRule where
  names : List String
  key : String
  shape : OptionShape
  required : Bool
deriving DecidableEq, Repr

inductive Misuse where
  | ambiguous (word : String) (names : List String)
  | noValue (names : List String)
  | notWhole (names : List String) (text : String)
  | unusedValue (names : List String) (text : String)
  | missing (names : List (List String))
  | unknownWords (words : List String)
  | noCommand
  | unknownCommand (word : String) (commands : List String)
  /-- Nothing is wrong, but nothing is to be done either: the usage was asked for. -/
  | helpWanted
deriving DecidableEq, Repr

namespace Misuse

def joined (names : List String) : String :=
  "/".intercalate names

def listed (words : List String) : String :=
  ", ".intercalate words

def message : Misuse → String
  | ambiguous word names => s!"ambiguous option: {word} could match {listed names}"
  | noValue names => s!"argument {joined names}: expected one argument"
  | notWhole names text => s!"argument {joined names}: invalid int value: {Text.quoted text}"
  | unusedValue names text =>
      s!"argument {joined names}: ignored explicit argument {Text.quoted text}"
  | missing names => s!"the following arguments are required: {listed (names.map joined)}"
  | unknownWords words => "unrecognized arguments: " ++ " ".intercalate words
  | noCommand => "the following arguments are required: command"
  | unknownCommand word commands =>
      s!"argument command: invalid choice: {Text.quoted word} " ++
        s!"(choose from {listed (commands.map Text.quoted)})"
  | helpWanted => ""

end Misuse

inductive Word where
  /-- Two dashes, after which there are only values. -/
  | dashes
  | value (text : String)
  | option (rule : OptionRule) (name : String) (joined : Option String)
  /-- A word that looks like an option but is none. -/
  | stray (text : String)
deriving DecidableEq, Repr

namespace Word

def isNegativeNumber (chars : List Char) : Bool :=
  match chars with
  | '-' :: chars =>
      let chars := if chars.getLast? = some '\n' then chars.dropLast else chars
      let rest := chars.dropWhile Text.isDecimalDigit
      match rest with
      | [] => !chars.isEmpty
      | '.' :: fraction => !fraction.isEmpty && fraction.all Text.isDecimalDigit
      | _ => false
  | _ => false

def named (rules : List OptionRule) : List (String × OptionRule) :=
  rules.flatMap fun rule => rule.names.map fun name => (name, rule)

def splitValue (text : String) : String × Option String :=
  match Text.cut '=' text.toList with
  | some (front, joined) => (String.ofList front, some (String.ofList joined))
  | none => (text, none)

/-- The options that a word may be short for, each with the value joined to it. -/
def candidates (rules : List OptionRule) (text : String) : List (String × OptionRule × Option String) :=
  if text.startsWith "--" then
    let (front, joined) := splitValue text
    (named rules).filterMap fun entry =>
      if entry.1.startsWith front then some (entry.1, entry.2, joined) else none
  else
    (named rules).filterMap fun entry =>
      if entry.1.toList = text.toList.take 2 then
        some (entry.1, entry.2, some (String.ofList (text.toList.drop 2)))
      else if entry.1.startsWith text then some (entry.1, entry.2, none)
      else none

def sortOther (text : String) : Word :=
  if isNegativeNumber text.toList || text.toList.contains ' ' then .value text else .stray text

def sort (rules : List OptionRule) (text : String) : Except Misuse Word :=
  if !text.startsWith "-" || text == "-" then .ok (.value text)
  else
    let find (name : String) := (named rules).find? fun entry => entry.1 == name
    match find text with
    | some (name, rule) => .ok (.option rule name none)
    | none =>
        let (front, joined) := splitValue text
        match joined, find front with
        | some _, some (name, rule) => .ok (.option rule name joined)
        | _, _ =>
            match candidates rules text with
            | [] => .ok (sortOther text)
            | [(name, rule, joined)] => .ok (.option rule name joined)
            | several => .error (.ambiguous text (several.map Prod.fst))

def sortAll (rules : List OptionRule) : List String → Except Misuse (List Word)
  | [] => .ok []
  | "--" :: rest => .ok (.dashes :: rest.map .value)
  | text :: rest => do
      let word ← sort rules text
      return word :: (← sortAll rules rest)

end Word

structure Given where
  settings : List (String × Datum)
  strays : List String

namespace Given

def empty : Given := ⟨[], []⟩

def add (given : Given) (key : String) (datum : Datum) : Given :=
  { given with settings := given.settings ++ [(key, datum)] }

def addStray (given : Given) (text : String) : Given :=
  { given with strays := given.strays ++ [text] }

/-- The setting of a key, the last one if it was given several times. -/
def get (given : Given) (key : String) : Option Datum :=
  Datum.lookup key given.settings

def all (given : Given) (key : String) : List Datum :=
  given.settings.filterMap fun setting => if setting.1 == key then some setting.2 else none

/-- A switch says yes unless it begins so. -/
def denial : String := "--no-"

def dashes : String := "--"

def valueOf (rule : OptionRule) (text : String) : Except Misuse Datum :=
  if text == dashes then .ok (.list [])
  else
    match rule.shape with
    | .whole =>
        match Text.readWhole text.toList with
        | .ok value => .ok (.whole value)
        | .error _ => .error (.notWhole rule.names text)
    | _ => .ok (.text text)

def takesValue (rule : OptionRule) : Bool :=
  rule.shape == .text || rule.shape == .whole

def ofSwitch (rule : OptionRule) (name : String) (joined : Option String) : Except Misuse Datum :=
  match joined with
  | none =>
      if rule.shape == .help then .error .helpWanted else .ok (.truth (!name.startsWith denial))
  | some text => .error (.unusedValue rule.names text)

def collect : Given → List Word → Except Misuse Given
  | given, [] => .ok given
  | given, .dashes :: rest => collect (given.addStray "--") rest
  | given, .value text :: rest => collect (given.addStray text) rest
  | given, .stray text :: rest => collect (given.addStray text) rest
  | given, .option rule name joined :: rest =>
      if !takesValue rule then
        match ofSwitch rule name joined with
        | .error misuse => .error misuse
        | .ok datum => collect (given.add rule.key datum) rest
      else
        match joined, rest with
        | some text, rest =>
            match valueOf rule text with
            | .error misuse => .error misuse
            | .ok datum => collect (given.add rule.key datum) rest
        | none, .value text :: rest =>
            match valueOf rule text with
            | .error misuse => .error misuse
            | .ok datum => collect (given.add rule.key datum) rest
        | none, _ => .error (.noValue rule.names)

def readLoose (rules : List OptionRule) (args : List String) : Except Misuse Given := do
  let given ← collect empty (← Word.sortAll rules args)
  let absent := rules.filter fun rule => rule.required && (given.get rule.key).isNone
  if !absent.isEmpty then throw (.missing (absent.map OptionRule.names))
  return given

def requireNoStrays (strays : List String) : Except Misuse Unit :=
  if strays.isEmpty then .ok () else .error (.unknownWords strays)

def read (rules : List OptionRule) (args : List String) : Except Misuse Given := do
  let given ← readLoose rules args
  requireNoStrays given.strays
  return given

end Given

end Forage
