import Forage.Cell
import Forage.Opcode
import Forage.Text.Quoted
import Forage.Text.Utf8

/-!
# Faults

Every way in which a request can fail, by its cause. Each fault has a kind, and
those that stem from what the user wrote have a wording.
-/

namespace Forage

/-- The broad kinds of fault, by which a caller decides what to do. -/
inductive FaultKind where
  /-- The request is at odds with a rule that can be explained. -/
  | invalid
  | unpackable
  | unencodable
  /-- A value of the wrong shape stands where a rule cannot even be applied. -/
  | shape
  /-- A value lacks the part that is asked of it. -/
  | lackingPart
  | missingKey
  | overflow
  | outOfRange
  | tooDeep
  | unavailable
  | fileExists
  | fileMissing
  | notDirectory
  | isDirectory
  | memory
  | disk
  /-- Something is said to be where nothing can be. -/
  | misplaced
deriving DecidableEq, Repr

inductive LogDefect where
  | empty
  | short (size : Nat)
  | noMagic
  /-- The file is shorter than the end of it says. -/
  | cut (size claimed : Nat)
deriving DecidableEq, Repr

inductive Fault where
  | emptyTape
  | unknownOpcode (name : String)
  | tapeTooShort
  | unknownVocabulary (shown : String)
  | vocabularyNeeded
  | notInteger (name : String)
  | outside (name : String) (least greatest : Int)
  | belowLeast (name : String) (least : Int)
  | foreignOpcode
  | fixedParameters (names : List String)
  | emptyRange
  | offField (cell : Cell)
  | noOpcode (pointer : Int)
  | nothingAt (number : Int)
  | offPicture (cell : Cell)
  | unknownEscape (point : Text.Point) (template : String)
  | danglingEscape
  | numberOutsideWord
  | numberOutsideLong
  | recordFileClosed (path : String)
  | notBoolean (key : String)
  | notWhole (key : String)
  | notWholeText (key : String) (shown : String)
  | notText (key : String)
  | notNumeral (text : String)
  | tooManyDigits (count : Nat)
  /-- A whole number has too many digits to be written. -/
  | numberTooLong
  | notANumber
  | undecodable (stretch : Text.Undecodable)
  | unencodable (stretch : Text.Unencodable)
  | nestedTooDeeply
  | syntaxFault (description : String)
  | configMissing (path : String)
  | configSyntax (path : String) (description : String)
  | configNotObject (path : String)
  | noMetadata
  | noPattern (item : String)
  | noRecordPath (item : String)
  | escapesBase (path : String)
  | noSeries
  | unknownSeries (names : List String)
  | emptyLog
  | unknownEnding (ending : String) (known : List String)
  | negativeStep
  | notALog (path : String) (defect : LogDefect)
  /-- The first of several files is no log, so the columns are not known. -/
  | noColumns (path : String) (defect : LogDefect)
  | nulInLogPath (path : String)
  | unknownStorage (locator : String)
  | noBucket (service : String)
  | unreachable
  /-- The end of a file is that of a log, but what is before it is not. -/
  | brokenLog
  | negativeExtent
  | hugeExtent
  | hugePicture
  | noRoom
  | noTypesetter
  | wrongShape
  | lackingPart
  | missingKey
  | tooLarge
  | nulInPath
  | nameTooLong
  | fileExists
  | fileMissing
  | notDirectory
  | isDirectory
deriving DecidableEq, Repr

namespace Fault

def listed (names : List String) : String :=
  ", ".intercalate names

/-- The kind of a fault: a fault without a kind of its own is an invalid request. -/
def kind : Fault → FaultKind
  | numberOutsideWord | numberOutsideLong => .unpackable
  | unencodable _ => .unencodable
  | wrongShape => .shape
  | lackingPart => .lackingPart
  | missingKey => .missingKey
  | tooLarge => .overflow
  | noOpcode _ | nothingAt _ | offPicture _ => .outOfRange
  | nestedTooDeeply => .tooDeep
  | noTypesetter => .unavailable
  | noRoom => .memory
  | fileExists => .fileExists
  | fileMissing => .fileMissing
  | notDirectory => .notDirectory
  | isDirectory => .isDirectory
  | nameTooLong | brokenLog | unreachable => .disk
  | unknownStorage _ | noBucket _ => .misplaced
  | _ => .invalid

end Fault

def LogDefect.message : LogDefect → String
  | empty => "Parquet file size is 0 bytes"
  | short size =>
      s!"Parquet file size is {size} bytes, smaller than the minimum file footer (8 bytes)"
  | noMagic =>
      "Parquet magic bytes not found in footer. Either the file is corrupted or this is not a parquet file."
  | cut size claimed =>
      s!"Parquet file size is {size} bytes, smaller than the size reported by footer's ({claimed}bytes)"

def Text.Utf8Defect.message : Text.Utf8Defect → String
  | start => "invalid start byte"
  | continuation => "invalid continuation byte"
  | truncated => "unexpected end of data"

def Text.stretchOf (start stop : Nat) (one several : String) : String :=
  if stop = start + 1 then s!"{one} in position {start}"
  else s!"{several} in position {start}-{stop - 1}"

def Text.Undecodable.message (stretch : Text.Undecodable) : String :=
  let byte := "byte 0x" ++ String.ofList (Text.hexDigits 2 stretch.first.toNat)
  let shown := Text.stretchOf stretch.start stretch.stop byte "bytes"
  s!"'utf-8' codec can't decode {shown}: {stretch.defect.message}"

def Text.Unencodable.message (stretch : Text.Unencodable) : String :=
  let half := "character " ++ Text.quoted (Text.ofPoints [.half stretch.first])
  let shown := Text.stretchOf stretch.start stretch.stop half "characters"
  s!"'utf-8' codec can't encode {shown}: surrogates not allowed"

namespace Fault

/-- The wording of a fault; faults of shape and of files have none. -/
def message : Fault → String
  | emptyTape => "program must contain at least one command"
  | unknownOpcode name =>
      s!"unknown command {Text.quoted name}; expected one of {listed (Opcode.all.map Opcode.name)}"
  | tapeTooShort => "length must be >= 1"
  | unknownVocabulary shown => s!"{shown} is not a valid CommandSet"
  | vocabularyNeeded =>
      s!"command-set must be one of {listed (Vocabulary.all.map Vocabulary.name)}"
  | notInteger name => s!"{name} must be an integer"
  | outside name least greatest => s!"{name} must be in [{least}, {greatest}]"
  | belowLeast name least => s!"{name} must be >= {least}"
  | foreignOpcode => "initial_program must contain only Command values"
  | fixedParameters names => s!"parameters cannot be changed during a run: {listed names}"
  | emptyRange => "empty range for randrange()"
  | offField cell => s!"cell ({cell.x}, {cell.y}) lies outside the field"
  | unknownEscape point template =>
      s!"Unknown escape code {point.code} (character {Text.quoted (Text.ofPoints [point])}) " ++
        s!"in pattern {Text.quoted template}. " ++
        "Supported codes: %P %D %G %F %p %d %g %f %% %n %r"
  | danglingEscape =>
      "Pattern must not end with the escape character (%). Use %% for a percent sign."
  | numberOutsideWord => "'i' format requires -2147483648 <= number <= 2147483647"
  | numberOutsideLong => "argument out of range"
  | recordFileClosed path => s!"statistics file {path} is closed"
  | notBoolean key => s!"{key} must be a boolean value"
  | notWhole key => s!"{key} must be an integer value"
  | notWholeText key shown => s!"{key} must be an integer value, got {shown}"
  | notText key => s!"{key} must be a string-coercible value"
  | notNumeral text =>
      "invalid literal for int() with base 10: " ++
        String.ofList ((Text.quotedChars text.toList).take 200)
  | tooManyDigits count =>
      s!"Exceeds the limit (4300 digits) for integer string conversion: value has {count} digits; " ++
        "use sys.set_int_max_str_digits() to increase the limit"
  | numberTooLong =>
      "Exceeds the limit (4300 digits) for integer string conversion; " ++
        "use sys.set_int_max_str_digits() to increase the limit"
  | notANumber => "cannot convert float NaN to integer"
  | undecodable stretch => stretch.message
  | unencodable stretch => stretch.message
  | syntaxFault description => description
  | configMissing path => s!"Config file not found: {path}"
  | configSyntax path description => s!"Config file is not valid JSON: {path}: {description}"
  | configNotObject path => s!"Config file must contain a JSON object: {path}"
  | noMetadata => "run payload has no metadata object"
  | noPattern item => s!"Expected PATH=PATTERN format, got: {item}"
  | noRecordPath item => s!"stats-file path must not be empty: {item}"
  | escapesBase path => s!"Path escapes base_dir: {path}"
  | noSeries => "--series must name at least one column"
  | unknownSeries names => s!"unknown series: {listed names}"
  | emptyLog => "population log is empty"
  | unknownEnding ending known =>
      s!"Format {Text.quoted ending} is not supported (supported formats: {listed known})"
  | negativeStep => "--step must be >= 0"
  | notALog path defect => s!"Could not open Parquet input source '{path}': {defect.message}"
  | noColumns path defect =>
      s!"Error creating dataset. Could not read schema from '{path}'. Is this a 'parquet' file?: " ++
        s!"Could not open Parquet input source '{path}': {defect.message}"
  | nulInLogPath path => s!"Embedded NUL char in path: '{path}'"
  | unknownStorage locator => s!"Unrecognized filesystem type in URI: {locator}"
  | noBucket service => s!"Missing bucket name in {service} URI"
  | nulInPath => "embedded null byte"
  | negativeExtent => "negative dimensions are not allowed"
  | hugeExtent => "Maximum allowed dimension exceeded"
  | hugePicture =>
      "array is too big; `arr.size * arr.dtype.itemsize` is larger than the maximum possible size."
  | _ => ""

end Fault

end Forage
