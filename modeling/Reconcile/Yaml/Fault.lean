import Reconcile.Text.Quoted

/-!
# Faults of YAML documents

Why a text gives no value. Most faults mean that the text is no YAML document; a few scalars are
written as a number, a truth value or a date and are none, which breaks the reading off.
-/

namespace Reconcile.Yaml

/-- What is wrong with a text that is no YAML document. -/
inductive Cause where
  | unprintableCharacter
  | unexpectedCharacter
  | unexpectedEnd
  | keyWithoutValue
  | misplacedIndicator
  | badDirective
  | badName
  | badTag
  | badEscape
  | badBlockScalar
  | documentInScalar
  | unexpectedToken
  | severalDocuments
  | undefinedAlias
  | duplicateAnchor
  | unknownTag
  | wrongKind
  | badMerge
  | unhashableKey
  | unfinishedNode
  | badBytes
  deriving DecidableEq, Repr

def Cause.message : Cause → String
  | .unprintableCharacter => "special characters are not allowed"
  | .unexpectedCharacter => "found a character that cannot start any token"
  | .unexpectedEnd => "found unexpected end of stream"
  | .keyWithoutValue => "could not find expected ':'"
  | .misplacedIndicator => "an indicator is not allowed here"
  | .badDirective => "found a directive that is not understood"
  | .badName => "expected a name of letters and digits"
  | .badTag => "expected a tag"
  | .badEscape => "found unknown escape character"
  | .badBlockScalar => "expected an indicator of a block scalar"
  | .documentInScalar => "found unexpected document separator"
  | .unexpectedToken => "expected another token"
  | .severalDocuments => "expected a single document in the stream"
  | .undefinedAlias => "found undefined alias"
  | .duplicateAnchor => "found duplicate anchor"
  | .unknownTag => "could not determine a constructor for the tag"
  | .wrongKind => "expected a node of another kind"
  | .badMerge => "expected a mapping or a list of mappings for merging"
  | .unhashableKey => "found unhashable key"
  | .unfinishedNode => "found unconstructable recursive node"
  | .badBytes => "failed to decode base64 data"

/-- What is wrong with a scalar that is written as a value it does not have. -/
inductive ScalarFault where
  | notAnInteger (text : String) (base : Nat)
  | tooManyDigits (digits : Nat)
  | notAFloat (text : String)
  | notATruthValue (text : String)
  | emptyNumber
  | notATimestamp
  | yearOutOfRange (year : Nat)
  | monthOutOfRange
  | dayOutOfRange
  | hourOutOfRange
  | minuteOutOfRange
  | secondOutOfRange
  | zoneOutOfRange (shown : String)
  | codeOutOfRange
  | codeTooLarge
  deriving DecidableEq, Repr

/-- The most characters that are shown of a text that is no integer. -/
def shownLength : Nat := 200

/-- The beginning of a quoted text. -/
def quotedStart (text : String) : String :=
  String.ofList ((Text.quoted text).toList.take shownLength)

def ScalarFault.message : ScalarFault → String
  | .notAnInteger text base =>
    s!"invalid literal for int() with base {base}: " ++ quotedStart text
  | .tooManyDigits digits =>
    s!"Exceeds the limit (4300 digits) for integer string conversion: value has {digits} " ++
      "digits; use sys.set_int_max_str_digits() to increase the limit"
  | .notAFloat text => "could not convert string to float: " ++ Text.quoted text
  | .notATruthValue text => Text.quoted text
  | .emptyNumber => "string index out of range"
  | .notATimestamp => "'NoneType' object has no attribute 'groupdict'"
  | .yearOutOfRange year => s!"year {year} is out of range"
  | .monthOutOfRange => "month must be in 1..12"
  | .dayOutOfRange => "day is out of range for month"
  | .hourOutOfRange => "hour must be in 0..23"
  | .minuteOutOfRange => "minute must be in 0..59"
  | .secondOutOfRange => "second must be in 0..59"
  | .zoneOutOfRange shown =>
    "offset must be a timedelta strictly between -timedelta(hours=24) and " ++
      "timedelta(hours=24), not " ++ shown ++ "."
  | .codeOutOfRange => "chr() arg not in range(0x110000)"
  | .codeTooLarge => "signed integer is greater than maximum"

/-- Why a text gives no value. -/
inductive Fault where
  | malformed (cause : Cause)
  | scalar (f : ScalarFault)
  deriving DecidableEq, Repr

end Reconcile.Yaml
