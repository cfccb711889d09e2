import Reconcile.Text.Quoted

/-!
# Faults of patterns

Why a text is no pattern. Most faults have a place; its line and column are told when the text
has several lines.
-/

namespace Reconcile.Pattern

/-- What is wrong with a pattern. -/
inductive Cause where
  | danglingEscape
  | incompleteEscape (escape : String)
  | badEscape (escape : String)
  | octalTooLarge (escape : String)
  | missingBrace
  | missingName (what : String)
  | unterminatedName (terminator : Char)
  | undefinedCharacter (name : String)
  | openGroup
  | groupInSameLookBehind
  | invalidGroup (index : Nat)
  | unterminatedSet
  | badRange (low high : String)
  | leastAboveMost
  | nothingToRepeat
  | multipleRepeat
  | unexpectedEnd
  | badNameCharacter (name : String)
  | unknownName (name : String)
  | unknownExtension (text : String)
  | unterminatedComment
  | unterminatedGroup
  | badGroupNumber
  | tooManyBranches
  | lateGlobalFlags
  | redefinedName (name : String) (new old : Nat)
  | localeFlag
  | incompatibleFlags
  | afterFlags
  | unknownFlag
  | globalFlagOn
  | missingFlag
  | typeFlagOff
  | missingColon
  | globalFlagOff
  | flagOnAndOff
  | unbalanced
  deriving DecidableEq, Repr

def Cause.message : Cause → String
  | .danglingEscape => "bad escape (end of pattern)"
  | .incompleteEscape e => "incomplete escape " ++ e
  | .badEscape e => "bad escape " ++ e
  | .octalTooLarge e => "octal escape value " ++ e ++ " outside of range 0-0o377"
  | .missingBrace => "missing \x7b"
  | .missingName what => "missing " ++ what
  | .unterminatedName t => "missing " ++ t.toString ++ ", unterminated name"
  | .undefinedCharacter name => "undefined character name " ++ Text.quoted name
  | .openGroup => "cannot refer to an open group"
  | .groupInSameLookBehind => "cannot refer to group defined in the same lookbehind subpattern"
  | .invalidGroup i => s!"invalid group reference {i}"
  | .unterminatedSet => "unterminated character set"
  | .badRange low high => "bad character range " ++ low ++ "-" ++ high
  | .leastAboveMost => "min repeat greater than max repeat"
  | .nothingToRepeat => "nothing to repeat"
  | .multipleRepeat => "multiple repeat"
  | .unexpectedEnd => "unexpected end of pattern"
  | .badNameCharacter name => "bad character in group name " ++ Text.quoted name
  | .unknownName name => "unknown group name " ++ Text.quoted name
  | .unknownExtension t => "unknown extension ?" ++ t
  | .unterminatedComment => "missing ), unterminated comment"
  | .unterminatedGroup => "missing ), unterminated subpattern"
  | .badGroupNumber => "bad group number"
  | .tooManyBranches => "conditional backref with more than two branches"
  | .lateGlobalFlags => "global flags not at the start of the expression"
  | .redefinedName name new old =>
    "redefinition of group name " ++ Text.quoted name ++ s!" as group {new}; was group {old}"
  | .localeFlag => "bad inline flags: cannot use 'L' flag with a str pattern"
  | .incompatibleFlags => "bad inline flags: flags 'a', 'u' and 'L' are incompatible"
  | .afterFlags => "missing -, : or )"
  | .unknownFlag => "unknown flag"
  | .globalFlagOn => "bad inline flags: cannot turn on global flag"
  | .missingFlag => "missing flag"
  | .typeFlagOff => "bad inline flags: cannot turn off flags 'a', 'u' and 'L'"
  | .missingColon => "missing :"
  | .globalFlagOff => "bad inline flags: cannot turn off global flag"
  | .flagOnAndOff => "bad inline flags: flag turned on and off"
  | .unbalanced => "unbalanced parenthesis"

/-- Why a pattern cannot be read: a cause at a place, a look-behind over parts of several widths,
    a repetition in a template, or one of the limits that are no fault of the pattern's form. -/
inductive Fault where
  | malformed (cause : Cause) (pos : Nat)
  | variableLookBehind
  | wideLookBehind
  | templateRepeat (operator : String)
  | countTooLarge
  | countTooLong (digits : Nat)
  | asciiAndUnicode
  deriving DecidableEq, Repr

/-- A fault of the pattern in words; the limits have words of their own. -/
def Fault.message (pattern : List Char) : Fault → String
  | .malformed cause pos =>
    let place := s!" at position {pos}"
    let before := pattern.take pos
    let line := before.count '\n' + 1
    let column := (before.reverse.takeWhile (· ≠ '\n')).length + 1
    cause.message ++ place ++
      (if pattern.contains '\n' then s!" (line {line}, column {column})" else "")
  | .variableLookBehind => "look-behind requires fixed-width pattern"
  | .wideLookBehind => "invalid SRE code"
  | .templateRepeat op => "internal: unsupported template operator " ++ op
  | .countTooLarge => "the repetition number is too large"
  | .countTooLong digits =>
    s!"Exceeds the limit (4300 digits) for integer string conversion: value has {digits} " ++
      "digits; use sys.set_int_max_str_digits() to increase the limit"
  | .asciiAndUnicode => "ASCII and UNICODE flags are incompatible"

end Reconcile.Pattern
