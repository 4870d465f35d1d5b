import Rendezvous.Text.Quoted

/-!
Contract: the causes for which a computation on calendars and texts has no result.

Owns:
- one constructor for each cause, with the values that describe it;
- the kind under which a cause is reported (`Fault.kind`), several causes sharing one;
- the wording of the causes that have one (`Fault.message?`).

Does not own: defects of a structured document (`Rendezvous.Json.Defect`) or of
its contents (`Rendezvous.Schema.Issue`).
-/

namespace Rendezvous

/-- Why a computation has no result. -/
inductive Fault where
  /-- A year outside 1 to 9999. -/
  | yearOutOfRange (year : Int)
  /-- A month outside 1 to 12. -/
  | monthOutOfRange
  /-- A day that its month does not have. -/
  | dayOutOfMonth
  /-- An hour, a minute or a second that clocks do not show. -/
  | hourOutOfRange
  | minuteOutOfRange
  | secondOutOfRange
  /-- A time zone a whole day or more from the prime meridian. -/
  | zoneTooFar (microseconds : Int)
  /-- A text that has none of the shapes of a written day or moment. -/
  | malformedDay (text : Text)
  /-- A day or moment before the first or after the last of the calendar. -/
  | outOfCalendar
  /-- A whole number with more digits than are read. -/
  | numeralTooLong (digits : Nat)
  /-- Values that stand inside one another too deeply. -/
  | nestedTooDeeply
  /-- A text that should be a whole number. -/
  | malformedInteger (text : Text)
  /-- Something other than a number where a whole number should be. -/
  | notANumber
  /-- A value that stands for no number at all. -/
  | notNumeric
  /-- A word that a phrase admits and the dictionary does not list. -/
  | unlistedWord
  /-- Moments with and without a time zone have no order. -/
  | incomparableMoments
  /-- A count of months too large to split into years and months. -/
  | unsplittableMonths
  /-- There is no latest event to speak of. -/
  | noLatestEvent
  /-- A number that is not finite where the document format has finite numbers only. -/
  | unwritableNumber
  /-- A text with half of a surrogate pair, which no byte sequence encodes. -/
  | unwritableText
  /-- An answer that has such a text. -/
  | unwritableAnswer
deriving DecidableEq, Repr

namespace Fault

/-- Whole numbers are read up to this many digits. -/
def digitLimit : Nat := 4300

/-- Texts that are no whole numbers are shown up to this many characters, marks
included. -/
def shownLength : Nat := 200

/-- The kind under which a cause is reported. -/
def kind : Fault → Text
  | yearOutOfRange _ | monthOutOfRange | dayOutOfMonth | hourOutOfRange | minuteOutOfRange
  | secondOutOfRange | zoneTooFar _ | malformedDay _ | numeralTooLong _ | malformedInteger _
  | notANumber | unwritableNumber => "ValueError".toList
  | outOfCalendar => "OverflowError".toList
  | unlistedWord => "KeyError".toList
  | incomparableMoments | unsplittableMonths | notNumeric => "TypeError".toList
  | noLatestEvent => "AttributeError".toList
  | nestedTooDeeply => "RecursionError".toList
  | unwritableText => "UnicodeEncodeError".toList
  | unwritableAnswer => "PydanticSerializationError".toList

/-- A number with its name, unless it is zero. -/
def namedUnlessZero (name : Text) (value : Int) : Text :=
  if value = 0 then [] else ", ".toList ++ name ++ '=' :: Text.ofInt value

/-- A duration other than zero, in days and in the seconds and microseconds of a day. -/
def showDuration (microseconds : Int) : Text :=
  let inDay := microseconds.emod 86400000000
  (namedUnlessZero "days".toList (microseconds.ediv 86400000000)
    ++ namedUnlessZero "seconds".toList (inDay.ediv 1000000)
    ++ namedUnlessZero "microseconds".toList (inDay.emod 1000000)).drop 2

/-- The wording of a cause, for the causes that have one. -/
def message? : Fault → Option Text
  | yearOutOfRange year =>
      some ("year ".toList ++ Text.ofInt year ++ " is out of range".toList)
  | monthOutOfRange => some "month must be in 1..12".toList
  | dayOutOfMonth => some "day is out of range for month".toList
  | hourOutOfRange => some "hour must be in 0..23".toList
  | minuteOutOfRange => some "minute must be in 0..59".toList
  | secondOutOfRange => some "second must be in 0..59".toList
  | zoneTooFar microseconds =>
      some ("offset must be a timedelta strictly between -timedelta(hours=24) and ".toList
        ++ "timedelta(hours=24), not datetime.timedelta(".toList
        ++ showDuration microseconds ++ ").".toList)
  | malformedDay text => some ("Invalid isoformat string: ".toList ++ text.quoted)
  | numeralTooLong digits =>
      some ("Exceeds the limit (".toList ++ Text.ofNat digitLimit
        ++ " digits) for integer string conversion: value has ".toList
        ++ Text.ofNat digits
        ++ " digits; use sys.set_int_max_str_digits() to increase the limit".toList)
  | malformedInteger text =>
      some ("invalid literal for int() with base 10: ".toList ++ text.quoted.take shownLength)
  | notANumber => some "cannot convert float NaN to integer".toList
  | unwritableNumber => some "Out of range float values are not JSON compliant".toList
  | outOfCalendar | unlistedWord | incomparableMoments | unsplittableMonths | notNumeric
  | noLatestEvent | nestedTooDeeply | unwritableText | unwritableAnswer => none

end Fault

/-- A result, or the reason why there is none. -/
abbrev Result (α : Type) := Except Fault α

namespace Text

/-- The whole number that a run of digits writes, if it is not too long to be read. -/
def readDigits (digits : Text) : Result Nat :=
  if digits.length ≤ Fault.digitLimit then .ok (digitsValue digits)
  else .error (.numeralTooLong digits.length)

end Text

end Rendezvous
