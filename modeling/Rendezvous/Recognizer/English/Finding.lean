import Rendezvous.Recognizer.Basic
import Rendezvous.Recognizer.English.Reckon

/-!
Contract: the pieces of a text that name a date or a time in English.

Owns:
- `Finding`, a piece of a text in one of the forms of the grammar, with its kind;
- the findings of a text from left to right: after each one the search goes on behind
  it, and of the forms that occur in what is left the leftmost counts;
- the runs of findings with nothing but blanks between them.  A run names a moment
  unless it has modifiers only.

Places are found in the text as it is cleaned, and pieces are shown as they stand in
the text as it is given.
-/

namespace Rendezvous.English

open Pattern

/-- The kind of a finding. -/
inductive FindingKind where
  | modifier
  | date
  | time
  | quantity
deriving DecidableEq, Repr

/-- The digit that stands for a kind behind a preposition. -/
def FindingKind.digit : FindingKind → Char
  | .modifier => '0'
  | .date => '1'
  | .time => '2'
  | .quantity => '3'

/-- A piece of a text in one of the forms of the grammar. -/
structure Finding where
  kind : FindingKind
  start : Nat
  stop : Nat
  text : Text
deriving DecidableEq, Repr

namespace Finding

/-! ## What a form finds -/

/-- The whole of a match. -/
def ofMatch (kind : FindingKind) (form : Form) (rest : Text) : Option Finding :=
  (form.search rest).map fun found => ⟨kind, found.start, found.stop, matched rest found⟩

/-- A quantity in a form, unless it is the number of a day with its suffix. -/
def ofQuantity (form : Form) (rest : Text) : Option Finding := do
  let found ← form.search rest
  let quantity ← found.capture? .quantity
  if isOrdinal rest found then none
  else some ⟨.quantity, quantity.start, quantity.stop, quantity.text⟩

/-- The date in a match. -/
def ofDate (form : Form) (rest : Text) : Option Finding := do
  let date ← (← form.search rest).capture? .date
  return ⟨.date, date.start, date.stop, date.text⟩

/-- A time of day with its half, from the hours on. -/
def ofHalfDay (rest : Text) : Option Finding := do
  let found ← halfDayForm.search rest
  let hours ← found.capture? .hours
  let half ← found.capture? .half
  return ⟨.time, hours.start, half.stop, (rest.take half.stop).drop hours.start⟩

/-- A time of day on a clock of twenty-four hours. -/
def ofClock (rest : Text) : Option Finding := do
  let (start, stop) := clockSpan (← clockForm.search rest)
  return ⟨.time, start, stop, (rest.take stop).drop start⟩

/-- A unit at the beginning, blanks aside. -/
def ofUnit (rest : Text) : Option Finding := do
  let found ← ofMatch .quantity unitForm rest
  if Text.isAllBlank (rest.take found.start) then some found else none

/-! ## The leftmost finding -/

/-- A finding in what is left behind a position, as a finding in the whole text. -/
def shift (finding : Finding) (position : Nat) : Finding :=
  { finding with start := finding.start + position, stop := finding.stop + position }

/-- Of two findings the one that begins further left, the first one if they begin
together. -/
def leftmost (first : Option Finding) (second : Option Finding) : Option Finding :=
  match first, second with
  | none, found => found
  | some found, none => some found
  | some found, some other => if other.start < found.start then some other else some found

/-- Take a hyphen before a quantity as its sign.  The hyphen is looked for in the whole
text, at the place that the quantity has in what is left of it. -/
def withSign (text : Text) (position : Nat) (finding : Finding) : Finding :=
  let place := finding.start - position
  if 0 < place ∧ text[place - 1]? = some '-' then
    { finding with start := finding.start - 1, text := '-' :: finding.text }
  else finding

/-- The leftmost finding behind a position in a text; a unit alone counts behind a
modifier. -/
def leftmostIn (text : Text) (position : Nat) (behindModifier : Bool) : Option Finding :=
  let rest := text.drop position
  let place (finding : Option Finding) : Option Finding := finding.map (·.shift position)
  let quantity (before : Option Finding) (form : Form) : Option Finding :=
    match before, place (ofQuantity form rest) with
    | some found, some other =>
        if other.start < found.start then some (other.withSign text position) else before
    | none, some other => some (other.withSign text position)
    | _, none => before
  let modifier := place (ofMatch .modifier modifierForm rest)
  let quantities := quantity (quantity modifier quantityForm) shortQuantityForm
  let others := [
    ofDate wordyDateForm rest, ofDate numericDateForm rest,
    ofMatch .date dayWordForm rest, ofMatch .date weekdayForm rest,
    ofMatch .time hourWordForm rest, ofHalfDay rest, ofClock rest,
    if behindModifier then ofUnit rest else none]
  (others.map place).foldl leftmost quantities

/-- Let a finding begin with the preposition before it, if it is one for its kind. -/
def withPreposition (text : Text) (finding : Finding) : Finding :=
  if finding.kind = .modifier then finding
  else
    let before := text.take finding.start ++ [' ', finding.kind.digit]
    match (prepositionForm.search before).bind fun found => found.capture? .opening with
    | none => finding
    | some opening =>
        { finding with
          start := opening.start, text := (text.take finding.stop).drop opening.start }

/-- The findings of a text behind a position; `fuel` bounds their number. -/
def allFrom (text : Text) : Nat → Nat → Bool → List Finding
  | 0, _, _ => []
  | fuel + 1, position, behindModifier =>
      if text.length ≤ position then []
      else
        match leftmostIn text position behindModifier with
        | none => []
        | some found =>
            found.withPreposition text ::
              allFrom text fuel found.stop (found.kind = .modifier)

/-- The findings of a text, from left to right. -/
def all (text : Text) : List Finding :=
  allFrom text text.length 0 false

end Finding

/-! ## Runs of findings -/

/-- Whether two findings have only blanks between them. -/
def adjoin (text : Text) (before behind : Finding) : Bool :=
  Text.isAllBlank ((text.take behind.start).drop before.stop)

/-- Divide findings into runs with only blanks between neighbours. -/
def runs (text : Text) : List Finding → List (List Finding)
  | [] => []
  | finding :: others =>
      match runs text others with
      | [] => [[finding]]
      | [] :: further => [finding] :: further
      | (next :: run) :: further =>
          if adjoin text finding next then (finding :: next :: run) :: further
          else [finding] :: (next :: run) :: further

/-- A text as its findings are looked for: with blanks for points behind words and for
marks around them, and in lower case. -/
def clean (text : Text) : Text :=
  blankMarks (Text.lower (replacePoints [' '] text))

/-- The mention that a piece of a text makes, with a phrase that is reckoned for it. -/
def mentionOf (text phrase : Text) (start stop : Nat) (now : Moment) : Result Mention := do
  let reckoning ← reckon phrase (.ofMoment now)
  return {
    text := (text.take stop).drop start
    start := start
    stop := stop
    value := ← reckoning.stamp.toMoment
    hasDate := reckoning.evidence.date
    hasTime := reckoning.evidence.time }

/-- The mention that a run of findings makes. -/
def mentionOfRun (text : Text) (now : Moment) (run : List Finding) : Result (Option Mention) :=
  match run.head?, run.getLast? with
  | some first, some last =>
      if run.all fun finding => finding.kind = .modifier then .ok none
      else
        some <$> mentionOf text ((text.take last.stop).drop first.start) first.start last.stop now
  | _, _ => .ok none

/-- The mentions of dates and times in a text, in order.  A finding that is the only
one in its text is reckoned as it was found, and runs are reckoned as they stand. -/
def mentions (text : Text) (now : Moment) : Result (List Mention) :=
  match Finding.all (clean text) with
  | [only] =>
      if only.kind = .modifier then .ok []
      else do return [← mentionOf text only.text only.start only.stop now]
  | findings => do
      return (← (runs text findings).mapM (mentionOfRun text now)).filterMap id

end Rendezvous.English
