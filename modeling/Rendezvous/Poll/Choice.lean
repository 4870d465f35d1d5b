import Rendezvous.Calendar.Label
import Rendezvous.Calendar.Iso
import Rendezvous.Recurrence.Expand

/-!
Contract: the choices of a poll.

Owns: `Choice`, a day under a name and a label, and the choices for the selected
days of a range, which are named by their place.
-/

namespace Rendezvous.Poll

/-- A day that can be voted for. -/
structure Choice where
  id : Text
  date : Text
  label : Text
deriving DecidableEq, Repr

namespace Choice

/-- The name of a choice that was given none. -/
def defaultId (suffix : Text) : Text :=
  "date-".toList ++ suffix

/-- The choice for a written day; an empty name counts as none. -/
def ofDate (date : Text) (id : Option Text) : Result Choice := do
  let day ← Day.ofIso date
  let chosen :=
    match id with
    | some (c :: rest) => c :: rest
    | _ => defaultId date
  return ⟨chosen, date, day.label⟩

/-- Choices for written days, named by their place from `index` on. -/
def enumerate (index : Nat) : List Text → Result (List Choice)
  | [] => .ok []
  | date :: rest => do
      let choice ← ofDate date (some (defaultId (Text.ofNat index)))
      return choice :: (← enumerate (index + 1) rest)

/-- The choices for the selected days of a range. -/
def ofRange (start stop : Day) (selector : Selector) : Result (List Choice) := do
  enumerate 0 (← Recurrence.datesOn start stop selector)

end Choice

end Rendezvous.Poll
