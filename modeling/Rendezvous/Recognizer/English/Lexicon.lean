import Rendezvous.Calendar.Moment

/-!
Contract: the English words for dates and times, and what they stand for.

Owns: the dictionaries of number words, units, months, weekdays, days, times of day
and modifiers.  The keys are in lower case; a word that an expression admits in
another form, as with a long s, is in no dictionary.
-/

namespace Rendezvous.English

/-- What a word stands for. -/
abbrev Dictionary (α : Type) := List (String × α)

/-- Look a word up. -/
def Dictionary.find? {α : Type} (dictionary : Dictionary α) (word : Text) : Option α :=
  (List.find? (fun entry => entry.1.toList == word) dictionary).map (·.2)

/-- Look a word up that has to be listed. -/
def Dictionary.get {α : Type} (dictionary : Dictionary α) (word : Text) : Result α :=
  match dictionary.find? word with
  | some value => .ok value
  | none => .error .unlistedWord

/-- The words for numbers; there is none for twelve. -/
def numberWords : Dictionary Nat := [
  ("zero", 0), ("one", 1), ("a", 1), ("an", 1), ("two", 2), ("three", 3), ("four", 4),
  ("five", 5), ("six", 6), ("seven", 7), ("eight", 8), ("nine", 9), ("ten", 10),
  ("eleven", 11), ("thirteen", 13), ("fourteen", 14), ("fifteen", 15), ("sixteen", 16),
  ("seventeen", 17), ("eighteen", 18), ("nineteen", 19), ("twenty", 20)]

/-- A unit of time. -/
inductive TimeUnit where
  | second
  | minute
  | hour
  | day
  | week
  | month
  | year
deriving DecidableEq, Repr

/-- The words for units. -/
def units : Dictionary TimeUnit := [
  ("second", .second), ("seconds", .second), ("sec", .second), ("secs", .second),
  ("s", .second),
  ("minute", .minute), ("minutes", .minute), ("min", .minute), ("mins", .minute),
  ("m", .minute),
  ("hour", .hour), ("hours", .hour), ("hr", .hour), ("h", .hour),
  ("day", .day), ("days", .day), ("dy", .day), ("d", .day),
  ("week", .week), ("weeks", .week), ("wk", .week), ("w", .week),
  ("month", .month), ("months", .month), ("mth", .month),
  ("year", .year), ("years", .year), ("yr", .year), ("y", .year)]

/-- The words for months, January being 1. -/
def months : Dictionary Nat := [
  ("january", 1), ("february", 2), ("march", 3), ("april", 4), ("may", 5), ("june", 6),
  ("july", 7), ("august", 8), ("september", 9), ("october", 10), ("november", 11),
  ("december", 12), ("jan", 1), ("feb", 2), ("mar", 3), ("apr", 4), ("jun", 6), ("jul", 7),
  ("aug", 8), ("sep", 9), ("oct", 10), ("nov", 11), ("dec", 12)]

/-- The words for weekdays, counted from Monday. -/
def weekdays : Dictionary Nat := [
  ("monday", 0), ("tuesday", 1), ("wednesday", 2), ("thursday", 3), ("friday", 4),
  ("saturday", 5), ("sunday", 6), ("mon", 0), ("tues", 1), ("tue", 1), ("wed", 2),
  ("thu", 3), ("fri", 4), ("sat", 5), ("sun", 6)]

/-- The words for days next to today, as numbers of days from today. -/
def dayWords : Dictionary Int := [("tomorrow", 1), ("today", 0), ("yesterday", -1)]

/-- The hour at which days end. -/
def closingHour : Fin 24 := ⟨17, by decide⟩

/-- The words for times of day, with their hour. -/
def hoursOfDay : Dictionary (Fin 24) := [
  ("noon", ⟨12, by decide⟩), ("afternoon", ⟨13, by decide⟩), ("lunch", ⟨12, by decide⟩),
  ("morning", ⟨6, by decide⟩), ("breakfast", ⟨8, by decide⟩), ("dinner", ⟨19, by decide⟩),
  ("evening", ⟨18, by decide⟩), ("midnight", ⟨0, by decide⟩), ("night", ⟨21, by decide⟩),
  ("tonight", ⟨21, by decide⟩), ("eod", closingHour)]

/-- The words that modify what stands around them, with the direction they point in. -/
def modifiers : Dictionary Int := [
  ("from", 1), ("before", -1), ("after", 1), ("ago", -1), ("prior", -1), ("prev", -1),
  ("last", -1), ("next", 1), ("previous", -1), ("end of", 0), ("this", 0), ("eod", 1),
  ("eom", 1), ("eoy", 1)]

/-- The modifiers that choose a weekday by its week; the others count from a weekday. -/
def weekModifiers : List String := ["this", "next", "last", "prior", "previous"]

/-- The words for the present moment. -/
def presentWords : List String := ["now", "right now"]

/-- The halves of the day before and after noon. -/
def halves : Dictionary Bool := [
  ("am", false), ("a", false), ("a.m.", false), ("pm", true), ("p", true), ("p.m.", true)]

end Rendezvous.English
