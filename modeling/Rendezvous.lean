import Rendezvous.Arbiter
import Rendezvous.Ascending
import Rendezvous.Assistant.Client
import Rendezvous.Assistant.Completion
import Rendezvous.Assistant.Consultation
import Rendezvous.Assistant.Question
import Rendezvous.Assistant.Reply
import Rendezvous.Calendar.Civil
import Rendezvous.Calendar.Day
import Rendezvous.Calendar.Instant
import Rendezvous.Calendar.Iso
import Rendezvous.Calendar.Label
import Rendezvous.Calendar.Moment
import Rendezvous.Calendar.Month
import Rendezvous.Calendar.Week
import Rendezvous.Calendar.Written
import Rendezvous.Distinct
import Rendezvous.Event
import Rendezvous.Event.Decode
import Rendezvous.Event.Validation
import Rendezvous.Fault
import Rendezvous.Json.Defect
import Rendezvous.Json.Read
import Rendezvous.Json.Shown
import Rendezvous.Json.Value
import Rendezvous.Json.Write
import Rendezvous.Notice
import Rendezvous.Number.Binary64
import Rendezvous.Number.Numeral
import Rendezvous.Number.Power
import Rendezvous.Number.Shortest
import Rendezvous.Number.WholeNumeral
import Rendezvous.Pattern.Expr
import Rendezvous.Pattern.Search
import Rendezvous.Phrase.Draft
import Rendezvous.Phrase.Grammar
import Rendezvous.Phrase.Title
import Rendezvous.Poll.Choice
import Rendezvous.Poll.Preset
import Rendezvous.Proofs.Arbitration
import Rendezvous.Proofs.Ascending
import Rendezvous.Proofs.Assistant.Consultation
import Rendezvous.Proofs.Assistant.EmbeddedObject
import Rendezvous.Proofs.Assistant.LongNumber
import Rendezvous.Proofs.Assistant.RoundTrip
import Rendezvous.Proofs.Calendar.Civil
import Rendezvous.Proofs.Calendar.Day
import Rendezvous.Proofs.Calendar.Moment
import Rendezvous.Proofs.Calendar.Period
import Rendezvous.Proofs.Calendar.Written
import Rendezvous.Proofs.Distinct
import Rendezvous.Proofs.Event
import Rendezvous.Proofs.Json.Grammar
import Rendezvous.Proofs.Json.Reading
import Rendezvous.Proofs.Json.Refusal
import Rendezvous.Proofs.Json.Scalar
import Rendezvous.Proofs.Pattern.Matches
import Rendezvous.Proofs.Pattern.Preference
import Rendezvous.Proofs.Pattern.Word
import Rendezvous.Proofs.Phrase.DayKind
import Rendezvous.Proofs.Phrase.Draft
import Rendezvous.Proofs.Phrase.EveryDay
import Rendezvous.Proofs.Phrase.KindSelector
import Rendezvous.Proofs.Phrase.MonthDays
import Rendezvous.Proofs.Phrase.NamedPeriods
import Rendezvous.Proofs.Phrase.Overrun
import Rendezvous.Proofs.Phrase.WeekendsNext
import Rendezvous.Proofs.Phrase.WeekendsNextDays
import Rendezvous.Proofs.Phrase.Writing
import Rendezvous.Proofs.Proposal.Document
import Rendezvous.Proofs.Reading
import Rendezvous.Proofs.Recognizer.Mention
import Rendezvous.Proofs.Recognizer.Total
import Rendezvous.Proofs.Recurrence.Expand
import Rendezvous.Proofs.Recurrence.Weekend
import Rendezvous.Proofs.Result
import Rendezvous.Proofs.Schema.Member
import Rendezvous.Proofs.Service
import Rendezvous.Proofs.Session
import Rendezvous.Proofs.Text.Digits
import Rendezvous.Proofs.Text.Letter
import Rendezvous.Proofs.Text.Loose
import Rendezvous.Proofs.Text.Occurrence
import Rendezvous.Proposal.Basic
import Rendezvous.Proposal.Decode
import Rendezvous.Recognizer.Basic
import Rendezvous.Recognizer.English
import Rendezvous.Recognizer.English.Clock
import Rendezvous.Recognizer.English.Date
import Rendezvous.Recognizer.English.Finding
import Rendezvous.Recognizer.English.Grammar
import Rendezvous.Recognizer.English.Lexicon
import Rendezvous.Recognizer.English.Modifier
import Rendezvous.Recognizer.English.Prepared
import Rendezvous.Recognizer.English.Quantity
import Rendezvous.Recognizer.English.Reckon
import Rendezvous.Recognizer.English.Reckoning
import Rendezvous.Recognizer.English.Stamp
import Rendezvous.Recognizer.Extract
import Rendezvous.Recurrence.Expand
import Rendezvous.Recurrence.Selector
import Rendezvous.Schema.Issue
import Rendezvous.Schema.Reader
import Rendezvous.Service
import Rendezvous.Session
import Rendezvous.Text.Basic
import Rendezvous.Text.CodeRange
import Rendezvous.Text.Digit
import Rendezvous.Text.Encoding
import Rendezvous.Text.FinalSigma
import Rendezvous.Text.Loose
import Rendezvous.Text.Lowercase
import Rendezvous.Text.Printable
import Rendezvous.Text.Quoted
import Rendezvous.Text.WordCharacter
import Rendezvous.Proofs.Number.Order
import Rendezvous.Proofs.Proposal.Accepted
import Rendezvous.Proofs.Adoption
import Rendezvous.Proofs.Asking
import Rendezvous.Proofs.Calendar.Label
import Rendezvous.Proofs.Json.Written
import Rendezvous.Proofs.Proposal.Confidence
import Rendezvous.Proofs.Service.Answer
import Rendezvous.Proofs.Session.Questions
import Rendezvous.Proofs.Unreadable
import Rendezvous.Proofs.Proposal.Bounds
import Rendezvous.Proofs.Assistant.ObjectTokens
import Rendezvous.Proofs.Proposal.Union
import Rendezvous.Proofs.Assistant.Cleaning
import Rendezvous.Proofs.Assistant.Payload
import Rendezvous.Proofs.Assistant.Silence
import Rendezvous.Proofs.Text.StandIn
import Rendezvous.Proofs.Phrase.RenderedDays
import Rendezvous.Proofs.Phrase.LegibleDays
import Rendezvous.Proofs.Text.WordCharacter
import Rendezvous.Proofs.Pattern.Neighbours
import Rendezvous.Proofs.Phrase.WholeWords
import Rendezvous.Proofs.Phrase.Separators
import Rendezvous.Proofs.Phrase.ComingMonth
import Rendezvous.Proofs.Phrase.Title
import Rendezvous.Proofs.Pattern.Completeness
import Rendezvous.Proofs.Recognizer.TimeWords
import Rendezvous.Proofs.Recognizer.Offsets
import Rendezvous.Proofs.Calendar.Iso
import Rendezvous.Proofs.Event.Objections
import Rendezvous.Proofs.Proposal.Conversion
import Rendezvous.Proofs.Poll.WholeMonths
import Rendezvous.Proofs.Poll.Weekends
import Rendezvous.Proofs.Calendar.Bounds
import Rendezvous.Proofs.Recurrence.Weeks
import Rendezvous.Proofs.Poll.Choice
import Rendezvous.Proofs.Event.Labels
import Rendezvous.Proofs.Pattern.Erasing
import Rendezvous.Proofs.Text.FinalSigma
import Rendezvous.Proofs.Phrase.TitleCut
import Rendezvous.Proofs.Recurrence.Mentions
