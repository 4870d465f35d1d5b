import Mathlib.Data.List.Forall2
import Rendezvous.Proofs.Calendar.Written
import Rendezvous.Proofs.Json.Grammar
import Rendezvous.Proofs.Text.Loose
import Rendezvous.Schema.Reader

/-!
Contract: readers take back what a document writes.

Owns:
- `Writing`, which documents write a value, with one writing for each kind of value;
- `Reads`, which says of a reader that it takes back what a writing allows;
- `Members.Holds` and `Members.HoldsOr`, members with a value, in any order, and the way back
  from them through `Members.required` and `Members.withDefault`;
- the documents of these writings that are within the limits of reading.
-/

namespace Rendezvous.Schema

/-- Which documents write a value. -/
abbrev Writing (α : Type) := α → Json → Prop

namespace Writing

variable {α : Type}

/-- A string. -/
def looseText : Writing LooseText :=
  fun content document => document = .string content

/-- A day by its standard text. -/
def day : Writing Day :=
  fun day document => document = .ofText day.iso

/-- A whole number, also as a number with a point or a power. -/
inductive Integer : Writing Int where
  | integer {value : Int} : Integer value (.integer value)
  | real {value : Int} {number : Binary64} (isWhole : number.isWhole = true)
      (isValue : number.whole? = some value) : Integer value (.real number)

/-- A list by its items. -/
inductive Items (writes : Writing α) : Writing (List α) where
  | array {values : List α} {documents : List Json} (each : List.Forall₂ writes values documents) :
      Items writes values (.array documents)

/-- A value that may be null. -/
inductive Optional (writes : Writing α) : Writing (Option α) where
  | null : Optional writes none .null
  | value {value : α} {document : Json} (writesValue : writes value document) :
      Optional writes (some value) document

end Writing

/-! ## Readers -/

/-- A reader takes back a value, however it is written. -/
def Reads {α : Type} (reader : Reader α) (writes : Writing α) (value : α) : Prop :=
  ∀ document, writes value document → reader document = .ok value

variable {α : Type} {reader : Reader α} {writes : Writing α}

theorem textOf_loose (text : Text) : Reader.textOf text.loose = .ok text := by
  rw [Reader.textOf, Text.text?_loose]

theorem reads_looseText (content : LooseText) :
    Reads Reader.looseText Writing.looseText content := by
  rintro _ rfl
  rfl

theorem reads_day (day : Day) : Reads Reader.day Writing.day day := by
  rintro _ rfl
  rw [Json.ofText, Reader.day, textOf_loose]
  dsimp only [Except.bind]
  rw [Day.ofWritten?_iso]
  rfl

theorem reads_integer {value : Int} (small : value.natAbs < Reader.integerBound) :
    Reads Reader.integer Writing.Integer value := by
  intro document isWritten
  cases isWritten with
  | integer => rfl
  | @real _ number isWhole isValue =>
      have noFraction : ¬ (!number.isWhole) = true := by
        rw [isWhole]
        decide
      change Reader.integerOfReal number = _
      rw [Reader.integerOfReal, isValue]
      dsimp only
      rw [if_neg noFraction, if_neg (Nat.not_le.2 small)]

theorem all_itemsFrom {values : List α} {documents : List Json}
    (reads : ∀ value ∈ values, Reads reader writes value)
    (each : List.Forall₂ writes values documents) (index : Nat) :
    Checked.all (Reader.itemsFrom reader index documents) = .ok values := by
  induction each generalizing index with
  | nil => rfl
  | cons isWritten _ inductionHypothesis =>
      have others := inductionHypothesis fun value isLater =>
        reads value (List.mem_cons_of_mem _ isLater)
      rw [Reader.itemsFrom, Checked.all, reads _ List.mem_cons_self _ isWritten, others]
      rfl

theorem reads_list {values : List α} (reads : ∀ value ∈ values, Reads reader writes value) :
    Reads (Reader.list reader) (Writing.Items writes) values := by
  rintro _ ⟨each⟩
  exact all_itemsFrom reads each 0

theorem reads_optional {value : Option α} (reads : ∀ inner ∈ value, Reads reader writes inner)
    (noNull : ∀ inner, ¬ writes inner .null) :
    Reads (Reader.optional reader) (Writing.Optional writes) value := by
  rintro document (_ | isWritten)
  · rfl
  · have isRead := reads _ rfl _ isWritten
    cases document with
    | null => exact absurd isWritten (noNull _)
    | _ => exact congrArg (Except.map some) isRead

/-! ## Members -/

namespace Members

variable {members : Members} {names otherNames : List Text} {name : Text} {value missing : α}

/-- Members with some of the given names, each name at most once. -/
structure AreNamed (members : Members) (names : List Text) : Prop where
  once : (members.map Prod.fst).Nodup
  known : ∀ member ∈ members, ∃ name ∈ names, member.1 = name.loose

/-- One of the members writes a value under a name. -/
def Holds (members : Members) (name : Text) (writes : Writing α) (value : α) : Prop :=
  ∃ document, (name.loose, document) ∈ members ∧ writes value document

/-- The same, except that the member may be left out for the value of a missing one. -/
def HoldsOr (members : Members) (name : Text) (writes : Writing α) (missing value : α) : Prop :=
  members.Holds name writes value ∨ value = missing ∧ ∀ document, (name.loose, document) ∉ members

theorem areNamed_of_keys {keys : List Text} (same : members.map Prod.fst = keys.map Text.loose)
    (once : keys.Nodup) (known : ∀ key ∈ keys, key ∈ names) : members.AreNamed names := by
  refine ⟨?_, fun member isMember => ?_⟩
  · rw [same]
    exact List.pairwise_map.2 (once.imp fun apart alike => apart (Text.loose_injective alike))
  · have isKey : member.1 ∈ members.map Prod.fst := List.mem_map_of_mem isMember
    rw [same] at isKey
    obtain ⟨key, inKeys, isName⟩ := List.mem_map.1 isKey
    exact ⟨key, known key inKeys, isName.symm⟩

theorem holds_of_mem {document : Json} (isMember : (name.loose, document) ∈ members)
    (isWritten : writes value document) : members.Holds name writes value :=
  ⟨document, isMember, isWritten⟩

theorem holdsOr_of_absent {keys : List Text} (same : members.map Prod.fst = keys.map Text.loose)
    (absent : name ∉ keys) : members.HoldsOr name writes missing missing := by
  refine Or.inr ⟨rfl, fun document isMember => ?_⟩
  have isKey : name.loose ∈ members.map Prod.fst := List.mem_map_of_mem isMember
  rw [same] at isKey
  obtain ⟨key, inKeys, isName⟩ := List.mem_map.1 isKey
  exact absent (Text.loose_injective isName ▸ inKeys)

theorem eq_of_mem (once : (members.map Prod.fst).Nodup) {key : LooseText} {first second : Json}
    (isFirst : (key, first) ∈ members) (isSecond : (key, second) ∈ members) : first = second := by
  induction members with
  | nil => contradiction
  | cons member members inductionHypothesis =>
      obtain ⟨notLater, onceLater⟩ := List.nodup_cons.1 once
      have isKey : ∀ {document : Json}, (key, document) ∈ members → key ∈ members.map Prod.fst :=
        fun later => List.mem_map.2 ⟨_, later, rfl⟩
      rcases List.mem_cons.1 isFirst with rfl | firstLater
      · rcases List.mem_cons.1 isSecond with same | secondLater
        · exact (Prod.mk.inj same).2.symm
        · exact absurd (isKey secondLater) notLater
      · rcases List.mem_cons.1 isSecond with rfl | secondLater
        · exact absurd (isKey firstLater) notLater
        · exact inductionHypothesis onceLater firstLater secondLater

theorem lastMember?_eq_none (absent : ∀ document, (name.loose, document) ∉ members) :
    Json.lastMember? name members = none := by
  induction members with
  | nil => rfl
  | cons member members inductionHypothesis =>
      have later := inductionHypothesis fun document isLater =>
        absent document (List.mem_cons_of_mem _ isLater)
      have otherKey : member.1 ≠ name.loose := by
        intro same
        exact absent member.2 (same ▸ List.mem_cons_self)
      rw [Json.lastMember?, later]
      exact if_neg otherKey

theorem lastMember?_of_mem (once : (members.map Prod.fst).Nodup) {document : Json}
    (isMember : (name.loose, document) ∈ members) :
    Json.lastMember? name members = some document := by
  induction members with
  | nil => contradiction
  | cons member members inductionHypothesis =>
      obtain ⟨notLater, onceLater⟩ := List.nodup_cons.1 once
      rcases List.mem_cons.1 isMember with rfl | isLater
      · have noLater : Json.lastMember? name members = none :=
          lastMember?_eq_none fun other isLater => notLater (List.mem_map.2 ⟨_, isLater, rfl⟩)
        rw [Json.lastMember?, noLater]
        exact if_pos rfl
      · rw [Json.lastMember?, inductionHypothesis onceLater isLater]

theorem named?_of_mem (once : (members.map Prod.fst).Nodup) {document : Json}
    (isMember : (name.loose, document) ∈ members) :
    members.named? (name :: otherNames) = some (name, document) := by
  rw [named?, lastMember?_of_mem once isMember]

theorem named?_eq_none (absent : ∀ name ∈ names, ∀ document, (name.loose, document) ∉ members) :
    members.named? names = none := by
  induction names with
  | nil => rfl
  | cons name names inductionHypothesis =>
      rw [named?, lastMember?_eq_none (absent name List.mem_cons_self)]
      exact inductionHypothesis fun other isOther => absent other (List.mem_cons_of_mem _ isOther)

theorem not_mem_of_unknown (named : members.AreNamed names) (unknown : name ∉ names)
    (document : Json) : (name.loose, document) ∉ members := by
  intro isMember
  obtain ⟨other, isName, same⟩ := named.known _ isMember
  exact unknown (Text.loose_injective same ▸ isName)

/-- A member that has to be there is read by its usual name. -/
theorem required_of_holds (once : (members.map Prod.fst).Nodup)
    (holds : members.Holds name writes value) (reads : Reads reader writes value) :
    members.required name otherNames reader = .ok value := by
  obtain ⟨document, isMember, isWritten⟩ := holds
  rw [required, named?_of_mem once isMember]
  exact congrArg (Checked.within (.member name)) (reads document isWritten)

/-- A member that may be left out is read by its usual name, if the other ones do not occur. -/
theorem withDefault_of_holdsOr (named : members.AreNamed names)
    (holds : members.HoldsOr name writes missing value) (reads : Reads reader writes value)
    (unknown : ∀ other ∈ otherNames, other ∉ names) :
    members.withDefault (name :: otherNames) missing reader = .ok value := by
  rcases holds with ⟨document, isMember, isWritten⟩ | ⟨rfl, absent⟩
  · rw [withDefault, named?_of_mem named.once isMember]
    exact congrArg (Checked.within (.member name)) (reads document isWritten)
  · have noMember : members.named? (name :: otherNames) = none := by
      apply named?_eq_none
      intro other isOther
      rcases List.mem_cons.1 isOther with rfl | isFurther
      · exact absent
      · exact not_mem_of_unknown named (unknown other isFurther)
    rw [withDefault, noMember]

/-! ### Limits -/

variable {depth : Nat}

theorem Holds.fits (holds : members.Holds name writes value)
    (once : (members.map Prod.fst).Nodup)
    (fits : ∀ document, writes value document → Json.Fits depth document) :
    ∀ document, (name.loose, document) ∈ members → Json.Fits depth document := by
  intro document isMember
  obtain ⟨written, isWritten, writesValue⟩ := holds
  rw [eq_of_mem once isMember isWritten]
  exact fits written writesValue

theorem HoldsOr.fits (holds : members.HoldsOr name writes missing value)
    (once : (members.map Prod.fst).Nodup)
    (fits : ∀ document, writes value document → Json.Fits depth document) :
    ∀ document, (name.loose, document) ∈ members → Json.Fits depth document := by
  rcases holds with holds | ⟨-, absent⟩
  · exact holds.fits once fits
  · exact fun document isMember => absurd isMember (absent document)

/-- An object is within the limits if the members under all of its names are. -/
theorem AreNamed.fits (named : members.AreNamed names)
    (fits : ∀ name ∈ names, ∀ document, (name.loose, document) ∈ members →
      Json.Fits depth document) : Json.Fits (depth + 1) (.object members) := by
  constructor
  intro member isMember
  obtain ⟨name, isName, same⟩ := named.known member isMember
  exact fits name isName member.2 (same ▸ isMember)

end Members

theorem Writing.Items.fits {depth : Nat} {values : List α} {document : Json}
    (isWritten : Writing.Items writes values document)
    (fits : ∀ value ∈ values, ∀ document, writes value document → Json.Fits depth document) :
    Json.Fits (depth + 1) document := by
  obtain ⟨each⟩ := isWritten
  constructor
  induction each with
  | nil => exact fun item isItem => absurd isItem List.not_mem_nil
  | cons writesItem _ inductionHypothesis =>
      intro item isItem
      rcases List.mem_cons.1 isItem with rfl | isLater
      · exact fits _ List.mem_cons_self _ writesItem
      · exact inductionHypothesis (fun value isValue =>
          fits value (List.mem_cons_of_mem _ isValue)) item isLater

theorem Writing.Optional.fits {depth : Nat} {value : Option α} {document : Json}
    (isWritten : Writing.Optional writes value document)
    (fits : ∀ inner ∈ value, ∀ document, writes inner document → Json.Fits depth document) :
    Json.Fits depth document := by
  cases isWritten with
  | null => exact .null
  | value writesValue => exact fits _ rfl _ writesValue

end Rendezvous.Schema
