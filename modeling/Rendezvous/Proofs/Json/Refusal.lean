import Rendezvous.Json.Read

/-!
Contract: documents that cannot be read at all, other than for a departure from the grammar,
show it.

Owns:
- `Refusal.HasCause`, what has to stand in a text for a whole number to be too long, or for
  values to be nested too deeply;
- `Accounts`, which says of a scanner that it leaves an end of the text or has a cause to
  refuse it, with one rule for each way to put scanners together;
- `long_of_numeralTooLong` and `deep_of_nestedTooDeeply`, the same for whole documents.
-/

namespace Rendezvous.Json

/-- The marks that open a composite value. -/
def isOpening (c : Char) : Bool :=
  c == '{' || c == '['

/-- What stands in a text that is refused with `depth` levels left. -/
def Refusal.HasCause (depth : Nat) (text : Text) : Refusal → Prop
  | .malformed _ _ => True
  | .numeralTooLong count => ∃ digits : Text, digits <:+: text ∧
      (∀ c ∈ digits, Numeral.isAsciiDigit c = true) ∧ digits.length = count ∧
        4300 < count
  | .nestedTooDeeply => depth < text.countP isOpening

/-- A scan leaves an end of the text, or has a cause to refuse it. -/
def Accounts {α : Type} (depth : Nat) (text : Text) : Scan α → Prop
  | .ok (_, left) => left <:+ text
  | .error refusal => refusal.HasCause depth text

variable {α β : Type} {depth : Nat} {text part rest : Text}

/-! ## Rules -/

theorem Refusal.HasCause.of_suffix {refusal : Refusal} (inside : part <:+ text)
    (cause : refusal.HasCause depth part) : refusal.HasCause depth text := by
  cases refusal with
  | malformed _ _ => trivial
  | numeralTooLong count =>
      obtain ⟨digits, inPart, areDigits, long⟩ := cause
      exact ⟨digits, inPart.trans inside.isInfix, areDigits, long⟩
  | nestedTooDeeply => exact Nat.lt_of_lt_of_le cause (inside.sublist.countP_le)

/-- Behind an opening mark one level less is left. -/
theorem Refusal.HasCause.behind_opening {refusal : Refusal} {mark : Char}
    (opening : isOpening mark = true) (cause : refusal.HasCause (depth - 1) rest) :
    refusal.HasCause depth (mark :: rest) := by
  cases refusal with
  | malformed _ _ => trivial
  | numeralTooLong count =>
      obtain ⟨digits, inRest, areDigits, long⟩ := cause
      exact ⟨digits, inRest.trans (List.suffix_cons mark rest).isInfix, areDigits, long⟩
  | nestedTooDeeply =>
      simp only [HasCause, List.countP_cons, opening, ↓reduceIte] at cause ⊢
      omega

theorem Accounts.of_suffix {scan : Scan α} (inside : part <:+ text)
    (accounts : Accounts depth part scan) : Accounts depth text scan := by
  cases scan with
  | ok scanned => exact List.IsSuffix.trans accounts inside
  | error refusal => exact Refusal.HasCause.of_suffix inside accounts

theorem Accounts.behind_opening {scan : Scan α} {mark : Char} (opening : isOpening mark = true)
    (accounts : Accounts (depth - 1) rest scan) : Accounts depth (mark :: rest) scan := by
  cases scan with
  | ok scanned => exact List.IsSuffix.trans accounts (List.suffix_cons mark rest)
  | error refusal => exact Refusal.HasCause.behind_opening opening accounts

theorem Accounts.map {scan : Scan α} (read : α → β) (accounts : Accounts depth text scan) :
    Accounts depth text (scan.map fun (value, left) => (read value, left)) := by
  cases scan with
  | ok scanned => exact accounts
  | error refusal => exact accounts

theorem Accounts.bind {scan : Except Refusal (α × Text)}
    {next : α × Text → Except Refusal (β × Text)} (accounts : Accounts depth text scan)
    (accountsNext : ∀ value left, left <:+ text → Accounts depth text (next (value, left))) :
    Accounts depth text (scan >>= next : Except Refusal (β × Text)) := by
  cases scan with
  | ok scanned => exact accountsNext scanned.1 scanned.2 accounts
  | error refusal => exact accounts

theorem accounts_refuse (cause : Cause) (left : Text) :
    Accounts depth text (refuse cause left : Scan α) :=
  trivial

/-- An opening mark is refused only if no level is left. -/
theorem accounts_nestedTooDeeply {mark : Char} (opening : isOpening mark = true) :
    Accounts 0 (mark :: rest) (.error .nestedTooDeeply : Scan α) := by
  change 0 < (mark :: rest).countP isOpening
  rw [List.countP_cons_of_pos opening]
  exact Nat.succ_pos _

theorem skipFiller_suffix (text : Text) : skipFiller text <:+ text :=
  List.dropWhile_suffix isFiller

/-! ## Strings and numbers -/

theorem accounts_scanParts (depth opening : Nat) (text : Text) :
    Accounts depth text (scanParts opening text) := by
  fun_induction scanParts opening text with
  | case2 rest => exact List.suffix_cons '"' rest
  | case5 a b c d rest value _ _ inductionHypothesis =>
      exact (inductionHypothesis.map (.unit value :: ·)).of_suffix ⟨['\\', 'u', a, b, c, d], rfl⟩
  | case8 c rest _ _ escaped _ inductionHypothesis =>
      exact (inductionHypothesis.map (.character escaped :: ·)).of_suffix ⟨['\\', c], rfl⟩
  | case11 c rest _ _ _ _ _ _ inductionHypothesis =>
      exact (inductionHypothesis.map (.character c :: ·)).of_suffix ⟨[c], rfl⟩
  | _ => trivial

theorem accounts_scanString (depth : Nat) (text : Text) :
    Accounts depth text (scanString text) :=
  (accounts_scanParts depth (text.length + 1) text).map assemble

theorem scanDigits_split (text : Text) :
    (Numeral.scanDigits text).1 ++ (Numeral.scanDigits text).2 = text :=
  List.takeWhile_append_dropWhile

theorem isAsciiDigit_of_scanDigits (text : Text) :
    ∀ c ∈ (Numeral.scanDigits text).1, Numeral.isAsciiDigit c = true :=
  List.all_eq_true.1 List.all_takeWhile

theorem scanDigits_suffix (text : Text) : (Numeral.scanDigits text).2 <:+ text :=
  List.dropWhile_suffix Numeral.isAsciiDigit

theorem scanSign_suffix (text : Text) : (Numeral.scanSign text).2 <:+ text := by
  unfold Numeral.scanSign
  split
  next rest => exact List.suffix_cons '-' rest
  next rest => exact List.suffix_cons '+' rest
  next => exact List.suffix_refl text

/-- The whole part of a number consists of digits and stands in front of what is left. -/
theorem scanWhole?_split {digits left : Text} (isWhole : scanWhole? text = some (digits, left)) :
    digits ++ left = text ∧ ∀ c ∈ digits, Numeral.isAsciiDigit c = true := by
  unfold scanWhole? at isWhole
  split at isWhole
  next rest =>
    obtain ⟨rfl, rfl⟩ := Prod.mk.inj (Option.some.inj isWhole)
    exact ⟨rfl, List.forall_mem_singleton.2 rfl⟩
  next =>
    have split := scanDigits_split text
    have areDigits := isAsciiDigit_of_scanDigits text
    generalize Numeral.scanDigits text = scanned at *
    obtain ⟨found, rest⟩ := scanned
    dsimp only at isWhole
    split at isWhole
    next => contradiction
    next =>
      obtain ⟨rfl, rfl⟩ := Prod.mk.inj (Option.some.inj isWhole)
      exact ⟨split, areDigits⟩

theorem scanBehind_suffix (text : Text) : (scanBehind text).2 <:+ text := by
  unfold scanBehind
  split
  next rest =>
    dsimp only
    split
    next => exact List.suffix_refl _
    next => exact (scanDigits_suffix rest).trans (List.suffix_cons '.' rest)
  next => exact List.suffix_refl text

theorem scanPower_suffix (text : Text) : (scanPower text).2 <:+ text := by
  unfold scanPower
  split
  next c rest =>
    split
    next =>
      dsimp only
      split
      next => exact List.suffix_refl _
      next =>
        exact ((scanDigits_suffix _).trans (scanSign_suffix rest)).trans (List.suffix_cons c rest)
    next => exact List.suffix_refl _
  next => exact List.suffix_refl _

theorem accounts_scanNumber (depth : Nat) (text : Text) :
    Accounts depth text (scanNumber text) := by
  unfold scanNumber
  split
  next negative unsigned signed =>
    have inside : unsigned <:+ text := by
      split at signed
      next rest =>
        obtain ⟨-, rfl⟩ := Prod.mk.inj signed
        exact List.suffix_cons '-' rest
      next =>
        obtain ⟨-, rfl⟩ := Prod.mk.inj signed
        exact List.suffix_refl _
    split
    next => exact accounts_refuse _ _
    next digits afterWhole isWhole =>
      obtain ⟨whole, areDigits⟩ := scanWhole?_split isWhole
      have leaves : (scanPower (scanBehind afterWhole).2).2 <:+ text :=
        (((scanPower_suffix _).trans (scanBehind_suffix afterWhole)).trans ⟨digits, whole⟩).trans
          inside
      dsimp only
      split
      next =>
        split
        next long =>
          have inText : digits <:+: text :=
            (whole ▸ List.prefix_append digits afterWhole).isInfix.trans inside.isInfix
          exact ⟨digits, inText, areDigits, rfl, long⟩
        next => exact leaves
      next => exact leaves

theorem accounts_scanScalar (depth : Nat) (text : Text) :
    Accounts depth text (scanScalar text) := by
  unfold scanScalar
  split
  next name value _ => exact List.drop_suffix name.length text
  next => exact accounts_scanNumber depth text

/-! ## Values -/

/-- All three scanners of values account for what they do, with a given bound on their steps. -/
structure AccountsWithin (fuel : Nat) : Prop where
  value : ∀ depth text, Accounts depth text (scanValue depth fuel text)
  members : ∀ depth text, Accounts depth text (scanMembers depth fuel text)
  items : ∀ depth text, Accounts depth text (scanItems depth fuel text)

theorem AccountsWithin.value_succ {fuel : Nat} (within : AccountsWithin fuel) (depth : Nat)
    (text : Text) : Accounts depth text (scanValue depth (fuel + 1) text) := by
  unfold scanValue
  split
  next rest =>
    exact ((accounts_scanString depth rest).map Json.string).of_suffix (List.suffix_cons '"' rest)
  next rest =>
    split
    next shallow =>
      subst shallow
      exact accounts_nestedTooDeeply rfl
    next =>
      have behind := skipFiller_suffix rest
      split
      next left closed =>
        exact ((closed ▸ List.suffix_cons '}' left).trans behind).trans (List.suffix_cons '{' rest)
      next =>
        have inner := (within.members (depth - 1) (skipFiller rest)).of_suffix behind
        exact (inner.map Json.object).behind_opening rfl
  next rest =>
    split
    next shallow =>
      subst shallow
      exact accounts_nestedTooDeeply rfl
    next =>
      have behind := skipFiller_suffix rest
      split
      next left closed =>
        exact ((closed ▸ List.suffix_cons ']' left).trans behind).trans (List.suffix_cons '[' rest)
      next =>
        have inner := (within.items (depth - 1) (skipFiller rest)).of_suffix behind
        exact (inner.map Json.array).behind_opening rfl
  next => exact accounts_scanScalar depth text

theorem suffix_behind_mark {mark : Char} {left : Text} (stands : skipFiller text = mark :: left) :
    left <:+ text :=
  (stands ▸ List.suffix_cons mark left).trans (skipFiller_suffix text)

/-- A scan behind a mark that stands behind blanks. -/
theorem Accounts.behind_mark {scan : Scan α} {mark : Char} {left : Text}
    (stands : skipFiller text = mark :: left) (accounts : Accounts depth (skipFiller left) scan) :
    Accounts depth text scan :=
  accounts.of_suffix ((skipFiller_suffix left).trans (suffix_behind_mark stands))

theorem AccountsWithin.items_succ {fuel : Nat} (within : AccountsWithin fuel) (depth : Nat)
    (text : Text) : Accounts depth text (scanItems depth (fuel + 1) text) := by
  unfold scanItems
  apply (within.value depth text).bind
  intro value afterValue inside
  dsimp only
  split
  next left closed => exact (suffix_behind_mark closed).trans inside
  next afterComma comma =>
    apply Accounts.of_suffix inside
    apply Accounts.behind_mark comma
    exact (within.items depth _).bind fun others left leaves => leaves
  next => exact accounts_refuse _ _

theorem AccountsWithin.members_succ {fuel : Nat} (within : AccountsWithin fuel) (depth : Nat)
    (text : Text) : Accounts depth text (scanMembers depth (fuel + 1) text) := by
  unfold scanMembers
  split
  next rest =>
    apply Accounts.of_suffix (List.suffix_cons '"' rest)
    apply (accounts_scanString depth rest).bind
    intro name afterName inRest
    apply Accounts.of_suffix inRest
    dsimp only
    split
    next afterColon colon =>
      apply Accounts.behind_mark colon
      apply (within.value depth _).bind
      intro value afterValue inside
      apply Accounts.of_suffix inside
      dsimp only
      split
      next left closed => exact suffix_behind_mark closed
      next afterComma comma =>
        apply Accounts.behind_mark comma
        exact (within.members depth _).bind fun others left leaves => leaves
      next => exact accounts_refuse _ _
    next => exact accounts_refuse _ _
  next => exact accounts_refuse _ _

theorem accountsWithin (fuel : Nat) : AccountsWithin fuel := by
  induction fuel with
  | zero =>
      refine ⟨fun depth text => ?_, fun depth text => ?_, fun depth text => ?_⟩
      · rw [scanValue]
        exact accounts_refuse _ _
      · rw [scanMembers]
        exact accounts_refuse _ _
      · rw [scanItems]
        exact accounts_refuse _ _
  | succ fuel inductionHypothesis =>
      exact ⟨inductionHypothesis.value_succ, inductionHypothesis.members_succ,
        inductionHypothesis.items_succ⟩

/-! ## Documents -/

variable {depth : Depth}

theorem hasCause_of_scanDocument {refusal : Refusal}
    (failed : scanDocument depth text = .error refusal) : refusal.HasCause depth.levels text := by
  have accounts := ((accountsWithin (text.length + 1)).value depth.levels
    (skipFiller text)).of_suffix (skipFiller_suffix text)
  unfold scanDocument at failed
  generalize scanValue depth.levels (text.length + 1) (skipFiller text) = scan at failed accounts
  cases scan with
  | error cause =>
      obtain rfl := Except.error.inj failed
      exact accounts
  | ok scanned =>
      dsimp only [bind, Except.bind] at failed
      split at failed
      next => contradiction
      next =>
        obtain rfl := Except.error.inj failed
        trivial

/-- The refusal behind a defect of a document. -/
theorem scanDocument_of_read {defect : Defect} (failed : read text depth = .error defect) :
    (∃ cause position, defect = .malformed cause position) ∨
      (∃ count, defect = .numeralTooLong count ∧
        scanDocument depth text = .error (.numeralTooLong count)) ∨
      defect = .nestedTooDeeply ∧ scanDocument depth text = .error .nestedTooDeeply := by
  unfold read at failed
  split at failed
  next =>
    obtain rfl := Except.error.inj failed
    exact Or.inl ⟨_, _, rfl⟩
  next =>
    split at failed
    next => contradiction
    next =>
      obtain rfl := Except.error.inj failed
      exact Or.inl ⟨_, _, rfl⟩
    next count scanned =>
      obtain rfl := Except.error.inj failed
      exact Or.inr (Or.inl ⟨count, rfl, scanned⟩)
    next scanned =>
      obtain rfl := Except.error.inj failed
      exact Or.inr (Or.inr ⟨rfl, scanned⟩)

/-- A whole number that is too long stands in the text. -/
theorem long_of_numeralTooLong {count : Nat}
    (failed : read text depth = .error (.numeralTooLong count)) :
    ∃ digits : Text, digits <:+: text ∧ (∀ c ∈ digits, Numeral.isAsciiDigit c = true) ∧
      digits.length = count ∧ 4300 < count := by
  rcases scanDocument_of_read failed with ⟨_, _, same⟩ | ⟨other, same, scanned⟩ | ⟨same, -⟩
  · contradiction
  · obtain rfl := Defect.numeralTooLong.inj same
    exact hasCause_of_scanDocument scanned
  · contradiction

/-- Values nested too deeply have more opening marks than there are levels. -/
theorem deep_of_nestedTooDeeply (failed : read text depth = .error .nestedTooDeeply) :
    depth.levels < text.countP isOpening := by
  rcases scanDocument_of_read failed with ⟨_, _, same⟩ | ⟨_, same, -⟩ | ⟨-, scanned⟩
  · contradiction
  · contradiction
  · exact hasCause_of_scanDocument scanned

end Rendezvous.Json
