import Rendezvous.Proofs.Json.Scalar

/-!
Contract: every text that writes a document is read as that document.

Owns:
- `Piece.IsRead`, what reading comes to in front of anything that can stand behind a value,
  with one rule for each way to write a piece;
- `Writes.isRead`, by induction on the way in which a text is written, and `read_of_writes`.

The count that bounds the scanners is never less than the number of characters that a value
has; for items and members, whose closing mark is not theirs, it is greater.
-/

namespace Rendezvous.Json

/-! ## Values -/

theorem skipFiller_append {filling : Text} (fills : IsFilling filling) (rest : Text) :
    skipFiller (filling ++ rest) = skipFiller rest :=
  List.dropWhile_append_of_pos fills

theorem skipFiller_cons {c : Char} (noFiller : isFiller c = false) (rest : Text) :
    skipFiller (c :: rest) = c :: rest :=
  List.dropWhile_cons_of_neg (Bool.eq_false_iff.1 noFiller)

/-- What reading a text comes to that writes a piece, in front of anything that can stand
behind it. -/
def Piece.IsRead (depth : Nat) (text : Text) : Piece → Prop
  | .value content => ∀ fuel rest, text.length ≤ fuel → Follows rest →
      scanValue depth fuel (text ++ rest) = .ok (content, rest)
  | .padded content => ∀ fuel rest, text.length ≤ fuel → Follows rest →
      ∃ left, scanValue depth fuel (skipFiller (text ++ rest)) = .ok (content, left) ∧
        skipFiller left = skipFiller rest
  | .items contents => ∀ fuel rest, text.length < fuel →
      scanItems depth fuel (skipFiller (text ++ ']' :: rest)) = .ok (contents, rest)
  | .member named => ∀ fuel rest, text.length ≤ fuel → Follows rest →
      ∃ afterMark afterName afterColon left, skipFiller (text ++ rest) = '"' :: afterMark ∧
        scanString afterMark = .ok (named.1, afterName) ∧
        skipFiller afterName = ':' :: afterColon ∧
        scanValue depth fuel (skipFiller afterColon) = .ok (named.2, left) ∧
        skipFiller left = skipFiller rest
  | .members contents => ∀ fuel rest, text.length < fuel →
      scanMembers depth fuel (skipFiller (text ++ '\x7d' :: rest)) = .ok (contents, rest)

variable {depth : Nat}

theorem isRead_null : (Piece.value .null).IsRead depth "null".toList := by
  intro fuel rest enough _
  cases fuel with
  | zero => exact absurd enough (by decide)
  | succ fuel => rfl

theorem isRead_bool (value : Bool) : (Piece.value (.bool value)).IsRead depth
    (if value then "true".toList else "false".toList) := by
  intro fuel rest enough _
  cases fuel with
  | zero => cases value <;> exact absurd enough (by decide)
  | succ fuel => cases value <;> rfl

theorem isRead_number (number : WrittenNumber) (fits : Fits depth number.value) :
    (Piece.value number.value).IsRead depth number.text := by
  intro fuel rest enough follows
  have scanned := scanScalar_number number follows fits
  obtain ⟨c, others, isText, begins⟩ := number.exists_head
  have notMark : ∀ other, Numeral.isAsciiDigit other = false → '-' ≠ other → c ≠ other := by
    rintro other noDigit noMinus
    rcases begins with isDigit | rfl
    · exact Text.isAsciiDigit_ne isDigit noDigit
    · exact noMinus
  rw [isText, List.cons_append] at scanned ⊢
  cases fuel with
  | zero =>
      rw [isText] at enough
      contradiction
  | succ fuel =>
      rw [scanValue]
      · exact scanned
      · exact fun _ same => notMark '"' (by decide) (by decide) (List.cons.inj same).1
      · exact fun _ same => notMark '\x7b' (by decide) (by decide) (List.cons.inj same).1
      · exact fun _ same => notMark '[' (by decide) (by decide) (List.cons.inj same).1

theorem isRead_string {content text : Text} (spells : Spells content text) :
    (Piece.value (.string content.loose)).IsRead depth ('"' :: (text ++ ['"'])) := by
  intro fuel rest enough _
  cases fuel with
  | zero => contradiction
  | succ fuel =>
      have scanned := scanString_spells spells rest
      rw [List.cons_append, List.append_assoc, List.singleton_append, scanValue, scanned]
      rfl

theorem isRead_padded {content : Json} {before text after : Text} (fillsBefore : IsFilling before)
    (writesValue : Writes (.value content) text) (fillsAfter : IsFilling after)
    (isRead : (Piece.value content).IsRead depth text) :
    (Piece.padded content).IsRead depth (before ++ (text ++ after)) := by
  intro fuel rest enough follows
  obtain ⟨c, others, head, begins⟩ := writesValue.exists_head
  have skipped : skipFiller (before ++ (text ++ after) ++ rest) = text ++ (after ++ rest) := by
    rw [List.append_assoc, List.append_assoc, skipFiller_append fillsBefore, head]
    exact skipFiller_cons (isFiller_of_beginsValue begins) _
  have short : text.length ≤ fuel := by
    rw [List.length_append, List.length_append] at enough
    omega
  refine ⟨after ++ rest, ?_, skipFiller_append fillsAfter rest⟩
  rw [skipped]
  exact isRead fuel (after ++ rest) short (follows.filling fillsAfter)

/-! ### Arrays -/

theorem Writes.exists_item {contents : List Json} {text : Text}
    (writes : Writes (.items contents) text) (rest : Text) :
    ∃ c others, skipFiller (text ++ rest) = c :: others ∧ beginsValue c = true := by
  have exists_padded : ∃ content first tail, Writes (.padded content) first ∧
      text = first ++ tail := by
    cases writes with
    | lastItem writesItem => exact ⟨_, _, [], writesItem, (List.append_nil _).symm⟩
    | furtherItem writesItem _ => exact ⟨_, _, _, writesItem, rfl⟩
  obtain ⟨content, first, tail, writesFirst, rfl⟩ := exists_padded
  cases writesFirst with
  | @padded _ before text after fillsBefore writesValue fillsAfter =>
      obtain ⟨c, others, rfl, begins⟩ := writesValue.exists_head
      refine ⟨c, others ++ (after ++ (tail ++ rest)), ?_, begins⟩
      rw [List.append_assoc, List.append_assoc, skipFiller_append fillsBefore]
      simp only [List.append_assoc, List.cons_append]
      exact skipFiller_cons (isFiller_of_beginsValue begins) _

theorem isRead_emptyArray {inside : Text} (filling : IsFilling inside) :
    (Piece.value (.array [])).IsRead (depth + 1) ('[' :: (inside ++ [']'])) := by
  intro fuel rest enough _
  cases fuel with
  | zero => contradiction
  | succ fuel =>
      have closes : skipFiller (inside ++ ']' :: rest) = ']' :: rest := by
        rw [skipFiller_append filling]
        exact skipFiller_cons (by decide) rest
      rw [List.cons_append, List.append_assoc, List.singleton_append, scanValue,
        if_neg (Nat.succ_ne_zero depth), closes]
      rfl

theorem isRead_array {contents : List Json} {inside : Text}
    (writesItems : Writes (.items contents) inside)
    (isRead : (Piece.items contents).IsRead depth inside) :
    (Piece.value (.array contents)).IsRead (depth + 1) ('[' :: (inside ++ [']'])) := by
  intro fuel rest enough _
  cases fuel with
  | zero => contradiction
  | succ fuel =>
      -- The two marks are what the items need beyond their own characters.
      have short : inside.length < fuel := by
        rw [List.length_cons, List.length_append, List.length_singleton] at enough
        omega
      have scanned := isRead fuel rest short
      obtain ⟨c, others, head, begins⟩ := writesItems.exists_item (']' :: rest)
      rw [List.cons_append, List.append_assoc, List.singleton_append, scanValue,
        if_neg (Nat.succ_ne_zero depth)]
      -- An item does not begin with the closing mark, so the array is not taken for empty.
      split
      next left closes =>
        rw [head] at closes
        exact absurd (List.cons.inj closes).1 (beginsValue_ne begins (by decide))
      next =>
        rw [Nat.add_sub_cancel, scanned]
        rfl

theorem isRead_lastItem {content : Json} {text : Text}
    (isRead : (Piece.padded content).IsRead depth text) :
    (Piece.items [content]).IsRead depth text := by
  intro fuel rest enough
  cases fuel with
  | zero => contradiction
  | succ fuel =>
      have ends : Follows (']' :: rest) := follows_cons (by decide) rest
      obtain ⟨left, scanned, skipped⟩ := isRead fuel (']' :: rest) (Nat.le_of_lt_succ enough) ends
      rw [scanItems, scanned]
      dsimp only [bind, Except.bind]
      rw [skipped, skipFiller_cons (by decide)]
      rfl

theorem isRead_furtherItem {content : Json} {contents : List Json} {text rest : Text}
    (isReadItem : (Piece.padded content).IsRead depth text)
    (isReadOthers : (Piece.items contents).IsRead depth rest) :
    (Piece.items (content :: contents)).IsRead depth (text ++ ',' :: rest) := by
  intro fuel behind enough
  rw [List.length_append, List.length_cons] at enough
  cases fuel with
  | zero => contradiction
  | succ fuel =>
      have ends : Follows (',' :: (rest ++ ']' :: behind)) := follows_cons (by decide) _
      obtain ⟨left, scanned, skipped⟩ := isReadItem fuel _ (by omega) ends
      have scannedOthers := isReadOthers fuel behind (by omega)
      rw [List.append_assoc, List.cons_append, scanItems, scanned]
      dsimp only [bind, Except.bind]
      rw [skipped, skipFiller_cons (by decide)]
      change Except.bind (scanItems depth fuel (skipFiller (rest ++ ']' :: behind))) _ = _
      rw [scannedOthers]
      rfl

/-! ### Objects -/

theorem isRead_member {name : Text} {content : Json} {before nameText gap text : Text}
    (fillsBefore : IsFilling before) (spellsName : Spells name nameText)
    (fillsGap : IsFilling gap) (isRead : (Piece.padded content).IsRead depth text) :
    (Piece.member (name.loose, content)).IsRead depth
      (before ++ '"' :: (nameText ++ '"' :: (gap ++ ':' :: text))) := by
  intro fuel rest enough follows
  have short : text.length ≤ fuel := by
    simp only [List.length_append, List.length_cons] at enough
    omega
  obtain ⟨left, scanned, skipped⟩ := isRead fuel rest short follows
  refine ⟨nameText ++ '"' :: (gap ++ ':' :: (text ++ rest)), gap ++ ':' :: (text ++ rest),
    text ++ rest, left, ?_, scanString_spells spellsName _, ?_, scanned, skipped⟩
  · rw [List.append_assoc, skipFiller_append fillsBefore]
    simp only [List.append_assoc, List.cons_append]
    exact skipFiller_cons (by decide) _
  · rw [skipFiller_append fillsGap]
    exact skipFiller_cons (by decide) _

theorem Writes.exists_mark {contents : List (LooseText × Json)} {text : Text}
    (writes : Writes (.members contents) text) (rest : Text) :
    ∃ others, skipFiller (text ++ rest) = '"' :: others := by
  have exists_member : ∃ content first tail, Writes (.member content) first ∧
      text = first ++ tail := by
    cases writes with
    | lastMember writesMember => exact ⟨_, _, [], writesMember, (List.append_nil _).symm⟩
    | furtherMember writesMember _ => exact ⟨_, _, _, writesMember, rfl⟩
  obtain ⟨content, first, tail, writesFirst, rfl⟩ := exists_member
  cases writesFirst with
  | @member name value before nameText gap text fillsBefore _ _ _ =>
      refine ⟨nameText ++ '"' :: (gap ++ ':' :: text) ++ (tail ++ rest), ?_⟩
      rw [List.append_assoc, List.append_assoc, skipFiller_append fillsBefore, List.cons_append]
      exact skipFiller_cons (by decide) _

theorem isRead_emptyObject {inside : Text} (filling : IsFilling inside) :
    (Piece.value (.object [])).IsRead (depth + 1) ('\x7b' :: (inside ++ ['\x7d'])) := by
  intro fuel rest enough _
  cases fuel with
  | zero => contradiction
  | succ fuel =>
      have closes : skipFiller (inside ++ '\x7d' :: rest) = '\x7d' :: rest := by
        rw [skipFiller_append filling]
        exact skipFiller_cons (by decide) rest
      rw [List.cons_append, List.append_assoc, List.singleton_append, scanValue,
        if_neg (Nat.succ_ne_zero depth), closes]
      rfl

theorem isRead_object {contents : List (LooseText × Json)} {inside : Text}
    (writesMembers : Writes (.members contents) inside)
    (isRead : (Piece.members contents).IsRead depth inside) :
    (Piece.value (.object contents)).IsRead (depth + 1) ('\x7b' :: (inside ++ ['\x7d'])) := by
  intro fuel rest enough _
  cases fuel with
  | zero => contradiction
  | succ fuel =>
      have short : inside.length < fuel := by
        rw [List.length_cons, List.length_append, List.length_singleton] at enough
        omega
      have scanned := isRead fuel rest short
      obtain ⟨others, head⟩ := writesMembers.exists_mark ('\x7d' :: rest)
      rw [List.cons_append, List.append_assoc, List.singleton_append, scanValue,
        if_neg (Nat.succ_ne_zero depth)]
      split
      next left closes =>
        rw [head] at closes
        exact absurd (List.cons.inj closes).1 (by decide)
      next =>
        rw [Nat.add_sub_cancel, scanned]
        rfl

theorem isRead_lastMember {content : LooseText × Json} {text : Text}
    (isRead : (Piece.member content).IsRead depth text) :
    (Piece.members [content]).IsRead depth text := by
  intro fuel rest enough
  cases fuel with
  | zero => contradiction
  | succ fuel =>
      have ends : Follows ('\x7d' :: rest) := follows_cons (by decide) rest
      obtain ⟨afterMark, afterName, afterColon, left, opens, named, colon, scanned, skipped⟩ :=
        isRead fuel _ (Nat.le_of_lt_succ enough) ends
      rw [opens, scanMembers, named]
      dsimp only [bind, Except.bind]
      rw [colon]
      change Except.bind (scanValue depth fuel (skipFiller afterColon)) _ = _
      rw [scanned]
      dsimp only [Except.bind]
      rw [skipped, skipFiller_cons (by decide)]
      rfl

theorem isRead_furtherMember {content : LooseText × Json} {contents : List (LooseText × Json)}
    {text rest : Text} (isReadMember : (Piece.member content).IsRead depth text)
    (isReadOthers : (Piece.members contents).IsRead depth rest) :
    (Piece.members (content :: contents)).IsRead depth (text ++ ',' :: rest) := by
  intro fuel behind enough
  rw [List.length_append, List.length_cons] at enough
  cases fuel with
  | zero => contradiction
  | succ fuel =>
      have ends : Follows (',' :: (rest ++ '\x7d' :: behind)) := follows_cons (by decide) _
      obtain ⟨afterMark, afterName, afterColon, left, opens, named, colon, scanned, skipped⟩ :=
        isReadMember fuel _ (by omega) ends
      have scannedOthers := isReadOthers fuel behind (by omega)
      rw [List.append_assoc, List.cons_append, opens, scanMembers, named]
      dsimp only [bind, Except.bind]
      rw [colon]
      change Except.bind (scanValue depth fuel (skipFiller afterColon)) _ = _
      rw [scanned]
      dsimp only [Except.bind]
      rw [skipped, skipFiller_cons (by decide)]
      change Except.bind (scanMembers depth fuel (skipFiller (rest ++ '\x7d' :: behind))) _ = _
      rw [scannedOthers]
      rfl

/-! ## Documents -/

/-- Every text that writes a piece within the limits is read back. -/
theorem Writes.isRead {piece : Piece} {text : Text} (writes : Writes piece text)
    (fits : piece.Fits depth) : piece.IsRead depth text := by
  -- The depth varies: what stands inside a composite value has one level less.
  induction writes generalizing depth with
  | null => exact isRead_null
  | bool value => exact isRead_bool value
  | number number isValue =>
      subst isValue
      exact isRead_number number fits
  | string spells => exact isRead_string spells
  | emptyArray filling =>
      cases fits with
      | array _ => exact isRead_emptyArray filling
  | array writesItems inductionHypothesis =>
      cases fits with
      | array fit => exact isRead_array writesItems (inductionHypothesis fit)
  | emptyObject filling =>
      cases fits with
      | object _ => exact isRead_emptyObject filling
  | object writesMembers inductionHypothesis =>
      cases fits with
      | object fit => exact isRead_object writesMembers (inductionHypothesis fit)
  | padded fillsBefore writesValue fillsAfter inductionHypothesis =>
      exact isRead_padded fillsBefore writesValue fillsAfter (inductionHypothesis fits)
  | lastItem _ inductionHypothesis =>
      exact isRead_lastItem (inductionHypothesis (fits _ List.mem_cons_self))
  | furtherItem _ _ itemHypothesis othersHypothesis =>
      exact isRead_furtherItem (itemHypothesis (fits _ List.mem_cons_self))
        (othersHypothesis fun content member => fits content (List.mem_cons_of_mem _ member))
  | member fillsBefore spellsName fillsGap _ inductionHypothesis =>
      exact isRead_member fillsBefore spellsName fillsGap (inductionHypothesis fits)
  | lastMember _ inductionHypothesis =>
      exact isRead_lastMember (inductionHypothesis (fits _ List.mem_cons_self))
  | furtherMember _ _ memberHypothesis othersHypothesis =>
      exact isRead_furtherMember (memberHypothesis (fits _ List.mem_cons_self))
        (othersHypothesis fun content member => fits content (List.mem_cons_of_mem _ member))

theorem scanDocument_of_writes {depth : Depth} {document : Json} {text : Text}
    (writes : WritesDocument document text) (fits : Fits depth.levels document) :
    scanDocument depth text = .ok document := by
  have follows : Follows [] := fun c isHead => absurd isHead (by simp)
  obtain ⟨left, scanned, skipped⟩ :=
    writes.isRead fits (text.length + 1) [] (Nat.le_succ _) follows
  rw [List.append_nil] at scanned
  rw [scanDocument, scanned]
  dsimp only [bind, Except.bind]
  rw [skipped]
  rfl

theorem Writes.ne_byteOrderMark {document : Json} {text : Text}
    (writes : WritesDocument document text) (rest : Text) : text ≠ '\ufeff' :: rest := by
  intro same
  cases writes with
  | @padded _ before text after fillsBefore writesValue fillsAfter =>
      cases before with
      | cons c before =>
          have filler := fillsBefore c List.mem_cons_self
          rw [(List.cons.inj same).1] at filler
          exact absurd filler (by decide)
      | nil =>
          obtain ⟨c, others, rfl, begins⟩ := writesValue.exists_head
          exact beginsValue_ne begins (by decide) (List.cons.inj same).1

/-- Every text that writes a document within the limits is read as that document. -/
theorem read_of_writes {depth : Depth} {document : Json} {text : Text}
    (writes : WritesDocument document text) (fits : Fits depth.levels document) :
    read text depth = .ok document := by
  unfold read
  split
  next rest => exact absurd rfl (writes.ne_byteOrderMark rest)
  next => rw [scanDocument_of_writes writes fits]

end Rendezvous.Json
