import Logbook.Proofs.Command.RangeKey
import Logbook.Proofs.Json.Equal
import Logbook.Search.Body

/-!
# Ranges on a command line

A range is two numbers with a hyphen between them, and it is refused where it starts after it ends.
A bound that is no number starts and ends nowhere, so this check does not find it.

* `Argument.numberRange_of_writesRange`, `Argument.numberRange_of_not_writesRange`: what becomes of
  a word.
* `Binary64.ofText?_eq_nan_iff`: the texts that write `nan`.
* `ranges_are_in_order_but_for_nan`: an accepted range is in order unless one of its sides writes
  `nan`; then it is accepted whatever the other bound is (`range_up_to_nan`).
-/

set_option autoImplicit false

namespace Logbook

/-! ## Numbers in no order -/

namespace Binary64

theorem ofParts_ne_nan (negative : Bool) (significand scale : Nat) :
    ofParts negative significand scale ≠ .nan := by
  unfold ofParts
  split <;> simp

theorem ofSteps_ne_nan (negative : Bool) (num den : Nat) : ofSteps negative num den ≠ .nan := by
  unfold ofSteps
  dsimp only
  split
  · exact ofParts_ne_nan _ _ _
  · exact ofParts_ne_nan _ _ _

/-- Two numbers have an order unless one of them is `nan`. -/
theorem order?_eq_none_iff {x y : Binary64} : x.order? y = none ↔ x = .nan ∨ y = .nan := by
  cases x <;> cases y <;> simp [order?]

/-- Characters that write `nan`: the word in any case, with a sign or without one. -/
def WritesNan (cs : List Char) : Prop :=
  ∃ sign word : List Char, cs = sign ++ word ∧ (sign = [] ∨ sign = ['+'] ∨ sign = ['-']) ∧
    word.map Char.toLower = ['n', 'a', 'n']

theorem writesNan_iff {cs : List Char} :
    WritesNan cs ↔ (spanSign cs).2.map Char.toLower = ['n', 'a', 'n'] := by
  constructor
  · rintro ⟨sign, word, rfl, rfl | rfl | rfl, hword⟩
    · -- the word itself begins with no sign
      have hspan : spanSign word = (false, word) := by
        unfold spanSign
        split
        · simp at hword
        · simp at hword
        · rfl
      rwa [List.nil_append, hspan]
    · exact hword
    · exact hword
  · intro h
    unfold spanSign at h
    split at h
    · exact ⟨['-'], _, rfl, .inr (.inr rfl), h⟩
    · exact ⟨['+'], _, rfl, .inr (.inl rfl), h⟩
    · exact ⟨[], cs, rfl, .inl rfl, h⟩

end Binary64

/-- A decimal is never read as `nan`. -/
theorem Decimal.toBinary64_ne_nan (d : Decimal) (negative : Bool) :
    d.toBinary64 negative ≠ .nan := by
  unfold toBinary64
  dsimp only
  split
  · simp
  · split
    · simp
    · split
      · simp
      · exact Binary64.ofSteps_ne_nan _ _ _

/-- A text is read as `nan` where it writes just that. -/
theorem Binary64.ofText?_eq_nan_iff {text : String} :
    ofText? text = some .nan ↔ WritesNan text.toList := by
  rw [writesNan_iff]
  unfold ofText?
  dsimp only
  generalize (spanSign text.toList).2 = cs
  have hword (word : String) :
      String.ofList (cs.map Char.toLower) = word ↔ cs.map Char.toLower = word.toList := by
    rw [← String.toList_inj, String.toList_ofList]
  simp only [hword]
  split
  · rename_i hinfinite
    rcases hinfinite with h | h <;> simp [h]
  · split
    · rename_i hnan
      simpa using hnan
    · rename_i hnan
      simp only [Option.map_eq_some_iff, Decimal.toBinary64_ne_nan, and_false, exists_false,
        false_iff]
      exact hnan

/-! ## The sides of a range -/

namespace Argument

open Binary64 (WritesNan)

/-- There is a hyphen behind the first character, which is one of ASCII, and the first such hyphen
stands between the two sides. -/
def HasSides (cs low high : List Char) : Prop :=
  cs = low ++ '-' :: high ∧ ∃ first rest, low = first :: rest ∧ first.toNat < 128 ∧ '-' ∉ rest

/-- The sides of a word are numbers, those of a range. -/
def WritesRange (word : String) (range : NumberRange) : Prop :=
  ∃ low high, HasSides word.toList low high ∧ numberOfChars? low = some range.low ∧
    numberOfChars? high = some range.high

/-- A side of a word is `nan`, white space around it apart. -/
def HasNanSide (word : String) : Prop :=
  ∃ low high, HasSides word.toList low high ∧
    (WritesNan (trimChars low) ∨ WritesNan (trimChars high))

theorem splitRange?_eq_some_iff {cs low high : List Char} :
    splitRange? cs = some (low, high) ↔ HasSides cs low high := by
  cases cs with
  | nil => simp [splitRange?, HasSides]
  | cons c cs =>
    rw [splitRange?]
    constructor
    · intro h
      split at h
      · rename_i hascii
        obtain ⟨⟨front, back⟩, hsplit, heq⟩ := Option.map_eq_some_iff.1 h
        cases heq
        obtain ⟨rfl, hfront⟩ := splitAt?_beq_eq_some_iff.1 hsplit
        exact ⟨rfl, c, front, rfl, hascii, hfront⟩
      · cases h
    · rintro ⟨heq, first, rest, rfl, hascii, hrest⟩
      rw [List.cons_append, List.cons.injEq] at heq
      obtain ⟨rfl, hcs⟩ := heq
      rw [if_pos hascii, splitAt?_beq_eq_some_iff.2 ⟨hcs, hrest⟩, Option.map_some]

/-- A word has its sides in one way. -/
theorem HasSides.unique {cs low high low' high' : List Char} (h : HasSides cs low high)
    (h' : HasSides cs low' high') : low = low' ∧ high = high' := by
  have hsame := (splitRange?_eq_some_iff.2 h).symm.trans (splitRange?_eq_some_iff.2 h')
  simpa using hsame

theorem numberOfChars?_eq_nan_iff {cs : List Char} :
    numberOfChars? cs = some .nan ↔ WritesNan (trimChars cs) := by
  rw [numberOfChars?, Binary64.ofText?_eq_nan_iff, trim, String.toList_ofList, String.toList_ofList]

section
variable {word : String} {range : NumberRange}

/-- A word that writes a range is that range, unless it starts after it ends. -/
theorem numberRange_of_writesRange (h : WritesRange word range) :
    numberRange word =
      if range.low.gt range.high then .error (.reversedRange word) else .ok range := by
  obtain ⟨low, high, hsides, hlow, hhigh⟩ := h
  simp only [numberRange, splitRange?_eq_some_iff.2 hsides, Option.bind_some, hlow, hhigh,
    Option.bind_eq_bind, Option.pure_def]

/-- A word that writes no range is refused. -/
theorem numberRange_of_not_writesRange (h : ∀ range, ¬WritesRange word range) :
    numberRange word = .error (.noRange word) := by
  have hnone : ((splitRange? word.toList).bind fun sides => do
      return (← numberOfChars? sides.1, ← numberOfChars? sides.2)) = none := by
    rw [Option.eq_none_iff_forall_ne_some]
    rintro ⟨x, y⟩ hread
    obtain ⟨⟨low, high⟩, hsplit, hread⟩ := Option.bind_eq_some_iff.1 hread
    obtain ⟨x', hlow, hread⟩ := Option.bind_eq_some_iff.1 hread
    obtain ⟨y', hhigh, hread⟩ := Option.bind_eq_some_iff.1 hread
    exact h ⟨x', y'⟩ ⟨low, high, splitRange?_eq_some_iff.1 hsplit, hlow, hhigh⟩
  simp only [numberRange]
  rw [hnone]

theorem writesRange_of_ok (h : numberRange word = .ok range) : WritesRange word range := by
  by_cases hwritten : ∃ written, WritesRange word written
  · obtain ⟨written, hwritten⟩ := hwritten
    have hread := numberRange_of_writesRange hwritten
    rw [h] at hread
    split at hread
    · cases hread
    · cases hread
      exact hwritten
  · rw [numberRange_of_not_writesRange (fun written hw => hwritten ⟨written, hw⟩)] at h
    cases h

/-- A bound is `nan` where its side writes that. -/
theorem hasNanSide_iff (h : WritesRange word range) :
    HasNanSide word ↔ range.low = .nan ∨ range.high = .nan := by
  obtain ⟨low, high, hsides, hlow, hhigh⟩ := h
  have hnan : HasNanSide word ↔ WritesNan (trimChars low) ∨ WritesNan (trimChars high) := by
    refine ⟨?_, fun h => ⟨low, high, hsides, h⟩⟩
    rintro ⟨low', high', hsides', h⟩
    obtain ⟨rfl, rfl⟩ := hsides.unique hsides'
    exact h
  rw [hnan, ← numberOfChars?_eq_nan_iff, ← numberOfChars?_eq_nan_iff, hlow, hhigh,
    Option.some.injEq, Option.some.injEq]

end

end Argument

/-! ## Ranges in order -/

namespace NumberRange

/-- Bounds that are numbers are in order, or the lower one is greater. -/
theorem isOrdered_iff {range : NumberRange} :
    range.IsOrdered ↔ range.low ≠ .nan ∧ range.high ≠ .nan ∧ range.low.gt range.high = false := by
  constructor
  · intro h
    exact ⟨h.low_ne_nan, h.high_ne_nan, h.gt_eq_false⟩
  · rintro ⟨hlow, hhigh, hgt⟩
    rcases horder : range.low.order? range.high with _ | order
    · exact absurd (Binary64.order?_eq_none_iff.1 horder) (not_or.2 ⟨hlow, hhigh⟩)
    · cases order with
      | lt => exact .inl horder
      | eq => exact .inr horder
      | gt => simp [Binary64.gt, horder] at hgt

theorem ofBinary64_eq_null_iff {x : Binary64} (hx : x ≠ .nan) :
    Json.ofBinary64 x = .null ↔ ∃ negative, x = .infinite negative := by
  cases x with
  | nan => exact absurd rfl hx
  | infinite negative => simp [Json.ofBinary64, Binary64.finite?]
  | finite x => simp [Json.ofBinary64, Binary64.finite?]

/-- In the body of a search the bounds of a range in order are missing only where they are
infinite. -/
theorem IsOrdered.missing_iff {range : NumberRange} (h : range.IsOrdered) :
    (range.group.toBody.field? "from" = some .null ↔ ∃ negative, range.low = .infinite negative) ∧
      (range.group.toBody.field? "to" = some .null ↔
        ∃ negative, range.high = .infinite negative) := by
  have hfield (key : String) : range.group.toBody.field? key =
      [("key", .string range.key), ("from", .ofBinary64 range.low),
        ("to", .ofBinary64 range.high)].lookup key := Json.lookup_orderFields (by simp) key
  rw [← ofBinary64_eq_null_iff h.low_ne_nan, ← ofBinary64_eq_null_iff h.high_ne_nan, hfield, hfield]
  simp [List.lookup]

end NumberRange

open Argument in
/-- **An accepted range is in order unless one of its sides writes `nan`.** A word neither side of
which writes `nan` is accepted where its sides are numbers in order, so that no bound is missing in
the body of a search unless it is infinite; it is refused where it starts after it ends, and where a
side is no number at all. A side that writes `nan` escapes the check: the word is accepted with
bounds in no order, whatever the other side is. -/
theorem ranges_are_in_order_but_for_nan (word : String) :
    (¬HasNanSide word →
      (∀ range, Argument.numberRange word = .ok range ↔ WritesRange word range ∧ range.IsOrdered) ∧
      (∀ range, Argument.numberRange word = .ok range →
        (range.group.toBody.field? "from" = some .null ↔
          ∃ negative, range.low = .infinite negative) ∧
        (range.group.toBody.field? "to" = some .null ↔
          ∃ negative, range.high = .infinite negative)) ∧
      ∀ range, WritesRange word range → ¬range.IsOrdered →
        Argument.numberRange word = .error (.reversedRange word)) ∧
    ((∀ range, ¬WritesRange word range) →
      Argument.numberRange word = .error (.noRange word)) ∧
    ∀ range, WritesRange word range → HasNanSide word →
      Argument.numberRange word = .ok range ∧ ¬range.IsOrdered := by
  have hordered {range : NumberRange} (hnan : ¬HasNanSide word) (h : WritesRange word range) :
      range.IsOrdered ↔ range.low.gt range.high = false := by
    rw [hasNanSide_iff h, not_or] at hnan
    rw [NumberRange.isOrdered_iff]
    simp only [ne_eq, hnan.1, hnan.2, not_false_eq_true, true_and]
  have haccepted (hnan : ¬HasNanSide word) (range : NumberRange) :
      Argument.numberRange word = .ok range ↔ WritesRange word range ∧ range.IsOrdered := by
    constructor
    · intro h
      have hwritten := writesRange_of_ok h
      refine ⟨hwritten, (hordered hnan hwritten).2 ?_⟩
      rw [numberRange_of_writesRange hwritten] at h
      split at h
      · cases h
      · rename_i hgt
        rwa [Bool.not_eq_true] at hgt
    · rintro ⟨hwritten, hrange⟩
      rw [numberRange_of_writesRange hwritten, hrange.gt_eq_false]
      rfl
  refine ⟨fun hnan => ⟨haccepted hnan, fun range h => ?_, fun range hwritten hrange => ?_⟩,
    numberRange_of_not_writesRange, fun range hwritten hnan => ?_⟩
  · exact ((haccepted hnan range).1 h).2.missing_iff
  · rw [hordered hnan hwritten, Bool.not_eq_false] at hrange
    rw [numberRange_of_writesRange hwritten, if_pos hrange]
  · have hbounds := (hasNanSide_iff hwritten).1 hnan
    have hnone := Binary64.order?_eq_none_iff.2 hbounds
    refine ⟨?_, fun hrange => ?_⟩
    · rw [numberRange_of_writesRange hwritten, Binary64.gt, hnone]
      rfl
    · rcases hbounds with h | h
      · exact hrange.low_ne_nan h
      · exact hrange.high_ne_nan h

/-- A range from one up to `nan` is accepted, and its upper bound is missing in the body of a
search. -/
theorem range_up_to_nan :
    ∃ range, Argument.numberRange "1-nan" = .ok range ∧ ¬range.IsOrdered ∧
      range.group.toBody.field? "to" = some .null := by
  refine ⟨⟨.finite ⟨false, 2 ^ 52, 1022, by decide, by decide, .inr (by decide)⟩, .nan⟩, ?_, ?_, ?_⟩
  · decide +kernel
  · decide
  · rfl

end Logbook
