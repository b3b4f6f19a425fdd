import Mathlib.Data.List.Induction
import Mathlib.Data.List.TakeWhile
import Mathlib.Tactic.IntervalCases
import Mathlib.Tactic.Lemma
import Supervision.Text.Blank
import Supervision.Text.Number

/-!
# Numerals

What is written where a number is asked for, said without the reader of it: `Numeral` is decimal
digits after a plus sign or not, and `Trims` takes the blanks off both ends of a text.
`readDecimal?_eq_some_iff` and `trimBlank_eq_iff` say that this is what is read.
-/

namespace Supervision.Text

/-! ## Digits -/

/-- Decimal digits write a number, the most significant digit first. -/
inductive Digits : List Char → Nat → Prop where
  | one {d} :
    d < 10 →
    Digits [d.digitChar] d
  | more {cs n d} :
    Digits cs n →
    d < 10 →
    Digits (cs ++ [d.digitChar]) (n * 10 + d)

/-- A text writes a number: at least one digit, after a plus sign or not. -/
inductive Numeral : List Char → Nat → Prop where
  | plain {cs n} :
    Digits cs n →
    Numeral cs n
  | signed {cs n} :
    Digits cs n →
    Numeral ('+' :: cs) n

/-- The digit of a number has this number for its value. -/
lemma digitValue?_digitChar {d : Nat} (small : d < 10) : digitValue? 10 d.digitChar = some d := by
  interval_cases d <;> rfl

/-- Every digit is that of its value. -/
lemma eq_digitChar {c : Char} {d : Nat} (digit : digitValue? 10 c = some d) :
    d < 10 ∧ c = d.digitChar := by
  obtain ⟨found, small⟩ := Option.filter_eq_some_iff.1 digit
  have small : d < 10 := by simpa using small
  refine ⟨small, ?_⟩
  split at found
  next range =>
    have code : c.toNat = 48 + d := by
      rw [Bool.and_eq_true, decide_eq_true_iff, decide_eq_true_iff] at range
      have low : '0'.toNat ≤ c.toNat := range.1
      have same : c.toNat - '0'.toNat = d := Option.some.inj found
      have zero : '0'.toNat = 48 := rfl
      omega
    rw [← Char.ofNat_toNat c, code]
    interval_cases d <;> rfl
  next =>
    -- A letter is worth ten at least.
    split at found
    next => simp at found; omega
    next =>
      split at found
      next => simp at found; omega
      next => cases found

/-- The number that some digits write, where all are digits. -/
def digitsValue? (cs : List Char) : Option Nat :=
  (cs.mapM (digitValue? 10)).map (ofDigits 10)

/-- One more digit counts its value, and the others ten times. -/
lemma digitsValue?_append (cs : List Char) (c : Char) :
    digitsValue? (cs ++ [c]) =
      (digitsValue? cs).bind fun n => (digitValue? 10 c).map fun d => n * 10 + d := by
  simp only [digitsValue?, List.mapM_append]
  cases cs.mapM (digitValue? 10) with
  | none => rfl
  | some ds =>
    cases digit : digitValue? 10 c with
    | none => simp [digit]
    | some d => simp [digit, ofDigits]

/-- Digits write a number if there are any and it is their value. -/
lemma digits_iff {cs : List Char} {n : Nat} :
    Digits cs n ↔ cs ≠ [] ∧ digitsValue? cs = some n := by
  constructor
  · intro digits
    induction digits with
    | one small => simp [digitsValue?, digitValue?_digitChar small, ofDigits]
    | more _ small ih =>
      rw [digitsValue?_append, ih.2, digitValue?_digitChar small]
      simp
  · rintro ⟨some, value⟩
    induction cs using List.reverseRecOn generalizing n with
    | nil => exact absurd rfl some
    | append_singleton cs c ih =>
      rw [digitsValue?_append] at value
      obtain ⟨m, front, value⟩ := Option.bind_eq_some_iff.1 value
      obtain ⟨d, digit, rfl⟩ := Option.map_eq_some_iff.1 value
      obtain ⟨small, rfl⟩ := eq_digitChar digit
      by_cases first : cs = []
      · subst first
        cases front
        simpa [ofDigits] using Digits.one small
      · exact .more (ih first front) small

/-- What is read are digits below the bound. -/
lemma readDigits?_eq_some_iff {bound n : Nat} {cs : List Char} :
    readDigits? bound cs = some n ↔ Digits cs n ∧ n < bound := by
  rw [digits_iff, readDigits?, Option.ite_none_left_eq_some, ← digitsValue?]
  simp [Option.filter_eq_some_iff, and_assoc]

/-- A plus sign is no digit. -/
lemma digits_not_plus {cs : List Char} {n : Nat} : ¬Digits ('+' :: cs) n := by
  rw [digits_iff, digitsValue?, List.mapM_cons]
  rintro ⟨-, value⟩
  cases value

/-- What is read is a numeral below the bound. -/
lemma readDecimal?_eq_some_iff {bound n : Nat} {cs : List Char} :
    readDecimal? bound cs = some n ↔ Numeral cs n ∧ n < bound := by
  unfold readDecimal?
  split
  next digits =>
    rw [readDigits?_eq_some_iff]
    refine and_congr_left fun _ => ⟨.signed, fun numeral => ?_⟩
    cases numeral with
    | plain plain => exact absurd plain digits_not_plus
    | signed digits => exact digits
  next unsigned =>
    rw [readDigits?_eq_some_iff]
    refine and_congr_left fun _ => ⟨.plain, fun numeral => ?_⟩
    cases numeral with
    | plain plain => exact plain
    | signed digits => exact absurd rfl (unsigned _)

/-! ## Blanks -/

/-- A text without the blanks at its two ends. -/
structure Trims (text inner : List Char) : Prop where
  blank : ∃ front back, text = front ++ inner ++ back ∧ (∀ c ∈ front, isBlank c) ∧
    ∀ c ∈ back, isBlank c
  first : ∀ c ∈ inner.head?, ¬isBlank c
  last : ∀ c ∈ inner.getLast?, ¬isBlank c

/-- What is dropped ends where the first other character stands. -/
lemma dropWhile_append_of_head? {p : Char → Bool} {front inner : List Char}
    (dropped : ∀ c ∈ front, p c) (kept : ∀ c ∈ inner.head?, ¬p c) :
    (front ++ inner).dropWhile p = inner := by
  rw [List.dropWhile_append_of_pos dropped]
  cases inner with
  | nil => rfl
  | cons c inner => exact List.dropWhile_cons_of_neg (kept c rfl)

/-- Nothing more is dropped where the dropping ends. -/
lemma head?_dropWhile {p : Char → Bool} (text : List Char) :
    ∀ c ∈ (text.dropWhile p).head?, ¬p c := by
  intro c head
  have kept := List.head?_dropWhile_not p text
  rw [Option.mem_def.1 head] at kept
  simpa using kept

/-- What is trimmed is the text without the blanks at its ends. -/
lemma trims_trimBlank (text : List Char) : Trims text (trimBlank text) := by
  have front : text.takeWhile isBlank ++ text.dropWhile isBlank = text :=
    List.takeWhile_append_dropWhile
  have first := head?_dropWhile (p := isBlank) text
  unfold trimBlank dropEndWhile
  generalize text.dropWhile isBlank = middle at front first
  have back : (middle.reverse.dropWhile isBlank).reverse ++
      (middle.reverse.takeWhile isBlank).reverse = middle := by
    rw [← List.reverse_append, List.takeWhile_append_dropWhile, List.reverse_reverse]
  constructor
  case blank =>
    refine ⟨text.takeWhile isBlank, (middle.reverse.takeWhile isBlank).reverse, ?_, ?_, ?_⟩
    · rw [List.append_assoc, back, front]
    · exact fun c => List.mem_takeWhile_imp
    · exact fun c member => List.mem_takeWhile_imp (List.mem_reverse.1 member)
  case first =>
    intro c head
    refine first c ?_
    rw [← back, List.head?_append, Option.mem_def.1 head]
    rfl
  case last =>
    rw [List.getLast?_reverse]
    exact head?_dropWhile middle.reverse

/-- What is left is the text without the blanks at its ends. -/
lemma trimBlank_eq_iff {text inner : List Char} : trimBlank text = inner ↔ Trims text inner := by
  constructor
  · rintro rfl
    exact trims_trimBlank text
  · rintro ⟨⟨front, back, rfl, blankFront, blankBack⟩, first, last⟩
    rw [trimBlank, dropEndWhile, List.append_assoc]
    cases inner with
    | nil =>
      have blank : (front ++ ([] ++ back)).dropWhile isBlank = [] := by
        rw [List.dropWhile_append_of_pos blankFront]
        exact List.dropWhile_eq_nil_iff.2 blankBack
      rw [blank]
      rfl
    | cons c inner =>
      rw [dropWhile_append_of_head? blankFront (by simpa using first), List.reverse_append,
        dropWhile_append_of_head?, List.reverse_reverse]
      · simpa using blankBack
      · rwa [List.head?_reverse]

end Supervision.Text
