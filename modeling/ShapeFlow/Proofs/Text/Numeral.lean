import Mathlib.Data.List.TakeWhile
import ShapeFlow.Proofs.Shape
import ShapeFlow.Text.Blank
import ShapeFlow.Text.Numeral

/-!
Numerals as a grammar. Trimming a text leaves what stands between the blanks at its ends, and what is left
is read as a dimension exactly if it is a decimal numeral, with a plus sign before it or without, of a number
that fits into a word.
-/

namespace ShapeFlow.Text

/-! ### Blanks -/

/-- A text of blanks only. -/
def Blank (text : List Char) : Prop :=
  ∀ c ∈ text, isBlank c = true

instance (text : List Char) : Decidable (Blank text) :=
  List.decidableBAll (isBlank · = true) text

/-- A text that neither begins nor ends with a blank. -/
structure Tight (text : List Char) : Prop where
  head : ∀ c ∈ text.head?, isBlank c = false
  last : ∀ c ∈ text.getLast?, isBlank c = false

section

variable {text before middle after : List Char}

theorem Tight.of_forall (h : ∀ c ∈ text, isBlank c = false) : Tight text where
  head := fun c hc => h c (List.mem_of_head? hc)
  last := fun c hc => h c (List.mem_of_getLast? hc)

private theorem dropWhile_isBlank_of_head (h : ∀ c ∈ text.head?, isBlank c = false) :
    text.dropWhile isBlank = text := by
  cases text with
  | nil => rfl
  | cons c rest =>
    have hc : isBlank c = false := h c rfl
    rw [List.dropWhile_cons_of_neg (by simp [hc])]

theorem exists_blanks_trim (text : List Char) :
    ∃ before after, Blank before ∧ Blank after ∧ text = before ++ trim text ++ after := by
  refine ⟨text.takeWhile isBlank, ((text.dropWhile isBlank).reverse.takeWhile isBlank).reverse,
    fun c hc => List.mem_takeWhile_imp hc, fun c hc => List.mem_takeWhile_imp (List.mem_reverse.1 hc), ?_⟩
  have hrest : trim text ++ ((text.dropWhile isBlank).reverse.takeWhile isBlank).reverse =
      text.dropWhile isBlank := by
    rw [trim, ← List.reverse_append, List.takeWhile_append_dropWhile, List.reverse_reverse]
  rw [List.append_assoc, hrest, List.takeWhile_append_dropWhile]

/-- Blanks at the ends do not count. -/
theorem trim_append (hbefore : Blank before) (hmiddle : Tight middle) (hafter : Blank after) :
    trim (before ++ middle ++ after) = middle := by
  rw [trim, List.append_assoc, List.dropWhile_append_of_pos hbefore]
  cases middle with
  | nil =>
    have hnone : after.dropWhile isBlank = [] := List.dropWhile_eq_nil_iff.2 hafter
    rw [List.nil_append, hnone]
    rfl
  | cons c rest =>
    have hlast : ∀ last ∈ (c :: rest).reverse.head?, isBlank last = false := by
      rw [List.head?_reverse]
      exact hmiddle.last
    have hafter' : ∀ last ∈ after.reverse, isBlank last = true :=
      fun last hmem => hafter last (List.mem_reverse.1 hmem)
    have hhead : ((c :: rest) ++ after).dropWhile isBlank = (c :: rest) ++ after :=
      dropWhile_isBlank_of_head hmiddle.head
    rw [hhead, List.reverse_append, List.dropWhile_append_of_pos hafter', dropWhile_isBlank_of_head hlast,
      List.reverse_reverse]

theorem trim_eq_nil_iff : trim text = [] ↔ Blank text := by
  constructor
  · intro h c hc
    obtain ⟨before, after, hbefore, hafter, htext⟩ := exists_blanks_trim text
    rw [h, List.append_nil] at htext
    rcases List.mem_append.1 (htext ▸ hc) with hc | hc
    · exact hbefore c hc
    · exact hafter c hc
  · intro h
    have hnone : Blank [] := by simp [Blank]
    have htight : Tight [] := .of_forall (by simp)
    simpa using trim_append h htight hnone

end

/-! ### Decimal numerals -/

/-- The decimal numerals of a number: at least one digit, with leading zeros or without. -/
inductive Decimal : List Char → Nat → Prop
  | digit {figure : Nat} (h : figure < 10) : Decimal [figure.digitChar] figure
  | snoc {digits : List Char} {value figure : Nat} (hdigits : Decimal digits value) (h : figure < 10) :
      Decimal (digits ++ [figure.digitChar]) (10 * value + figure)

section

variable {digits text : List Char} {value : Nat} {dim : Dim}

theorem toNat_of_isDigit {c : Char} (h : c.isDigit = true) : 48 ≤ c.toNat ∧ c.toNat ≤ 57 :=
  Char.isDigit_iff_toNat.1 h

theorem exists_digitChar {c : Char} (h : c.isDigit = true) :
    ∃ figure < 10, Nat.digitChar figure = c := by
  obtain ⟨hlow, hhigh⟩ := toNat_of_isDigit h
  refine ⟨c.toNat - 48, by omega, Char.toNat_inj.1 ?_⟩
  rw [Nat.toNat_digitChar_of_lt_ten (by omega)]
  omega

theorem decimal_iff : Decimal digits value ↔
    digits ≠ [] ∧ (∀ c ∈ digits, c.isDigit = true) ∧ Nat.ofDigitChars 10 digits 0 = value := by
  constructor
  · intro h
    induction h with
    | digit h =>
      refine ⟨by simp, by simpa [Nat.isDigit_digitChar] using h, ?_⟩
      rw [Nat.ofDigitChars_cons_digitChar_of_lt_ten h, Nat.ofDigitChars_nil, Nat.mul_zero, Nat.zero_add]
    | snoc _ h ih =>
      obtain ⟨-, hdigits, hvalue⟩ := ih
      refine ⟨by simp, ?_, ?_⟩
      · rintro c hc
        rcases List.mem_append.1 hc with hc | hc
        · exact hdigits c hc
        · rw [List.mem_singleton.1 hc, Nat.isDigit_digitChar]
          exact decide_eq_true h
      · rw [Nat.ofDigitChars_append, hvalue, Nat.ofDigitChars_cons_digitChar_of_lt_ten h,
          Nat.ofDigitChars_nil]
  · rintro ⟨hne, hdigits, rfl⟩
    -- numerals grow at the end, as the value does
    induction digits using List.reverseRecOn with
    | nil => exact absurd rfl hne
    | append_singleton digits c ih =>
      obtain ⟨figure, hfigure, rfl⟩ := exists_digitChar (hdigits c (by simp))
      rw [Nat.ofDigitChars_append, Nat.ofDigitChars_cons_digitChar_of_lt_ten hfigure, Nat.ofDigitChars_nil]
      by_cases hnil : digits = []
      · subst hnil
        simpa using Decimal.digit hfigure
      · exact .snoc (ih hnil fun c hc => hdigits c (by simp [hc])) hfigure

theorem natural?_eq_some_iff : natural? text = some value ↔ Decimal text value := by
  rw [decimal_iff]
  unfold natural?
  split
  · next h => simp_all
  · next h =>
    simp only [reduceCtorEq, false_iff]
    rintro ⟨hne, hdigits, -⟩
    exact h (by simpa [hne] using hdigits)

theorem decimal_toDigits (value : Nat) : Decimal (Nat.toDigits 10 value) value :=
  decimal_iff.2 ⟨Nat.toDigits_ne_nil,
    fun _ hc => Nat.isDigit_of_mem_toDigits (by omega) (by omega) hc, Nat.ofDigitChars_ten_toDigits⟩

/-- A dimension in decimal digits, with a plus sign before them or without. -/
def WritesDim (text : List Char) (dim : Dim) : Prop :=
  ∃ digits, Decimal digits dim.toNat ∧ (text = digits ∨ text = '+' :: digits)

theorem dim?_eq_some_iff : dim? text = some dim ↔ WritesDim text dim := by
  have hdigits : ∀ digits, natural? digits >>= Dim.ofNat? = some dim ↔ Decimal digits dim.toNat := by
    intro digits
    simp only [Option.bind_eq_bind, Option.bind_eq_some_iff, natural?_eq_some_iff, Dim.ofNat?_eq_some_iff,
      exists_eq_right']
  unfold dim? WritesDim
  split
  · next digits =>
    rw [hdigits]
    constructor
    · exact fun h => ⟨digits, h, .inr rfl⟩
    · rintro ⟨digits', h, rfl | heq⟩
      · exact absurd ((decimal_iff.1 h).2.1 '+' (by simp)) (by decide)
      · cases heq
        exact h
  · next hsign =>
    rw [hdigits]
    constructor
    · exact fun h => ⟨text, h, .inl rfl⟩
    · rintro ⟨digits', h, rfl | heq⟩
      · exact h
      · exact absurd heq (hsign digits')

theorem not_blank_of_isDigit {c : Char} (h : c.isDigit = true) : isBlank c = false := by
  obtain ⟨hlow, hhigh⟩ := toNat_of_isDigit h
  simp only [isBlank, blankRanges, List.any_cons, List.any_nil, Bool.or_eq_false_iff, Bool.and_eq_false_iff,
    decide_eq_false_iff_not, and_true]
  omega

/-- A numeral is made of digits and signs. -/
theorem WritesDim.digit_or_sign (h : WritesDim text dim) : ∀ c ∈ text, c.isDigit = true ∨ c = '+' := by
  obtain ⟨digits, hdecimal, rfl | rfl⟩ := h
  · exact fun c hc => .inl ((decimal_iff.1 hdecimal).2.1 c hc)
  · intro c hc
    rcases List.mem_cons.1 hc with rfl | hc
    · exact .inr rfl
    · exact .inl ((decimal_iff.1 hdecimal).2.1 c hc)

theorem WritesDim.tight (h : WritesDim text dim) : Tight text := by
  refine .of_forall fun c hc => ?_
  rcases h.digit_or_sign c hc with hdigit | rfl
  · exact not_blank_of_isDigit hdigit
  · decide

/-- A dimension with blanks around its numeral. -/
def WritesPadded (text : List Char) (dim : Dim) : Prop :=
  ∃ before numeral after, Blank before ∧ WritesDim numeral dim ∧ Blank after ∧
    text = before ++ numeral ++ after

theorem dim?_trim_eq_some_iff : dim? (trim text) = some dim ↔ WritesPadded text dim := by
  rw [dim?_eq_some_iff]
  constructor
  · intro h
    obtain ⟨before, after, hbefore, hafter, htext⟩ := exists_blanks_trim text
    exact ⟨before, trim text, after, hbefore, h, hafter, htext⟩
  · rintro ⟨before, numeral, after, hbefore, h, hafter, rfl⟩
    rwa [trim_append hbefore h.tight hafter]

theorem WritesPadded.comma_not_mem (h : WritesPadded text dim) : ',' ∉ text := by
  obtain ⟨before, numeral, after, hbefore, hnumeral, hafter, rfl⟩ := h
  intro hcomma
  rcases List.mem_append.1 hcomma with hcomma | hcomma
  · rcases List.mem_append.1 hcomma with hcomma | hcomma
    · exact absurd (hbefore _ hcomma) (by decide)
    · exact absurd (hnumeral.digit_or_sign _ hcomma) (by decide)
  · exact absurd (hafter _ hcomma) (by decide)

end

end ShapeFlow.Text
