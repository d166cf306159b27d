import LinkedQuery.Json.Printer
import LinkedQuery.Json.Reader
import LinkedQuery.Proofs.Number.Decimal

/-!
Contract: written numbers read back.

Owns:
- runs of digits: where they end and what they are worth;
- numerals with a point or an exponent, and the number that is read from one;
- the layout of a decimal as such a numeral of the same value;
- integers and finite binary64 numbers, which read back as they are printed.

Does not own: the values around a number.
-/

namespace LinkedQuery

/-! ## Runs of digits -/

theorem Text.digitsValue_map_char (digits : List Char) :
    Text.digitsValue (digits.map CodePoint.char) = Nat.ofDigitChars 10 digits 0 := by
  rw [Text.digitsValue, Nat.ofDigitChars_eq_foldl, List.foldl_map]
  simp only [CodePoint.toNat, Nat.mul_comm 10]

/-- Whether all characters are decimal digits. -/
def AreDigits (chars : List Char) : Prop :=
  ∀ char ∈ chars, char.isDigit = true

theorem areDigits_toDigits (value : Nat) : AreDigits (Nat.toDigits 10 value) :=
  fun _ member => Nat.isDigit_of_mem_toDigits (by decide) (by decide) member

theorem areDigits_replicate (count : Nat) : AreDigits (List.replicate count '0') := by
  intro char member
  rw [List.eq_of_mem_replicate member]
  rfl

theorem AreDigits.append {left right : List Char} (leftDigits : AreDigits left)
    (rightDigits : AreDigits right) : AreDigits (left ++ right) := by
  intro char member
  exact (List.mem_append.mp member).elim (leftDigits char) (rightDigits char)

theorem AreDigits.head?_ne_minus {digits : List Char} (areDigits : AreDigits digits) :
    digits.head? ≠ some '-' := by
  intro minus
  exact absurd (areDigits '-' (List.mem_of_mem_head? minus)) (by decide)

/-- A digit is first and only alone a zero. -/
def Leads (chars : List Char) : Prop :=
  chars ≠ [] ∧ (chars.head? = some '0' → chars = ['0'])

theorem head?_toDigits_ne_zero {value : Nat} (nonzero : value ≠ 0) :
    (Nat.toDigits 10 value).head? ≠ some '0' := by
  have single : ∀ digit < 10, digit ≠ 0 → [Nat.digitChar digit].head? ≠ some '0' := by decide
  induction value using Nat.strongRecOn with
  | ind value inductionHypothesis =>
      rw [Nat.toDigits_eq_if (by decide)]
      split_ifs with small
      · exact single value small nonzero
      · have positive : value / 10 ≠ 0 := by omega
        have nonempty : Nat.toDigits 10 (value / 10) ≠ [] :=
          List.ne_nil_of_length_pos Nat.length_toDigits_pos
        rw [List.head?_append, Option.or_of_isSome (List.isSome_head?.mpr nonempty)]
        exact inductionHypothesis (value / 10) (by omega) positive

theorem leads_toDigits (value : Nat) : Leads (Nat.toDigits 10 value) := by
  refine ⟨List.ne_nil_of_length_pos Nat.length_toDigits_pos, ?_⟩
  intro zero
  by_cases isZero : value = 0
  · rw [isZero]
    rfl
  · exact absurd zero (head?_toDigits_ne_zero isZero)

namespace Json

/-- Whether what follows a number cannot belong to it. -/
def EndsNumber (rest : List CodePoint) : Prop :=
  ∀ code ∈ rest.head?, code.isDigit = false ∧ code ≠ '.' ∧ code ≠ 'e' ∧ code ≠ 'E'

variable {digits whole places : List Char} {rest : List CodePoint} {negative : Bool}

/-- A run of digits goes as far as it can. -/
theorem takeWhile_isDigit
    (areDigits : AreDigits digits)
    (stops : ∀ code ∈ rest.head?, code.isDigit = false) :
    (digits.map CodePoint.char ++ rest).takeWhile CodePoint.isDigit =
      digits.map CodePoint.char := by
  have stopped : rest.takeWhile CodePoint.isDigit = [] := by
    cases rest with
    | nil => rfl
    | cons code codes => rw [List.takeWhile_cons, stops code rfl, if_neg Bool.false_ne_true]
  rw [List.takeWhile_append_of_pos, stopped, List.append_nil]
  intro code member
  obtain ⟨char, charMember, rfl⟩ := List.mem_map.mp member
  exact areDigits char charMember

theorem wholeDigits_eq
    (areDigits : AreDigits whole)
    (leads : Leads whole)
    (stops : ∀ code ∈ rest.head?, code.isDigit = false) :
    wholeDigits (whole.map CodePoint.char ++ rest) = whole.map CodePoint.char := by
  obtain ⟨nonempty, alone⟩ := leads
  obtain ⟨first, more, rfl⟩ := List.exists_cons_of_ne_nil nonempty
  by_cases zero : first = '0'
  · obtain ⟨rfl, rfl⟩ := List.cons.inj (alone (congrArg some zero))
    rfl
  · rw [wholeDigits]
    · exact takeWhile_isDigit areDigits stops
    · intro codes same
      simp only [List.map_cons, List.cons_append, List.cons.injEq, CodePoint.char.injEq] at same
      exact zero same.1

/-! ## Numerals -/

/-- A number that is written with a point or with an exponent: the digits before
the point, those after it, and the power of ten. -/
structure Numeral where
  whole : List Char
  places : List Char
  power : Option Int
  wholeDigits : AreDigits whole
  wholeLeads : Leads whole
  placesDigits : AreDigits places
  notInteger : places ≠ [] ∨ power ≠ none

namespace Numeral

/-- The digits after the point, if there are any. -/
def fractionChars (places : List Char) : List Char :=
  if places.isEmpty then [] else '.' :: places

/-- The exponent, if there is one. -/
def powerChars (power : Option Int) : List Char :=
  match power with
  | some power => Decimal.exponentText power
  | none => []

/-- A numeral as it is written. -/
def chars (numeral : Numeral) : List Char :=
  numeral.whole ++ (fractionChars numeral.places ++ powerChars numeral.power)

/-- The number that a numeral stands for. -/
def value (negative : Bool) (numeral : Numeral) : Double :=
  Double.ofDecimal negative (Nat.ofDigitChars 10 (numeral.whole ++ numeral.places) 0)
    (numeral.power.getD 0 - numeral.places.length)

end Numeral

theorem readExponent_of_ends (ends : EndsNumber rest) : readExponent rest = none := by
  cases rest with
  | nil => rfl
  | cons code codes =>
      obtain ⟨-, -, noSmall, noLarge⟩ := ends code rfl
      simp [readExponent, noSmall, noLarge]

/-- The digits of an exponent, filled up to two, are worth its size. -/
theorem exists_exponentDigits (power : Int) :
    ∃ digits,
      Decimal.exponentText power = 'e' :: (if power < 0 then '-' else '+') :: digits ∧
      AreDigits digits ∧ digits ≠ [] ∧ Nat.ofDigitChars 10 digits 0 = power.natAbs := by
  have areDigits := areDigits_toDigits power.natAbs
  by_cases short : (Nat.toDigits 10 power.natAbs).length < 2
  · refine ⟨'0' :: Nat.toDigits 10 power.natAbs, ?_, (areDigits_replicate 1).append areDigits,
      List.cons_ne_nil _ _, ?_⟩
    · simp only [Decimal.exponentText, short, if_true]
    · rw [Nat.ofDigitChars_cons, Nat.sub_self, Nat.ofDigitChars_ten_toDigits]
  · refine ⟨Nat.toDigits 10 power.natAbs, ?_, areDigits, (leads_toDigits _).1,
      Nat.ofDigitChars_ten_toDigits⟩
    simp only [Decimal.exponentText, short, if_false]

theorem readExponent_exponentText (power : Int) (ends : EndsNumber rest) :
    readExponent ((Decimal.exponentText power).map CodePoint.char ++ rest) = some (power, rest) := by
  obtain ⟨digits, text_eq, areDigits, nonempty, worth⟩ := exists_exponentDigits power
  have run := takeWhile_isDigit areDigits fun code member => (ends code member).1
  have value_eq :
      (if power < 0 then -(Text.digitsValue (digits.map CodePoint.char) : Int)
        else Text.digitsValue (digits.map CodePoint.char)) = power := by
    rw [Text.digitsValue_map_char, worth]
    split_ifs
    · omega
    · omega
  rw [text_eq]
  by_cases below : power < 0
  · rw [if_pos below] at value_eq ⊢
    simp [readExponent, run, nonempty, value_eq]
  · rw [if_neg below] at value_eq ⊢
    simp [readExponent, run, nonempty, value_eq]

/-- What follows the digits after a point. -/
theorem powerChars_head? (power : Option Int) (ends : EndsNumber rest) :
    ∀ code ∈ ((Numeral.powerChars power).map CodePoint.char ++ rest).head?,
      code.isDigit = false ∧ code ≠ '.' := by
  cases power with
  | none =>
      intro code member
      exact ⟨(ends code member).1, (ends code member).2.1⟩
  | some power =>
      obtain ⟨digits, text_eq, -⟩ := exists_exponentDigits power
      intro code member
      simp only [Numeral.powerChars, text_eq, List.map_cons, List.cons_append, List.head?_cons,
        Option.mem_some_iff] at member
      rw [← member]
      decide

theorem readExponent_powerChars (power : Option Int) (ends : EndsNumber rest) :
    readExponent ((Numeral.powerChars power).map CodePoint.char ++ rest) =
      power.map fun power => (power, rest) := by
  cases power with
  | none => exact readExponent_of_ends ends
  | some power => exact readExponent_exponentText power ends

theorem fractionChars_head?
    (places : List Char)
    (after : ∀ code ∈ rest.head?, code.isDigit = false ∧ code ≠ '.') :
    ∀ code ∈ ((Numeral.fractionChars places).map CodePoint.char ++ rest).head?,
      code.isDigit = false := by
  cases places with
  | nil => exact fun code member => (after code member).1
  | cons place places =>
      intro code member
      rw [← Option.mem_some_iff.mp member]
      rfl

theorem readFraction_of_head? (after : ∀ code ∈ rest.head?, code ≠ '.') :
    readFraction rest = none := by
  unfold readFraction
  split
  next => exact absurd rfl (after (.char '.') rfl)
  next => rfl

theorem readFraction_fractionChars
    (areDigits : AreDigits places)
    (after : ∀ code ∈ rest.head?, code.isDigit = false ∧ code ≠ '.') :
    readFraction ((Numeral.fractionChars places).map CodePoint.char ++ rest) =
      if places.isEmpty then none else some (places.map CodePoint.char, rest) := by
  cases places with
  | nil => exact readFraction_of_head? fun code member => (after code member).2
  | cons place places =>
      have run := takeWhile_isDigit areDigits fun code member => (after code member).1
      show readFraction (.char '.' :: ((place :: places).map CodePoint.char ++ rest)) = _
      simp only [readFraction, run]
      rw [if_neg (by simp), List.drop_left, if_neg (by simp)]

/-- A numeral is read as the number that it stands for. -/
theorem readMagnitude_numeral (numeral : Numeral) (ends : EndsNumber rest) :
    readMagnitude negative (numeral.chars.map CodePoint.char ++ rest) =
      .ok (.float (numeral.value negative), rest) := by
  obtain ⟨whole, places, power, wholeDigits, wholeLeads, placesDigits, notInteger⟩ := numeral
  obtain ⟨afterPlaces, afterPlaces_eq⟩ :
      ∃ afterPlaces, afterPlaces = (Numeral.powerChars power).map CodePoint.char ++ rest := ⟨_, rfl⟩
  have noDigit := powerChars_head? power ends
  have exponent_eq := readExponent_powerChars power ends
  rw [← afterPlaces_eq] at noDigit exponent_eq
  have whole_eq := wholeDigits_eq wholeDigits wholeLeads (fractionChars_head? places noDigit)
  have fraction_eq := readFraction_fractionChars placesDigits noDigit
  have nonempty : (whole.map CodePoint.char).isEmpty = false := by
    simp [wholeLeads.1]
  -- Each part is either there and read, or not there and skipped.
  have placesRead :
      ((if places.isEmpty then none else some (places.map CodePoint.char, afterPlaces)).map
        Prod.fst).getD [] = places.map CodePoint.char := by
    cases places <;> rfl
  have fractionPassed :
      ((if places.isEmpty then none else some (places.map CodePoint.char, afterPlaces)).map
        Prod.snd).getD ((Numeral.fractionChars places).map CodePoint.char ++ afterPlaces) =
          afterPlaces := by
    cases places <;> rfl
  have powerRead :
      ((power.map fun power => (power, rest)).map Prod.fst).getD 0 = power.getD 0 := by
    cases power <;> rfl
  have powerPassed :
      ((power.map fun power => (power, rest)).map Prod.snd).getD afterPlaces = rest := by
    cases power with
    | none => exact afterPlaces_eq
    | some power => rfl
  have noInteger :
      ((if places.isEmpty then none else some (places.map CodePoint.char, afterPlaces)).isNone &&
        (power.map fun power => (power, rest)).isNone) = false := by
    cases places with
    | nil =>
        obtain ⟨power, rfl⟩ := Option.ne_none_iff_exists'.mp (notInteger.resolve_left (by simp))
        rfl
    | cons place places => rfl
  simp only [Numeral.chars, List.map_append, List.append_assoc, ← afterPlaces_eq]
  unfold readMagnitude
  simp only [whole_eq, nonempty, Bool.false_eq_true, if_false, List.drop_left, fraction_eq,
    fractionPassed, exponent_eq, noInteger, placesRead, powerRead, powerPassed, Numeral.value]
  rw [← List.map_append, Text.digitsValue_map_char, List.length_map]

/-! ## Decimals as numerals -/

namespace Numeral

/-- Digits behind a point and zeros. -/
def belowOne
    (count : Nat)
    (digits : List Char)
    (areDigits : AreDigits digits)
    (leads : Leads digits) :
    Numeral where
  whole := ['0']
  places := List.replicate count '0' ++ digits
  power := none
  wholeDigits := areDigits_replicate 1
  wholeLeads := ⟨List.cons_ne_nil _ _, fun _ => rfl⟩
  placesDigits := (areDigits_replicate count).append areDigits
  notInteger := .inl (List.append_ne_nil_of_right_ne_nil _ leads.1)

theorem value_belowOne (count : Nat) (areDigits : AreDigits digits) (leads : Leads digits) :
    (belowOne count digits areDigits leads).value negative =
      Double.ofDecimal negative (Nat.ofDigitChars 10 digits 0) (-(count + digits.length)) := by
  have zeros : Nat.ofDigitChars 10 ('0' :: (List.replicate count '0' ++ digits)) 0 =
      Nat.ofDigitChars 10 digits 0 := by
    rw [Nat.ofDigitChars_cons, Nat.sub_self, Nat.ofDigitChars_append,
      Nat.ofDigitChars_replicate_zero, Nat.mul_zero]
  show Double.ofDecimal negative (Nat.ofDigitChars 10 ('0' :: (_ ++ digits)) 0) _ = _
  rw [zeros]
  congr 1
  simp only [belowOne, Option.getD_none, List.length_append, List.length_replicate]
  omega

/-- Digits with a point among them. -/
def pointed
    (position : Nat)
    (digits : List Char)
    (areDigits : AreDigits digits)
    (leads : Leads digits)
    (first : 0 < position)
    (last : position < digits.length) :
    Numeral where
  whole := digits.take position
  places := digits.drop position
  power := none
  wholeDigits := fun char member => areDigits char (List.mem_of_mem_take member)
  wholeLeads := by
    have nonempty : digits.take position ≠ [] := by
      rw [← List.length_pos_iff, List.length_take]
      omega
    refine ⟨nonempty, ?_⟩
    intro zero
    rw [List.head?_take, if_neg (Nat.ne_of_gt first)] at zero
    rw [leads.2 zero] at last
    exact absurd first (Nat.not_lt.mpr (Nat.lt_one_iff.mp last).le)
  placesDigits := fun char member => areDigits char (List.mem_of_mem_drop member)
  notInteger := .inl (by rw [← List.length_pos_iff, List.length_drop]; omega)

theorem value_pointed
    (position : Nat)
    (areDigits : AreDigits digits)
    (leads : Leads digits)
    (first : 0 < position)
    (last : position < digits.length) :
    (pointed position digits areDigits leads first last).value negative =
      Double.ofDecimal negative (Nat.ofDigitChars 10 digits 0) (position - digits.length) := by
  simp only [value, pointed, List.take_append_drop, Option.getD_none, List.length_drop]
  congr 1
  omega

/-- Digits with zeros and a point behind them. -/
def wholeNumber
    (count : Nat)
    (digits : List Char)
    (areDigits : AreDigits digits)
    (leads : Leads (digits ++ List.replicate count '0')) :
    Numeral where
  whole := digits ++ List.replicate count '0'
  places := ['0']
  power := none
  wholeDigits := areDigits.append (areDigits_replicate count)
  wholeLeads := leads
  placesDigits := areDigits_replicate 1
  notInteger := .inl (List.cons_ne_nil _ _)

theorem value_wholeNumber
    (count : Nat)
    (areDigits : AreDigits digits)
    (leads : Leads (digits ++ List.replicate count '0')) :
    (wholeNumber count digits areDigits leads).value negative =
      Double.ofDecimal negative (Nat.ofDigitChars 10 digits 0) count := by
  have zeros : digits ++ List.replicate count '0' ++ ['0'] =
      digits ++ List.replicate (count + 1) '0' := by
    rw [List.append_assoc, List.replicate_succ']
  simp only [value, wholeNumber, zeros, Nat.ofDigitChars_append, Nat.ofDigitChars_replicate_zero,
    Option.getD_none, List.length_singleton]
  rw [Nat.mul_comm, Double.ofDecimal_mul_pow]
  congr 1
  omega

/-- Digits with a point behind the first one, and a power of ten. -/
def scientific
    (first : Char)
    (rest : List Char)
    (power : Int)
    (areDigits : AreDigits (first :: rest)) :
    Numeral where
  whole := [first]
  places := rest
  power := some power
  wholeDigits := fun char member => areDigits char (List.mem_of_mem_take (i := 1) member)
  wholeLeads := ⟨List.cons_ne_nil _ _, fun zero => congrArg (fun char => [char]) (Option.some.inj zero)⟩
  placesDigits := fun char member => areDigits char (List.mem_cons_of_mem first member)
  notInteger := .inr (Option.some_ne_none power)

end Numeral

/-- The full layout of a decimal is a numeral of the same value. -/
theorem exists_numeral_layOut
    (decimal : Decimal)
    (valid : decimal.digits = 0 → decimal.exponent = 0) :
    ∃ numeral : Numeral,
      Decimal.layOut Double.fullLayout decimal = numeral.chars ∧
      ∀ negative,
        numeral.value negative = Double.ofDecimal negative decimal.digits decimal.exponent := by
  obtain ⟨number, exponent⟩ := decimal
  obtain ⟨digits, digits_eq⟩ : ∃ digits, digits = Nat.toDigits 10 number := ⟨_, rfl⟩
  have areDigits := areDigits_toDigits number
  have leads := leads_toDigits number
  have worth : Nat.ofDigitChars 10 (Nat.toDigits 10 number) 0 = number :=
    Nat.ofDigitChars_ten_toDigits
  rw [← digits_eq] at areDigits leads worth
  unfold Decimal.layOut
  simp only [← digits_eq, Double.fullLayout, Bool.and_eq_true, decide_eq_true_eq, if_true]
  split_ifs with positional fractional small
  · refine ⟨.belowOne (-(exponent + digits.length - 1) - 1).toNat digits areDigits leads, ?_, ?_⟩
    · simp [Numeral.belowOne, Numeral.chars, Numeral.fractionChars, Numeral.powerChars, leads.1]
    · intro negative
      rw [Numeral.value_belowOne, worth]
      congr 1
      omega
  · obtain ⟨position, position_eq⟩ :
        ∃ position, position = (exponent + digits.length - 1).toNat + 1 := ⟨_, rfl⟩
    have last : position < digits.length := by omega
    rw [← position_eq]
    refine ⟨.pointed position digits areDigits leads (by omega) last, ?_, ?_⟩
    · simp [Numeral.pointed, Numeral.chars, Numeral.fractionChars, Numeral.powerChars, last]
    · intro negative
      rw [Numeral.value_pointed, worth]
      congr 1
      omega
  · have leadsWhole : Leads (digits ++ List.replicate exponent.toNat '0') := by
      refine ⟨List.append_ne_nil_of_left_ne_nil leads.1 _, ?_⟩
      intro zero
      rw [List.head?_append, Option.or_of_isSome (List.isSome_head?.mpr leads.1)] at zero
      have single := leads.2 zero
      have isZero : number = 0 := by rw [← worth, single]; rfl
      have unscaled : exponent = 0 := valid isZero
      rw [single, unscaled]
      rfl
    refine ⟨.wholeNumber exponent.toNat digits areDigits leadsWhole, ?_, ?_⟩
    · simp [Numeral.wholeNumber, Numeral.chars, Numeral.fractionChars, Numeral.powerChars]
    · intro negative
      rw [Numeral.value_wholeNumber, worth]
      congr 1
      omega
  · obtain ⟨first, rest, rfl⟩ := List.exists_cons_of_ne_nil leads.1
    refine ⟨.scientific first rest (exponent + (first :: rest).length - 1) areDigits, ?_, ?_⟩
    · cases rest <;>
        simp [Numeral.scientific, Numeral.chars, Numeral.fractionChars, Numeral.powerChars]
    · intro negative
      show Double.ofDecimal negative (Nat.ofDigitChars 10 (first :: rest) 0) _ = _
      rw [worth]
      congr 1
      simp only [Numeral.scientific, Option.getD_some, List.length_cons]
      omega

/-! ## Printed numbers -/

/-- The sign of a number is read apart from its magnitude. -/
theorem readNumber_signed
    {chars : List Char}
    (unsigned : chars.head? ≠ some '-')
    (nonempty : chars ≠ []) :
    readNumber ((Double.signed negative chars).map CodePoint.char ++ rest) =
      readMagnitude negative (chars.map CodePoint.char ++ rest) := by
  obtain ⟨first, more, rfl⟩ := List.exists_cons_of_ne_nil nonempty
  cases negative with
  | true => rfl
  | false =>
      show readNumber (.char first :: (more.map CodePoint.char ++ rest)) = _
      rw [readNumber]
      · rfl
      · intro codes same
        obtain ⟨minus, -⟩ := List.cons.inj same
        exact unsigned (congrArg some (CodePoint.char.inj minus))

theorem readMagnitude_digits
    (areDigits : AreDigits digits)
    (leads : Leads digits)
    (ends : EndsNumber rest) :
    readMagnitude negative (digits.map CodePoint.char ++ rest) =
      (integer negative (digits.map CodePoint.char)).map fun value => (value, rest) := by
  have whole_eq := wholeDigits_eq areDigits leads fun code member => (ends code member).1
  have noExponent := readExponent_of_ends ends
  have noFraction := readFraction_of_head? fun code member => (ends code member).2.1
  have nonempty : (digits.map CodePoint.char).isEmpty = false := by
    simp [leads.1]
  unfold readMagnitude
  simp only [whole_eq, nonempty, Bool.false_eq_true, if_false, List.drop_left, noFraction,
    Option.map_none, Option.getD_none, noExponent, Option.isNone_none, Bool.and_self, if_true]

theorem intText_eq_signed (value : Int) :
    intText value = Double.signed (decide (value < 0)) (Nat.toDigits 10 value.natAbs) := by
  unfold intText Double.signed
  by_cases below : value < 0
  · simp only [below, if_true, decide_true]
  · simp only [below, if_false, decide_false, Bool.false_eq_true]

theorem exists_digit_intText (value : Int) :
    ∃ first more,
      first.isDigit = true ∧ intText value = Double.signed (decide (value < 0)) (first :: more) := by
  obtain ⟨first, more, split⟩ := List.exists_cons_of_ne_nil (leads_toDigits value.natAbs).1
  have areDigits := areDigits_toDigits value.natAbs
  rw [split] at areDigits
  exact ⟨first, more, areDigits first List.mem_cons_self, by rw [intText_eq_signed, split]⟩

/-- A printed integer reads back if it is not too long. -/
theorem readNumber_intText
    {value : Int}
    (short : LinkedQuery.isOverlong value = false)
    (ends : EndsNumber rest) :
    readNumber ((intText value).map CodePoint.char ++ rest) = .ok (.int value, rest) := by
  have sign : (if value < 0 then -(value.natAbs : Int) else value.natAbs) = value := by
    clear short
    omega
  have areDigits := areDigits_toDigits value.natAbs
  have leads := leads_toDigits value.natAbs
  have bounded : (Nat.toDigits 10 value.natAbs).length ≤ maxDigits := by
    have positive : 0 < maxDigits := by decide
    rw [LinkedQuery.isOverlong, decide_eq_false_iff_not, Nat.not_le, Nat.pow_eq] at short
    generalize maxDigits = limit at short positive ⊢
    exact (Nat.length_toDigits_le_iff (by decide) positive).mpr short
  rw [intText_eq_signed, readNumber_signed areDigits.head?_ne_minus leads.1,
    readMagnitude_digits areDigits leads ends, integer, List.length_map,
    if_neg (Nat.not_lt.mpr bounded), Text.digitsValue_map_char, Nat.ofDigitChars_ten_toDigits]
  simp only [Except.map, decide_eq_true_eq, sign]

/-- The shortest text of a finite number is the layout of a decimal that reads
back. -/
theorem exists_chars_finite (negative : Bool) (ordinal : Fin 9218868437227405312) :
    ∃ numeral : Numeral,
      (Double.finite negative ordinal).chars = Double.signed negative numeral.chars ∧
      numeral.value negative = .finite negative ordinal := by
  obtain ⟨ordinal, inRange⟩ := ordinal
  unfold Double.chars
  by_cases zero : ordinal = 0
  · subst zero
    obtain ⟨numeral, chars_eq, value_eq⟩ := exists_numeral_layOut ⟨0, 0⟩ fun _ => rfl
    exact ⟨numeral, congrArg (Double.signed negative) chars_eq, value_eq negative⟩
  · obtain ⟨nonzero, readsBack⟩ := Decimal.ofDecimal_shortest negative inRange zero
    obtain ⟨numeral, chars_eq, value_eq⟩ :=
      exists_numeral_layOut (Decimal.shortest ordinal) fun isZero => absurd isZero nonzero
    refine ⟨numeral, ?_, ?_⟩
    · simp only [zero, if_false, chars_eq]
    · rw [value_eq, readsBack, Double.ofOrdinal, dif_pos inRange]

theorem Numeral.exists_digit_chars (numeral : Numeral) :
    ∃ first more, first.isDigit = true ∧ numeral.chars = first :: more := by
  obtain ⟨first, more, split⟩ := List.exists_cons_of_ne_nil numeral.wholeLeads.1
  have areDigits := numeral.wholeDigits
  rw [split] at areDigits
  exact ⟨first, _, areDigits first List.mem_cons_self, by rw [chars, split, List.cons_append]⟩

theorem readNumber_numeral (numeral : Numeral) (ends : EndsNumber rest) :
    readNumber ((Double.signed negative numeral.chars).map CodePoint.char ++ rest) =
      .ok (.float (numeral.value negative), rest) := by
  obtain ⟨first, more, digit, split⟩ := numeral.exists_digit_chars
  have unsigned : numeral.chars.head? ≠ some '-' := by
    rw [split]
    rintro ⟨⟩
    cases digit
  have nonempty : numeral.chars ≠ [] := by
    rw [split]
    exact List.cons_ne_nil first more
  rw [readNumber_signed unsigned nonempty, readMagnitude_numeral numeral ends]

end Json

end LinkedQuery
