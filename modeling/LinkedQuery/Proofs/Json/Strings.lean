import LinkedQuery.Proofs.Json.RoundTrip
import LinkedQuery.Text.Utf8

/-!
Contract: the code points of printed JSON.

Owns:
- texts that consist of characters, which are those that have bytes;
- the strings of a value, its keys included;
- the code points of the text of a value: beside line feeds and printable ASCII
  there are only those of its strings, which stay unless they are controls;
- the text of a value, which has bytes just if all its strings have.

Does not own: the bytes.
-/

namespace LinkedQuery

/-- Whether all code points have a property. -/
def Consists (holds : CodePoint → Prop) (codes : List CodePoint) : Prop :=
  ∀ code ∈ codes, holds code

section

variable {holds : CodePoint → Prop} {code : CodePoint} {codes left right : List CodePoint}

@[simp] theorem consists_nil : Consists holds [] :=
  List.forall_mem_nil _

@[simp] theorem consists_cons_iff :
    Consists holds (code :: codes) ↔ holds code ∧ Consists holds codes :=
  List.forall_mem_cons

@[simp] theorem consists_append_iff :
    Consists holds (left ++ right) ↔ Consists holds left ∧ Consists holds right :=
  List.forall_mem_append

end

/-- Whether all code points are characters. -/
def AreCharacters (codes : List CodePoint) : Prop :=
  Consists (·.isSurrogate = false) codes

theorem Text.encodingFaultFrom?_eq_none_iff {position : Nat} {codes : List CodePoint} :
    encodingFaultFrom? (fun _ => false) position codes = none ↔ AreCharacters codes := by
  induction codes generalizing position with
  | nil => simp [encodingFaultFrom?, AreCharacters]
  | cons code codes inductionHypothesis =>
      rw [encodingFaultFrom?, AreCharacters, consists_cons_iff]
      cases surrogate : code.isSurrogate with
      | true => simp
      | false => simp [inductionHypothesis, AreCharacters]

theorem Text.encodingFault?_eq_none_iff {text : Text} :
    encodingFault? text = none ↔ AreCharacters text.toList :=
  encodingFaultFrom?_eq_none_iff

namespace Json

mutual

/-- The strings of a value, its keys included. -/
def strings : Json → List Text
  | .string value => [value]
  | .array items => stringsOfAll items
  | .object fields => stringsOfFields fields
  | _ => []

/-- The strings of several values. -/
def stringsOfAll : List Json → List Text
  | [] => []
  | item :: rest => strings item ++ stringsOfAll rest

/-- The keys of some fields and the strings of their values. -/
def stringsOfFields : List (Text × Json) → List Text
  | [] => []
  | (key, value) :: rest => key :: (strings value ++ stringsOfFields rest)

end

/-! ## Code points -/

/-- Whether a code point is printable ASCII. -/
def isPlain (code : CodePoint) : Bool :=
  0x20 ≤ code.toNat && code.toNat < 0x7f

theorem isPlain_iff {code : CodePoint} :
    isPlain code = true ↔ 0x20 ≤ code.toNat ∧ code.toNat < 0x7f := by
  rw [isPlain, Bool.and_eq_true, decide_eq_true_eq, decide_eq_true_eq]

theorem isPlain_of_isDigit {char : Char} (digit : char.isDigit = true) :
    isPlain (.char char) = true := by
  have bounds : 48 ≤ char.toNat ∧ char.toNat ≤ 57 := Char.isDigit_iff_toNat.mp digit
  rw [isPlain_iff, CodePoint.toNat]
  omega

/-- Whether all characters are printable ASCII. -/
def ArePlain (chars : List Char) : Prop :=
  ∀ char ∈ chars, isPlain (.char char) = true

-- Given by name: the search may find an instance that tries every character there is.
instance (chars : List Char) : Decidable (ArePlain chars) :=
  List.decidableBAll (fun char => isPlain (.char char) = true) chars

theorem ArePlain.append {left right : List Char} (leftPlain : ArePlain left)
    (rightPlain : ArePlain right) : ArePlain (left ++ right) := by
  intro char member
  exact (List.mem_append.mp member).elim (leftPlain char) (rightPlain char)

theorem ArePlain.cons {char : Char} {chars : List Char} (plain : isPlain (.char char) = true)
    (arePlain : ArePlain chars) : ArePlain (char :: chars) :=
  List.forall_mem_cons.mpr ⟨plain, arePlain⟩

theorem ArePlain.signed {chars : List Char} (arePlain : ArePlain chars) (negative : Bool) :
    ArePlain (Double.signed negative chars) := by
  cases negative with
  | false => exact arePlain
  | true => exact .cons rfl arePlain

theorem arePlain_of_areDigits {chars : List Char} (areDigits : AreDigits chars) :
    ArePlain chars :=
  fun char member => isPlain_of_isDigit (areDigits char member)

theorem Numeral.arePlain_chars (numeral : Numeral) : ArePlain numeral.chars := by
  have fraction : ArePlain (fractionChars numeral.places) := by
    unfold fractionChars
    split_ifs
    · exact List.forall_mem_nil _
    · exact .cons rfl (arePlain_of_areDigits numeral.placesDigits)
  have power : ArePlain (powerChars numeral.power) := by
    cases numeral.power with
    | none => exact List.forall_mem_nil _
    | some power =>
        obtain ⟨digits, text_eq, areDigits, -⟩ := exists_exponentDigits power
        rw [powerChars, text_eq]
        split_ifs
        · exact .cons rfl (.cons rfl (arePlain_of_areDigits areDigits))
        · exact .cons rfl (.cons rfl (arePlain_of_areDigits areDigits))
  exact (arePlain_of_areDigits numeral.wholeDigits).append (fraction.append power)

theorem arePlain_intText (value : Int) : ArePlain (intText value) := by
  rw [intText_eq_signed]
  exact (arePlain_of_areDigits (areDigits_toDigits _)).signed _

theorem arePlain_floatText (value : Double) : ArePlain (floatText value) := by
  cases value with
  | nan => decide
  | infinite negative => cases negative <;> decide
  | finite negative ordinal =>
      obtain ⟨numeral, chars_eq, -⟩ := exists_chars_finite negative ordinal
      rw [floatText, chars_eq]
      exact numeral.arePlain_chars.signed negative

/-- A code point stays as it is, or it is printable or a control and is escaped. -/
theorem codeText_cases (code : CodePoint) :
    (0x20 ≤ code.toNat ∧ codeText code = [code]) ∨
      ((code.toNat < 0x20 ∨ isPlain code = true) ∧
        ∃ chars, ArePlain chars ∧ codeText code = chars.map CodePoint.char) := by
  have escaped {letter : Char} (control : code.toNat < 0x20 ∨ isPlain code = true)
      (plain : isPlain (.char letter) = true) :
      (code.toNat < 0x20 ∨ isPlain code = true) ∧
        ∃ chars, ArePlain chars ∧
          [CodePoint.char '\\', .char letter] = chars.map CodePoint.char :=
    ⟨control, ['\\', letter], .cons rfl (.cons plain (List.forall_mem_nil _)), rfl⟩
  fun_cases codeText code with
  | case1 same => exact .inr (escaped (.inr (same ▸ rfl)) rfl)
  | case2 _ same => exact .inr (escaped (.inr (same ▸ rfl)) rfl)
  | case3 _ _ same => exact .inr (escaped (.inl (same ▸ by decide)) rfl)
  | case4 _ _ _ same => exact .inr (escaped (.inl (same ▸ by decide)) rfl)
  | case5 _ _ _ _ same => exact .inr (escaped (.inl (same ▸ by decide)) rfl)
  | case6 _ _ _ _ _ same => exact .inr (escaped (.inl (same ▸ by decide)) rfl)
  | case7 _ _ _ _ _ _ same => exact .inr (escaped (.inl (same ▸ by decide)) rfl)
  | case8 _ _ _ _ _ _ _ control =>
      have hexadecimal : ∀ number < 0x20, ArePlain (Text.hexDigits 4 number) := by decide
      exact .inr ⟨.inl control, _, .cons rfl (.cons rfl (hexadecimal _ control)), rfl⟩
  | case9 _ _ _ _ _ _ _ noControl => exact .inl ⟨Nat.le_of_not_lt noControl, rfl⟩

/-- Whether a property holds of the code points that the format writes of its own. -/
structure HoldsOfFormat (holds : CodePoint → Prop) : Prop where
  feed : holds '\n'
  plain : ∀ code, isPlain code = true → holds code

/-- Whether the code points of a string have a property, its controls apart. -/
def ConsistsShown (holds : CodePoint → Prop) (codes : List CodePoint) : Prop :=
  Consists (fun code => 0x20 ≤ code.toNat → holds code) codes

/-- Whether the text of a value has a property, at any depth, just if the strings of
the value have it. -/
def ShowsStrings (holds : CodePoint → Prop) (value : Json) : Prop :=
  ∀ depth,
    Consists holds (write depth value) ↔
      ∀ string ∈ value.strings, ConsistsShown holds string.toList

namespace HoldsOfFormat

variable {holds : CodePoint → Prop} (ofFormat : HoldsOfFormat holds)

include ofFormat

theorem chars {chars : List Char} (arePlain : ArePlain chars) :
    Consists holds (chars.map CodePoint.char) := by
  intro code member
  obtain ⟨char, charMember, rfl⟩ := List.mem_map.mp member
  exact ofFormat.plain _ (arePlain char charMember)

theorem lineStart (depth : Nat) : Consists holds (lineStart depth) := by
  have blanks : Consists holds (List.replicate (2 * depth) (.char ' ')) := by
    intro code member
    rw [List.eq_of_mem_replicate member]
    exact ofFormat.plain _ rfl
  exact consists_cons_iff.mpr ⟨ofFormat.feed, blanks⟩

theorem codeText_iff (code : CodePoint) :
    Consists holds (codeText code) ↔ (0x20 ≤ code.toNat → holds code) := by
  rcases codeText_cases code with ⟨visible, text_eq⟩ | ⟨plain, chars, arePlain, text_eq⟩
  · rw [text_eq]
    simp [visible]
  · rw [text_eq]
    refine iff_of_true (ofFormat.chars arePlain) fun visible => ?_
    exact ofFormat.plain code (plain.resolve_left (Nat.not_lt.mpr visible))

theorem stringText_iff (codes : List CodePoint) :
    Consists holds (stringText codes) ↔ ConsistsShown holds codes := by
  have quote : holds '"' := ofFormat.plain _ rfl
  have escapes : Consists holds (codes.flatMap codeText) ↔ ConsistsShown holds codes := by
    unfold ConsistsShown
    induction codes with
    | nil => simp
    | cons code codes inductionHypothesis =>
        rw [List.flatMap_cons, consists_append_iff, ofFormat.codeText_iff, inductionHypothesis,
          consists_cons_iff]
  simp only [stringText, consists_cons_iff, consists_append_iff, consists_nil, escapes, quote,
    true_and, and_true]

theorem writeItems_iff
    {items : List Json}
    (each : ∀ item ∈ items, ShowsStrings holds item)
    (depth : Nat)
    (first : Bool) :
    Consists holds (writeItems depth first items) ↔
      ∀ string ∈ stringsOfAll items, ConsistsShown holds string.toList := by
  have comma : holds ',' := ofFormat.plain _ rfl
  induction items generalizing first with
  | nil => simp [writeItems, stringsOfAll]
  | cons item rest inductionHypothesis =>
      obtain ⟨ofItem, ofRest⟩ := List.forall_mem_cons.mp each
      rw [writeItems, stringsOfAll, List.forall_mem_append]
      cases first <;>
        simp only [Bool.false_eq_true, if_true, if_false, consists_append_iff, consists_cons_iff,
          consists_nil, comma, ofFormat.lineStart, ofItem depth, inductionHypothesis ofRest,
          true_and]

theorem writeFields_iff
    {fields : List (Text × Json)}
    (each : ∀ field ∈ fields, ShowsStrings holds field.2)
    (depth : Nat)
    (first : Bool) :
    Consists holds (writeFields depth first fields) ↔
      ∀ string ∈ stringsOfFields fields, ConsistsShown holds string.toList := by
  have comma : holds ',' := ofFormat.plain _ rfl
  have colon : holds ':' := ofFormat.plain _ rfl
  have blank : holds ' ' := ofFormat.plain _ rfl
  induction fields generalizing first with
  | nil => simp [writeFields, stringsOfFields]
  | cons field rest inductionHypothesis =>
      obtain ⟨ofValue, ofRest⟩ := List.forall_mem_cons.mp each
      obtain ⟨key, value⟩ := field
      rw [writeFields, stringsOfFields, List.forall_mem_cons, List.forall_mem_append]
      cases first <;>
        simp only [Bool.false_eq_true, if_true, if_false, consists_append_iff, consists_cons_iff,
          consists_nil, comma, colon, blank, ofFormat.lineStart, ofFormat.stringText_iff,
          ofValue depth, inductionHypothesis ofRest, true_and, and_true, and_assoc]

/-- A property of all that the format writes is one of the text of a value just if it
is one of the strings of the value. -/
theorem showsStrings (value : Json) : ShowsStrings holds value := by
  have noStrings {text : List CodePoint} (consists : Consists holds text) :
      Consists holds text ↔ ∀ string ∈ ([] : List Text), ConsistsShown holds string.toList :=
    iff_of_true consists (List.forall_mem_nil _)
  induction value using induction with
  | null =>
      have plain : ArePlain ['n', 'u', 'l', 'l'] := by decide
      exact fun depth => noStrings (ofFormat.chars plain)
  | bool value =>
      have plain : ArePlain ['t', 'r', 'u', 'e'] ∧ ArePlain ['f', 'a', 'l', 's', 'e'] := by decide
      intro depth
      cases value with
      | true => exact noStrings (ofFormat.chars plain.1)
      | false => exact noStrings (ofFormat.chars plain.2)
  | int value => exact fun depth => noStrings (ofFormat.chars (arePlain_intText value))
  | float value => exact fun depth => noStrings (ofFormat.chars (arePlain_floatText value))
  | string value =>
      intro depth
      rw [write, strings, List.forall_mem_singleton]
      exact ofFormat.stringText_iff value.toList
  | array items each =>
      have opening : holds '[' := ofFormat.plain _ rfl
      have closing : holds ']' := ofFormat.plain _ rfl
      intro depth
      rw [write, strings]
      cases items.isEmpty <;>
        simp only [Bool.false_eq_true, if_true, if_false, consists_append_iff, consists_cons_iff,
          consists_nil, opening, closing, ofFormat.lineStart, ofFormat.writeItems_iff each,
          true_and, and_true]
  | object fields each =>
      have opening : holds '{' := ofFormat.plain _ rfl
      have closing : holds '}' := ofFormat.plain _ rfl
      intro depth
      rw [write, strings]
      cases fields.isEmpty <;>
        simp only [Bool.false_eq_true, if_true, if_false, consists_append_iff, consists_cons_iff,
          consists_nil, opening, closing, ofFormat.lineStart, ofFormat.writeFields_iff each,
          true_and, and_true]

end HoldsOfFormat

/-- The text of a value has bytes just if all its strings have. -/
theorem encodingFault?_text_iff {value : Json} :
    Text.encodingFault? value.text = none ↔
      ∀ string ∈ value.strings, Text.encodingFault? string = none := by
  have ofFormat : HoldsOfFormat (·.isSurrogate = false) := by
    refine ⟨rfl, fun code plain => ?_⟩
    cases code with
    | char value => rfl
    | surrogate place =>
        rw [isPlain_iff, CodePoint.toNat] at plain
        omega
  have shown (codes : List CodePoint) :
      ConsistsShown (·.isSurrogate = false) codes ↔ AreCharacters codes := by
    apply forall₂_congr
    intro code _
    cases code with
    | char value => simp [CodePoint.isSurrogate]
    | surrogate place =>
        have large : 0x20 ≤ (CodePoint.surrogate place).toNat := by
          rw [CodePoint.toNat]
          omega
        simp [large]
  have atTop := ofFormat.showsStrings value 0
  simp only [shown] at atTop
  simp only [Text.encodingFault?_eq_none_iff]
  exact atTop

end Json

end LinkedQuery
