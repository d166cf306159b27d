import LinkedQuery.Proofs.Json.Numbers
import LinkedQuery.Proofs.Traced

/-!
Contract: printed JSON reads back.

Owns:
- the principle of induction over values;
- strings with their escapes, and the blanks between parts;
- values whose objects do not repeat a key;
- the text of such a value, which is read as that value.

Does not own: single numbers.
-/

namespace LinkedQuery.Json

/-- A property of all values, shown from items and fields upwards. -/
@[elab_as_elim]
theorem induction
    {motive : Json → Prop}
    (null : motive .null)
    (bool : ∀ value, motive (.bool value))
    (int : ∀ value, motive (.int value))
    (float : ∀ value, motive (.float value))
    (string : ∀ value, motive (.string value))
    (array : ∀ items, (∀ item ∈ items, motive item) → motive (.array items))
    (object : ∀ fields, (∀ field ∈ fields, motive field.2) → motive (.object fields))
    (value : Json) :
    motive value := by
  have more :
      ∀ (head : Json) (tail : List Json), motive head → (∀ item ∈ tail, motive item) →
        ∀ item ∈ head :: tail, motive item :=
    fun _ _ holds restHold => List.forall_mem_cons.mpr ⟨holds, restHold⟩
  have moreFields :
      ∀ (head : Text × Json) (tail : List (Text × Json)), motive head.2 →
        (∀ field ∈ tail, motive field.2) → ∀ field ∈ head :: tail, motive field.2 :=
    fun _ _ holds restHold => List.forall_mem_cons.mpr ⟨holds, restHold⟩
  exact @Json.rec motive (fun items => ∀ item ∈ items, motive item)
    (fun fields => ∀ field ∈ fields, motive field.2) (fun field => motive field.2)
    null bool int float string array object (by simp) more (by simp) moreFields
    (fun _ _ holds => holds) value

/-! ## Strings -/

theorem ofNat_toNat_char (value : Char) : CodePoint.ofNat value.toNat = .char value := by
  have valid : value.toNat < 0xD800 ∨ 0xDFFF < value.toNat ∧ value.toNat < 0x110000 := value.valid
  unfold CodePoint.ofNat
  rw [dif_neg (by omega), Char.ofNat_toNat]

/-- A control character is written with four hexadecimal digits of its number. -/
theorem hexFour?_hexDigits :
    ∀ code < 0x20,
      Text.hexDigits 4 code = ['0', '0', Nat.digitChar (code / 16), Nat.digitChar (code % 16)] ∧
      hexFour? '0' '0' (Nat.digitChar (code / 16)) (Nat.digitChar (code % 16)) = some code := by
  decide

theorem readStringFrom_letter
    {letter code : CodePoint}
    (escaped : escapeLetter? letter = some code)
    (rest : List CodePoint) :
    readStringFrom none (.char '\\' :: letter :: rest) =
      (readStringFrom none rest).map fun (value, after) => (code :: value, after) := by
  rw [readStringFrom]
  · rw [escaped]
    cases readStringFrom none rest <;> rfl
  · rintro first second third fourth digits rfl -
    cases escaped

theorem readStringFrom_control
    {code : Nat}
    (control : code < 0x20)
    (rest : List CodePoint) :
    readStringFrom none
        ((('\\' :: 'u' :: Text.hexDigits 4 code).map CodePoint.char) ++ rest) =
      (readStringFrom none rest).map fun (value, after) => (.ofNat code :: value, after) := by
  obtain ⟨digits_eq, worth⟩ := hexFour?_hexDigits code control
  have noSurrogate : isHighSurrogate code = false := by
    simp only [isHighSurrogate, Bool.and_eq_false_iff, decide_eq_false_iff_not]
    omega
  rw [digits_eq]
  simp only [List.map_cons, List.map_nil, List.cons_append, List.nil_append]
  rw [readStringFrom, worth]
  simp only [Option.bind_eq_bind, Option.bind_some, noSurrogate, Bool.false_eq_true, if_false]
  cases readStringFrom none rest <;> rfl

/-- One written code point is read as itself. -/
theorem readStringFrom_codeText (code : CodePoint) (rest : List CodePoint) :
    readStringFrom none (codeText code ++ rest) =
      (readStringFrom none rest).map fun (value, after) => (code :: value, after) := by
  unfold codeText
  split_ifs with quote backslash newline carriage tab backspace feed control
  · subst quote
    exact readStringFrom_letter rfl rest
  · subst backslash
    exact readStringFrom_letter rfl rest
  · subst newline
    exact readStringFrom_letter rfl rest
  · subst carriage
    exact readStringFrom_letter rfl rest
  · subst tab
    exact readStringFrom_letter rfl rest
  · subst backspace
    exact readStringFrom_letter rfl rest
  · subst feed
    exact readStringFrom_letter rfl rest
  · rw [readStringFrom_control control]
    cases code with
    | char value => simp only [CodePoint.toNat, ofNat_toNat_char]
    | surrogate place =>
        simp only [CodePoint.toNat] at control
        omega
  · rw [List.singleton_append, readStringFrom]
    · simp only [backslash, control, decide_false, Bool.or_self, Bool.false_eq_true, if_false]
      cases readStringFrom none rest <;> rfl
    · exact quote
    · rintro first second third fourth digits rfl -
      exact absurd rfl backslash
    · rintro letter codes rfl -
      exact absurd rfl backslash

/-- A written string is read as its code points. -/
theorem readString_codes (codes rest : List CodePoint) :
    readString (codes.flatMap codeText ++ .char '"' :: rest) = some (codes, rest) := by
  unfold readString
  induction codes with
  | nil => rfl
  | cons code codes inductionHypothesis =>
      rw [List.flatMap_cons, List.append_assoc, readStringFrom_codeText, inductionHypothesis]
      rfl

/-! ## Blanks and first code points -/

theorem skipSpace_lineStart (depth : Nat) (codes : List CodePoint) :
    skipSpace (lineStart depth ++ codes) = skipSpace codes := by
  have blanks :
      ∀ code ∈ CodePoint.char '\n' :: List.replicate (2 * depth) (.char ' '),
        isSpace code = true := by
    intro code member
    rcases List.mem_cons.mp member with rfl | blank
    · rfl
    · rw [List.eq_of_mem_replicate blank]
      rfl
  exact List.dropWhile_append_of_pos blanks

theorem skipSpace_of_head {code : CodePoint} (visible : isSpace code = false)
    (codes : List CodePoint) : skipSpace (code :: codes) = code :: codes := by
  rw [skipSpace, List.dropWhile_cons, visible, if_neg Bool.false_ne_true]

/-- What follows a value in a printed text. -/
def Follows (rest : List CodePoint) : Prop :=
  ∀ code ∈ rest.head?, code = ',' ∨ code = '\n'

theorem Follows.endsNumber {rest : List CodePoint} (follows : Follows rest) : EndsNumber rest := by
  intro code member
  rcases follows code member with rfl | rfl
  · decide
  · decide

theorem follows_nil : Follows [] := by
  intro code member
  cases member

theorem follows_comma (rest : List CodePoint) : Follows (.char ',' :: rest) := by
  intro code member
  exact .inl (Option.mem_some_iff.mp member).symm

theorem follows_lineStart (depth : Nat) (rest : List CodePoint) :
    Follows (lineStart depth ++ rest) := by
  intro code member
  exact .inr (Option.mem_some_iff.mp member).symm

/-! ## Words and numbers -/

section Number

variable {negative : Bool} {first : Char} {more : List Char} {rest : List CodePoint} {fuel : Nat}

/-- No word starts as a number does. -/
theorem readWord?_signed (digit : first.isDigit = true) :
    readWord? ((Double.signed negative (first :: more)).map CodePoint.char ++ rest) = none := by
  have differs : ∀ letter : Char, letter.isDigit = false → letter ≠ first := by
    rintro letter noDigit rfl
    rw [digit] at noDigit
    cases noDigit
  cases negative with
  | false =>
      simp [readWord?, wordValues, Double.signed, Text.ofString, Text.ofChars, differs 'n' rfl,
        differs 't' rfl, differs 'f' rfl, differs 'N' rfl, differs 'I' rfl, differs '-' rfl]
  | true =>
      simp [readWord?, wordValues, Double.signed, Text.ofString, Text.ofChars, differs 'I' rfl]

theorem readValue_signed (digit : first.isDigit = true) :
    readValue (fuel + 1) ((Double.signed negative (first :: more)).map CodePoint.char ++ rest) =
      readNumber ((Double.signed negative (first :: more)).map CodePoint.char ++ rest) := by
  obtain ⟨code, codes, noQuote, noBracket, noBrace, split⟩ :
      ∃ (code : CodePoint) (codes : List CodePoint), code ≠ '"' ∧ code ≠ '[' ∧ code ≠ '{' ∧
        (Double.signed negative (first :: more)).map CodePoint.char ++ rest = code :: codes := by
    cases negative with
    | false =>
        refine ⟨.char first, _, ?_, ?_, ?_, rfl⟩ <;>
          · rintro ⟨⟩
            cases digit
    | true => exact ⟨.char '-', _, by decide, by decide, by decide, rfl⟩
  have noWord : readWord? (code :: codes) = none := by
    rw [← split]
    exact readWord?_signed digit
  rw [split, readValue]
  · rw [noWord]
  · rintro rest ⟨⟩
    exact noQuote rfl
  · rintro rest ⟨⟩
    exact noBracket rfl
  · rintro rest ⟨⟩
    exact noBrace rfl

end Number

/-- A value starts with a code point that is no blank and closes no array. -/
def Starts (codes : List CodePoint) : Prop :=
  ∃ code rest, codes = code :: rest ∧ isSpace code = false ∧ code ≠ ']'

theorem Starts.skipSpace_append {codes : List CodePoint} (starts : Starts codes)
    (rest : List CodePoint) : skipSpace (codes ++ rest) = codes ++ rest := by
  obtain ⟨code, more, rfl, visible, -⟩ := starts
  exact skipSpace_of_head visible (more ++ rest)

theorem starts_signed
    {negative : Bool}
    {first : Char}
    (digit : first.isDigit = true)
    (more : List Char) :
    Starts ((Double.signed negative (first :: more)).map CodePoint.char) := by
  cases negative with
  | true => exact ⟨_, _, rfl, rfl, by decide⟩
  | false =>
      refine ⟨_, _, rfl, ?_, ?_⟩
      · have differs : ∀ letter : Char, letter.isDigit = false → first ≠ letter := by
          rintro letter noDigit rfl
          rw [digit] at noDigit
          cases noDigit
        simp [isSpace, differs ' ' rfl, differs '\t' rfl, differs '\n' rfl, differs '\r' rfl]
      · rintro ⟨⟩
        cases digit

theorem starts_stringText (codes : List CodePoint) : Starts (stringText codes) :=
  ⟨_, _, rfl, rfl, by decide⟩

theorem starts_write (depth : Nat) (value : Json) : Starts (write depth value) := by
  cases value with
  | null => exact ⟨_, _, rfl, rfl, by decide⟩
  | bool value => cases value <;> exact ⟨_, _, rfl, rfl, by decide⟩
  | int value =>
      obtain ⟨first, more, digit, split⟩ := exists_digit_intText value
      rw [write, split]
      exact starts_signed digit more
  | float value =>
      cases value with
      | nan => exact ⟨_, _, rfl, rfl, by decide⟩
      | infinite negative => cases negative <;> exact ⟨_, _, rfl, rfl, by decide⟩
      | finite negative ordinal =>
          obtain ⟨numeral, chars_eq, -⟩ := exists_chars_finite negative ordinal
          obtain ⟨first, more, digit, split⟩ := numeral.exists_digit_chars
          rw [write, floatText, chars_eq, split]
          exact starts_signed digit more
  | string value => exact starts_stringText value.toList
  | array items => exact ⟨_, _, rfl, rfl, by decide⟩
  | object fields => exact ⟨_, _, rfl, rfl, by decide⟩

/-! ## Values whose objects do not repeat a key -/

mutual

/-- Whether no object of a value repeats a key. -/
def keysDistinct : Json → Bool
  | .array items => allKeysDistinct items
  | .object fields => decide (fields.map Prod.fst).Nodup && fieldKeysDistinct fields
  | _ => true

/-- Whether no object of some values repeats a key. -/
def allKeysDistinct : List Json → Bool
  | [] => true
  | item :: rest => keysDistinct item && allKeysDistinct rest

/-- Whether no object in the values of some fields repeats a key. -/
def fieldKeysDistinct : List (Text × Json) → Bool
  | [] => true
  | (_, value) :: rest => keysDistinct value && fieldKeysDistinct rest

end

theorem allKeysDistinct_iff {items : List Json} :
    allKeysDistinct items = true ↔ ∀ item ∈ items, item.keysDistinct = true := by
  induction items with
  | nil => simp [allKeysDistinct]
  | cons item rest inductionHypothesis => simp [allKeysDistinct, inductionHypothesis]

theorem fieldKeysDistinct_iff {fields : List (Text × Json)} :
    fieldKeysDistinct fields = true ↔ ∀ field ∈ fields, field.2.keysDistinct = true := by
  induction fields with
  | nil => simp [fieldKeysDistinct]
  | cons field rest inductionHypothesis => simp [fieldKeysDistinct, inductionHypothesis]

theorem keysDistinct_array_iff {items : List Json} :
    (Json.array items).keysDistinct = true ↔ ∀ item ∈ items, item.keysDistinct = true := by
  rw [keysDistinct, allKeysDistinct_iff]

theorem keysDistinct_object_iff {fields : List (Text × Json)} :
    (Json.object fields).keysDistinct = true ↔
      (fields.map Prod.fst).Nodup ∧ ∀ field ∈ fields, field.2.keysDistinct = true := by
  rw [keysDistinct, Bool.and_eq_true, decide_eq_true_iff, fieldKeysDistinct_iff]

theorem anyOverlong_eq_false_iff {items : List Json} :
    anyOverlong items = false ↔ ∀ item ∈ items, item.isOverlong = false := by
  induction items with
  | nil => simp [anyOverlong]
  | cons item rest inductionHypothesis => simp [anyOverlong, inductionHypothesis]

theorem anyFieldOverlong_eq_false_iff {fields : List (Text × Json)} :
    anyFieldOverlong fields = false ↔ ∀ field ∈ fields, field.2.isOverlong = false := by
  induction fields with
  | nil => simp [anyFieldOverlong]
  | cons field rest inductionHypothesis => simp [anyFieldOverlong, inductionHypothesis]

/-- Writing a new key puts it at the end. -/
theorem put_eq_append
    {fields : List (Text × Json)}
    {key : Text}
    (new : key ∉ fields.map Prod.fst)
    (value : Json) :
    put fields key value = fields ++ [(key, value)] := by
  induction fields with
  | nil => rfl
  | cons field rest inductionHypothesis =>
      obtain ⟨differs, later⟩ := not_or.mp fun met => new (List.mem_cons.mpr met)
      rw [put, if_neg (Ne.symm differs), inductionHypothesis later, List.cons_append]

/-! ## Reading back -/

/-- The text of a value reads back at some depth, with enough fuel, before what
may follow a value. -/
def ReadsBack (value : Json) : Prop :=
  ∀ depth fuel rest,
    (write depth value).length ≤ fuel → Follows rest →
      readValue fuel (write depth value ++ rest) = .ok (value, rest)

/-- No value is written with no code point, so some fuel is there. -/
theorem ReadsBack.of_succ
    {value : Json}
    (reads :
      ∀ depth fuel rest,
        (write depth value).length ≤ fuel + 1 → Follows rest →
          readValue (fuel + 1) (write depth value ++ rest) = .ok (value, rest)) :
    ReadsBack value := by
  intro depth fuel rest enough follows
  obtain ⟨code, codes, starts, -⟩ := starts_write depth value
  obtain ⟨fuel, rfl⟩ : ∃ less, fuel = less + 1 := by
    apply Nat.exists_eq_add_one.mpr
    rw [starts, List.length_cons] at enough
    omega
  exact reads depth fuel rest enough follows

theorem readItems_write
    {item : Json}
    {items : List Json}
    (each : ∀ other ∈ item :: items, ReadsBack other)
    (depth closing fuel : Nat)
    (rest : List CodePoint)
    (enough : (write depth item).length + (writeItems depth false items).length < fuel) :
    readItems fuel
        (write depth item ++
          (writeItems depth false items ++ (lineStart closing ++ .char ']' :: rest))) =
      .ok (item :: items, rest) := by
  induction items generalizing item fuel with
  | nil =>
      obtain ⟨fuel, rfl⟩ := Nat.exists_eq_add_one.mpr (Nat.zero_lt_of_lt enough)
      have itemRead :=
        each item List.mem_cons_self depth fuel (lineStart closing ++ .char ']' :: rest) (by omega)
          (follows_lineStart closing _)
      rw [writeItems, List.nil_append, readItems, itemRead]
      simp only [bind, Except.bind]
      rw [skipSpace_lineStart, skipSpace_of_head rfl]
      rfl
  | cons next items inductionHypothesis =>
      obtain ⟨fuel, rfl⟩ := Nat.exists_eq_add_one.mpr (Nat.zero_lt_of_lt enough)
      obtain ⟨itemReads, restRead⟩ := List.forall_mem_cons.mp each
      simp only [writeItems, Bool.false_eq_true, if_false, List.append_assoc, List.nil_append,
        List.length_cons, List.length_append, List.cons_append] at enough ⊢
      rw [readItems, itemReads depth fuel _ (by omega) (follows_comma _)]
      simp only [bind, Except.bind]
      rw [skipSpace_of_head rfl]
      simp only
      rw [skipSpace_lineStart, (starts_write depth next).skipSpace_append,
        inductionHypothesis restRead fuel (by omega)]
      rfl

/-- A written key and its colon leave the field to the reader of its value. -/
theorem readFields_key
    {codes : List CodePoint}
    (starts : skipSpace codes = codes)
    (key : Text)
    (fuel : Nat)
    (done : List (Text × Json)) :
    readFields (fuel + 1) done (stringText key.toList ++ (.char ':' :: .char ' ' :: codes)) =
      readValue fuel codes >>= fun found =>
        match skipSpace found.2 with
        | .char '}' :: after => .ok (put done key found.1, after)
        | .char ',' :: after => readFields fuel (put done key found.1) (skipSpace after)
        | _ => .error .malformed := by
  have blank : skipSpace (.char ' ' :: codes) = codes := starts
  show readFields (fuel + 1) done
      (.char '"' :: ((key.toList.flatMap codeText ++ [.char '"']) ++ _)) = _
  rw [List.append_assoc, List.singleton_append, readFields, readString_codes]
  simp only [orMalformed, bind, Except.bind]
  rw [skipSpace_of_head rfl]
  simp only
  rw [blank]
  rfl

/-- One field is read, and what follows it decides how to go on. -/
theorem readFields_field
    {key : Text}
    {value : Json}
    (reads : ReadsBack value)
    (depth fuel : Nat)
    {done : List (Text × Json)}
    {rest : List CodePoint}
    (new : key ∉ done.map Prod.fst)
    (enough : (write depth value).length ≤ fuel)
    (follows : Follows rest) :
    readFields (fuel + 1) done
        (stringText key.toList ++ (.char ':' :: .char ' ' :: (write depth value ++ rest))) =
      match skipSpace rest with
      | .char '}' :: after => .ok (done ++ [(key, value)], after)
      | .char ',' :: after => readFields fuel (done ++ [(key, value)]) (skipSpace after)
      | _ => .error .malformed := by
  rw [readFields_key ((starts_write depth value).skipSpace_append rest),
    reads depth fuel rest enough follows]
  simp only [bind, Except.bind, put_eq_append new]

theorem readFields_write
    {key : Text}
    {value : Json}
    {fields : List (Text × Json)}
    (each : ∀ field ∈ (key, value) :: fields, ReadsBack field.2)
    (depth closing fuel : Nat)
    (done : List (Text × Json))
    (rest : List CodePoint)
    (distinct : ((done ++ (key, value) :: fields).map Prod.fst).Nodup)
    (enough : (write depth value).length + (writeFields depth false fields).length < fuel) :
    readFields fuel done
        (stringText key.toList ++ (.char ':' :: .char ' ' :: (write depth value ++
          (writeFields depth false fields ++ (lineStart closing ++ .char '}' :: rest))))) =
      .ok (done ++ (key, value) :: fields, rest) := by
  have new : key ∉ done.map Prod.fst := by
    rw [List.map_append, List.nodup_append] at distinct
    exact fun met => distinct.2.2 key met key List.mem_cons_self rfl
  have valueReads : ReadsBack value := each (key, value) List.mem_cons_self
  obtain ⟨fuel, rfl⟩ := Nat.exists_eq_add_one.mpr (Nat.zero_lt_of_lt enough)
  cases fields with
  | nil =>
      rw [writeFields, List.nil_append,
        readFields_field valueReads depth fuel new (by omega) (follows_lineStart closing _),
        skipSpace_lineStart, skipSpace_of_head rfl]
      rfl
  | cons next fields =>
      obtain ⟨nextKey, nextValue⟩ := next
      have added : (done ++ [(key, value)]) ++ (nextKey, nextValue) :: fields =
          done ++ (key, value) :: (nextKey, nextValue) :: fields := by
        rw [List.append_assoc, List.singleton_append]
      simp only [writeFields, Bool.false_eq_true, if_false, List.append_assoc, List.nil_append,
        List.length_cons, List.length_append, List.cons_append] at enough ⊢
      rw [readFields_field valueReads depth fuel new (by omega) (follows_comma _),
        skipSpace_of_head rfl]
      simp only
      rw [skipSpace_lineStart, (starts_stringText nextKey.toList).skipSpace_append,
        readFields_write (fun field member => each field (List.mem_cons_of_mem _ member)) depth
          closing fuel (done ++ [(key, value)]) rest (added ▸ distinct) (by omega), added]

theorem readsBack_array {items : List Json} (each : ∀ item ∈ items, ReadsBack item) :
    ReadsBack (.array items) := by
  apply ReadsBack.of_succ
  intro depth fuel rest enough _
  cases items with
  | nil => rfl
  | cons item items =>
      simp only [write, writeItems, if_true, List.isEmpty_cons, Bool.false_eq_true, if_false,
        List.nil_append, List.append_assoc, List.cons_append, List.length_cons,
        List.length_append] at enough ⊢
      rw [readValue, skipSpace_lineStart, (starts_write (depth + 1) item).skipSpace_append]
      obtain ⟨code, codes, starts, -, opens⟩ := starts_write (depth + 1) item
      split
      next after closed =>
        rw [starts] at closed
        exact absurd (List.cons.inj closed).1 opens
      next =>
        rw [readItems_write each (depth + 1) depth fuel rest (by omega)]
        rfl

theorem readsBack_object
    {fields : List (Text × Json)}
    (distinct : (fields.map Prod.fst).Nodup)
    (each : ∀ field ∈ fields, ReadsBack field.2) :
    ReadsBack (.object fields) := by
  apply ReadsBack.of_succ
  intro depth fuel rest enough _
  cases fields with
  | nil => rfl
  | cons field fields =>
      obtain ⟨key, value⟩ := field
      simp only [write, writeFields, if_true, List.isEmpty_cons, Bool.false_eq_true, if_false,
        List.nil_append, List.append_assoc, List.cons_append, List.length_cons,
        List.length_append] at enough ⊢
      rw [readValue, skipSpace_lineStart, (starts_stringText key.toList).skipSpace_append]
      split
      next after closed => exact absurd (List.cons.inj closed).1 (by decide)
      next =>
        rw [readFields_write each (depth + 1) depth fuel [] rest distinct (by omega)]
        rfl

theorem readsBack_int {value : Int} (short : LinkedQuery.isOverlong value = false) :
    ReadsBack (.int value) := by
  apply ReadsBack.of_succ
  intro depth fuel rest _ follows
  obtain ⟨first, more, digit, split⟩ := exists_digit_intText value
  rw [write, split, readValue_signed digit, ← split]
  exact readNumber_intText short follows.endsNumber

theorem readsBack_float (value : Double) : ReadsBack (.float value) := by
  apply ReadsBack.of_succ
  intro depth fuel rest _ follows
  cases value with
  | nan => rfl
  | infinite negative => cases negative <;> rfl
  | finite negative ordinal =>
      obtain ⟨numeral, chars_eq, value_eq⟩ := exists_chars_finite negative ordinal
      obtain ⟨first, more, digit, split⟩ := numeral.exists_digit_chars
      rw [write, floatText, chars_eq, split, readValue_signed digit, ← split,
        readNumber_numeral numeral follows.endsNumber, value_eq]

theorem readsBack_string (value : Text) : ReadsBack (.string value) := by
  apply ReadsBack.of_succ
  intro depth fuel rest _ _
  show readValue (fuel + 1)
      (.char '"' :: ((value.toList.flatMap codeText ++ [.char '"']) ++ rest)) = _
  rw [List.append_assoc, List.singleton_append, readValue, readString_codes]
  rfl

/-- A value reads back, at any depth, if its objects do not repeat a key and its
integers can be written. -/
theorem readsBack
    (value : Json)
    (distinct : value.keysDistinct = true)
    (short : value.isOverlong = false) :
    ReadsBack value := by
  induction value using induction with
  | null => exact .of_succ fun depth fuel rest _ _ => rfl
  | bool value =>
      apply ReadsBack.of_succ
      intro depth fuel rest _ _
      cases value <;> rfl
  | int value => exact readsBack_int short
  | float value => exact readsBack_float value
  | string value => exact readsBack_string value
  | array items inductionHypothesis =>
      rw [keysDistinct_array_iff] at distinct
      rw [isOverlong, anyOverlong_eq_false_iff] at short
      exact readsBack_array fun item member =>
        inductionHypothesis item member (distinct item member) (short item member)
  | object fields inductionHypothesis =>
      obtain ⟨keys, values⟩ := keysDistinct_object_iff.mp distinct
      rw [isOverlong, anyFieldOverlong_eq_false_iff] at short
      exact readsBack_object keys fun field member =>
        inductionHypothesis field member (values field member) (short field member)

/-- A value whose text reads back: its objects do not repeat a key and its
integers can be written. -/
structure Printable (value : Json) : Prop where
  distinct : value.keysDistinct = true
  short : value.isOverlong = false

theorem printable_string (value : Text) : Printable (.string value) :=
  ⟨rfl, rfl⟩

theorem printable_array {items : List Json} (each : ∀ item ∈ items, item.Printable) :
    Printable (.array items) := by
  constructor
  · rw [keysDistinct_array_iff]
    exact fun item member => (each item member).distinct
  · rw [isOverlong, anyOverlong_eq_false_iff]
    exact fun item member => (each item member).short

theorem printable_object
    {fields : List (Text × Json)}
    (keys : (fields.map Prod.fst).Nodup)
    (each : ∀ field ∈ fields, field.2.Printable) :
    Printable (.object fields) := by
  constructor
  · rw [keysDistinct_object_iff]
    exact ⟨keys, fun field member => (each field member).distinct⟩
  · rw [isOverlong, anyFieldOverlong_eq_false_iff]
    exact fun field member => (each field member).short

/-- Reading the text of a value gives the value. -/
theorem read_text {value : Json} (printable : value.Printable) : read value.text = .ok value := by
  have starts := (starts_write 0 value).skipSpace_append []
  have reads :=
    readsBack value printable.distinct printable.short 0 ((write 0 value).length + 1) []
      (Nat.le_succ _) follows_nil
  rw [List.append_nil] at starts reads
  unfold read text Text.length
  simp only [starts, reads, bind, Except.bind]
  rfl

end LinkedQuery.Json
