import LinkedQuery.Proofs.Json.Strings
import LinkedQuery.Proofs.Text.Lines

/-!
Contract: printed JSON as lines.

Owns:
- the line ends that a printed value holds beside line feeds, which are those
  beyond ASCII in its strings;
- the text of a value with each line end turned into a line feed, which is what
  its lines make when they are joined;
- that text, which reads back as the value or, if a line end stood in a string,
  not at all.

Does not own: where the lines go.
-/

namespace LinkedQuery

open Text (isLineEnd lineEnds isLineEnd_iff feedFor withFeeds withFeeds_eq_self_iff)

/-- The line ends beyond ASCII. -/
def wideLineEnds : List CodePoint :=
  ['\u0085', '\u2028', '\u2029']

namespace Json

/-- Whether no string of a value, its keys included, holds a line end beyond ASCII. -/
def KeepsLines (value : Json) : Prop :=
  ∀ string ∈ value.strings, ∀ code ∈ string.toList, code ∉ wideLineEnds

instance (value : Json) : Decidable value.KeepsLines := by
  unfold KeepsLines
  infer_instance

/-! ## Line ends in printed text -/

theorem isLineEnd_of_isPlain {code : CodePoint} (plain : isPlain code = true) :
    isLineEnd code = false := by
  have noEnd : ∀ ending ∈ lineEnds, isPlain ending = false := by decide
  apply Bool.eq_false_iff.mpr
  intro ends
  rw [noEnd code (isLineEnd_iff.mp ends)] at plain
  cases plain

/-- Among the code points that a string shows, the line ends are those beyond
ASCII. -/
theorem shown_lineEnd_iff {code : CodePoint} :
    (0x20 ≤ code.toNat → isLineEnd code = true → code = '\n') ↔ code ∉ wideLineEnds := by
  have wideEnds : ∀ ending ∈ wideLineEnds,
      0x20 ≤ ending.toNat ∧ isLineEnd ending = true ∧ ending ≠ '\n' := by decide
  have shownEnds : ∀ ending ∈ lineEnds, 0x20 ≤ ending.toNat → ending ∈ wideLineEnds := by decide
  constructor
  · intro onlyFeed wide
    obtain ⟨visible, ends, noFeed⟩ := wideEnds code wide
    exact noFeed (onlyFeed visible ends)
  · intro narrow visible ends
    exact absurd (shownEnds code (isLineEnd_iff.mp ends) visible) narrow

/-- The format ends lines with line feeds only. -/
theorem holdsOfFormat_feedOnly : HoldsOfFormat fun code => isLineEnd code = true → code = '\n' where
  feed := fun _ => rfl
  plain := by
    intro code plain ends
    rw [isLineEnd_of_isPlain plain] at ends
    cases ends

theorem withFeeds_codeText {code : CodePoint} (narrow : code ∉ wideLineEnds) :
    withFeeds (codeText code) = codeText code := by
  rw [withFeeds_eq_self_iff]
  exact (holdsOfFormat_feedOnly.codeText_iff code).mpr (shown_lineEnd_iff.mpr narrow)

/-- The text of a value has line feeds for its only line ends just if no string holds
a line end beyond ASCII. -/
theorem withFeeds_write_iff {depth : Nat} {value : Json} :
    withFeeds (write depth value) = write depth value ↔ value.KeepsLines := by
  rw [withFeeds_eq_self_iff]
  refine (holdsOfFormat_feedOnly.showsStrings value depth).trans ?_
  simp only [ConsistsShown, Consists, shown_lineEnd_iff, KeepsLines]

/-- The text of a value holds no carriage return: strings write it as an escape. -/
theorem write_noReturn (depth : Nat) (value : Json) : ∀ code ∈ write depth value, code ≠ '\r' := by
  have ofFormat : HoldsOfFormat (· ≠ '\r') := by
    refine ⟨by decide, ?_⟩
    rintro code plain rfl
    cases plain
  refine (ofFormat.showsStrings value depth).mpr ?_
  rintro string - code - visible rfl
  exact absurd visible (by decide)

/-- The text of a value does not stop at a line end. -/
theorem write_stops (depth : Nat) (value : Json) :
    ∀ code ∈ (write depth value).getLast?, isLineEnd code = false := by
  have ofChars (chars : List Char) (arePlain : ArePlain chars) :
      ∀ code ∈ (chars.map CodePoint.char).getLast?, isLineEnd code = false := by
    intro code last
    obtain ⟨char, member, rfl⟩ := List.mem_map.mp (List.mem_of_getLast? last)
    exact isLineEnd_of_isPlain (arePlain char member)
  have ofClosing (codes : List CodePoint) {closing : CodePoint}
      (plain : isPlain closing = true) :
      ∀ code ∈ (codes ++ [closing]).getLast?, isLineEnd code = false := by
    intro code last
    rw [List.getLast?_concat] at last
    obtain rfl := Option.some.inj last
    exact isLineEnd_of_isPlain plain
  cases value with
  | null => exact ofChars ['n', 'u', 'l', 'l'] (by decide)
  | bool value =>
      cases value with
      | true => exact ofChars ['t', 'r', 'u', 'e'] (by decide)
      | false => exact ofChars ['f', 'a', 'l', 's', 'e'] (by decide)
  | int value => exact ofChars _ (arePlain_intText value)
  | float value => exact ofChars _ (arePlain_floatText value)
  | string value => exact ofClosing (_ :: _) rfl
  | array items => exact ofClosing (_ :: _) rfl
  | object fields => exact ofClosing (_ :: _) rfl

/-- The lines of the text of a value, joined by line feeds, are the text with a line feed for
each line end. -/
theorem toList_joinWith_splitLines_text (value : Json) :
    (Text.joinWith "\n" (Text.splitLines value.text)).toList = withFeeds value.text.toList := by
  have asLists : (Text.splitLines value.text).map Text.toList = Text.lines value.text.toList := by
    rw [Text.splitLines, List.map_map]
    exact List.map_id _
  rw [Text.toList_joinWith, asLists]
  exact Text.intercalate_lines (write_noReturn 0 value) (write_stops 0 value)

/-- The lines of the text of a value make the text again just if no string holds a line
end beyond ASCII. -/
theorem joinWith_splitLines_text_eq_iff {value : Json} :
    Text.joinWith "\n" (Text.splitLines value.text) = value.text ↔ value.KeepsLines := by
  have joined := toList_joinWith_splitLines_text value
  rw [← @withFeeds_write_iff 0]
  constructor
  · intro same
    rw [same] at joined
    exact joined.symm
  · intro same
    exact congrArg Text.ofList (joined.trans same)

/-! ## Reading with line feeds in strings -/

variable {value : Json}

theorem keepsLines_array_iff {items : List Json} :
    (array items).KeepsLines ↔ ∀ item ∈ items, item.KeepsLines := by
  unfold KeepsLines
  rw [strings]
  induction items with
  | nil => simp [stringsOfAll]
  | cons item items inductionHypothesis =>
      rw [stringsOfAll, List.forall_mem_append, inductionHypothesis, List.forall_mem_cons]

theorem keepsLines_object_iff {fields : List (Text × Json)} :
    (object fields).KeepsLines ↔
      ∀ field ∈ fields, (string field.1).KeepsLines ∧ field.2.KeepsLines := by
  unfold KeepsLines
  rw [strings]
  induction fields with
  | nil => simp [stringsOfFields]
  | cons field fields inductionHypothesis =>
      rw [stringsOfFields, List.forall_mem_cons, List.forall_mem_append, inductionHypothesis,
        List.forall_mem_cons, strings, List.forall_mem_singleton, and_assoc]

/-- A string in which a line end became a line feed is not read. -/
theorem readString_withFeeds
    {codes : List CodePoint}
    (broken : ∃ code ∈ codes, code ∈ wideLineEnds)
    (rest : List CodePoint) :
    readString (withFeeds (codes.flatMap codeText) ++ rest) = none := by
  unfold readString
  induction codes with
  | nil =>
      obtain ⟨code, member, -⟩ := broken
      cases member
  | cons code codes inductionHypothesis =>
      rw [List.flatMap_cons, withFeeds, List.map_append, ← withFeeds, ← withFeeds,
        List.append_assoc]
      by_cases wide : code ∈ wideLineEnds
      · have asFeed : ∀ ending ∈ wideLineEnds, withFeeds (codeText ending) = [.char '\n'] := by
          decide
        rw [asFeed code wide]
        rfl
      · have later : ∃ code ∈ codes, code ∈ wideLineEnds := by
          simpa [wide] using broken
        rw [withFeeds_codeText wide, readStringFrom_codeText, inductionHypothesis later]
        rfl

/-- The text of a value is not read once its line ends became line feeds. -/
def FailsBroken (value : Json) : Prop :=
  ∀ depth fuel rest,
    (write depth value).length ≤ fuel →
      readValue fuel (withFeeds (write depth value) ++ rest) = .error .malformed

/-- With enough fuel a value reads back if it keeps its lines, and is not read
otherwise. -/
structure ReadsJust (value : Json) : Prop where
  reads : ReadsBack value
  fails : ¬ value.KeepsLines → FailsBroken value

theorem starts_withFeeds_write (depth : Nat) (value : Json) :
    Starts (withFeeds (write depth value)) := by
  by_cases keeps : value.KeepsLines
  · rw [withFeeds_write_iff.mpr keeps]
    exact starts_write depth value
  · cases value with
    | string value => exact ⟨_, _, rfl, rfl, by decide⟩
    | array items => exact ⟨_, _, rfl, rfl, by decide⟩
    | object fields => exact ⟨_, _, rfl, rfl, by decide⟩
    | _ => exact absurd (List.forall_mem_nil _) keeps

theorem withFeeds_append (front back : List CodePoint) :
    withFeeds (front ++ back) = withFeeds front ++ withFeeds back :=
  List.map_append

theorem withFeeds_lineStart (depth : Nat) : withFeeds (lineStart depth) = lineStart depth := by
  rw [withFeeds_eq_self_iff]
  exact holdsOfFormat_feedOnly.lineStart depth

theorem withFeeds_writeItems_cons (depth : Nat) (item : Json) (items : List Json) :
    withFeeds (writeItems depth false (item :: items)) =
      .char ',' :: (lineStart depth ++
        (withFeeds (write depth item) ++ withFeeds (writeItems depth false items))) := by
  rw [writeItems, withFeeds_append, withFeeds_append, withFeeds_append, withFeeds_lineStart,
    List.append_assoc, List.append_assoc]
  rfl

theorem readItems_withFeeds
    {item : Json}
    {items : List Json}
    (each : ∀ other ∈ item :: items, ReadsJust other)
    (broken : ∃ other ∈ item :: items, ¬ other.KeepsLines)
    (depth fuel : Nat)
    (rest : List CodePoint)
    (enough : (write depth item).length + (writeItems depth false items).length < fuel) :
    readItems fuel
        (withFeeds (write depth item) ++ (withFeeds (writeItems depth false items) ++ rest)) =
      .error .malformed := by
  obtain ⟨fuel, rfl⟩ := Nat.exists_eq_add_one.mpr (Nat.zero_lt_of_lt enough)
  obtain ⟨⟨itemReads, itemFails⟩, restReads⟩ := List.forall_mem_cons.mp each
  by_cases keeps : item.KeepsLines
  · cases items with
    | nil => exact absurd broken (by simp [keeps])
    | cons next items =>
        have later : ∃ other ∈ next :: items, ¬ other.KeepsLines := by simpa [keeps] using broken
        simp only [writeItems, Bool.false_eq_true, if_false, List.length_append,
          List.length_singleton] at enough
        rw [withFeeds_write_iff.mpr keeps, withFeeds_writeItems_cons, List.cons_append, readItems,
          itemReads depth fuel _ (by omega) (follows_comma _)]
        simp only [bind, Except.bind]
        rw [skipSpace_of_head rfl]
        simp only
        rw [List.append_assoc, skipSpace_lineStart, List.append_assoc,
          (starts_withFeeds_write depth next).skipSpace_append,
          readItems_withFeeds restReads later depth fuel rest (by omega)]
  · rw [readItems, itemFails keeps depth fuel _ (by omega)]
    rfl

theorem withFeeds_writeFields_cons
    (depth : Nat)
    (key : Text)
    (value : Json)
    (fields : List (Text × Json)) :
    withFeeds (writeFields depth false ((key, value) :: fields)) =
      .char ',' :: (lineStart depth ++ (withFeeds (stringText key.toList) ++
        (.char ':' :: .char ' ' ::
          (withFeeds (write depth value) ++ withFeeds (writeFields depth false fields))))) := by
  simp only [writeFields, Bool.false_eq_true, if_false, withFeeds_append, withFeeds_lineStart,
    List.append_assoc]
  rfl

/-- A key in which a line end became a line feed is not read. -/
theorem readFields_withFeeds_key
    {key : Text}
    (broken : ¬ (string key).KeepsLines)
    (fuel : Nat)
    (done : List (Text × Json))
    (rest : List CodePoint) :
    readFields (fuel + 1) done (withFeeds (stringText key.toList) ++ rest) =
      .error .malformed := by
  have wide : ∃ code ∈ key.toList, code ∈ wideLineEnds := by
    simpa [KeepsLines, strings] using broken
  show readFields (fuel + 1) done
      (.char '"' :: (withFeeds (key.toList.flatMap codeText ++ [.char '"']) ++ rest)) = _
  rw [withFeeds_append, List.append_assoc, readFields, readString_withFeeds wide]
  rfl

/-- A field with a value that is not read is not read. -/
theorem readFields_of_malformed
    {fuel : Nat}
    {codes : List CodePoint}
    (starts : skipSpace codes = codes)
    (malformed : readValue fuel codes = .error .malformed)
    (key : Text)
    (done : List (Text × Json)) :
    readFields (fuel + 1) done (stringText key.toList ++ (.char ':' :: .char ' ' :: codes)) =
      .error .malformed := by
  rw [readFields_key starts, malformed]
  rfl

theorem readFields_withFeeds
    {key : Text}
    {value : Json}
    {fields : List (Text × Json)}
    (each : ∀ field ∈ (key, value) :: fields, ReadsJust field.2)
    (broken :
      ∃ field ∈ (key, value) :: fields, ¬ ((string field.1).KeepsLines ∧ field.2.KeepsLines))
    (depth fuel : Nat)
    (done : List (Text × Json))
    (rest : List CodePoint)
    (distinct : ((done ++ (key, value) :: fields).map Prod.fst).Nodup)
    (enough : (write depth value).length + (writeFields depth false fields).length < fuel) :
    readFields fuel done
        (withFeeds (stringText key.toList) ++ (.char ':' :: .char ' ' ::
          (withFeeds (write depth value) ++
            (withFeeds (writeFields depth false fields) ++ rest)))) =
      .error .malformed := by
  obtain ⟨fuel, rfl⟩ := Nat.exists_eq_add_one.mpr (Nat.zero_lt_of_lt enough)
  obtain ⟨valueReads, valueFails⟩ : ReadsJust value := each (key, value) List.mem_cons_self
  by_cases keyKeeps : (string key).KeepsLines
  · have keyText : withFeeds (stringText key.toList) = stringText key.toList :=
      (@withFeeds_write_iff depth _).mpr keyKeeps
    rw [keyText]
    by_cases keeps : value.KeepsLines
    · cases fields with
      | nil => exact absurd broken (by simp [keyKeeps, keeps])
      | cons next fields =>
          obtain ⟨nextKey, nextValue⟩ := next
          have later : ∃ field ∈ (nextKey, nextValue) :: fields,
              ¬ ((string field.1).KeepsLines ∧ field.2.KeepsLines) := by
            simpa [keyKeeps, keeps] using broken
          have new : key ∉ done.map Prod.fst := by
            rw [List.map_append, List.nodup_append] at distinct
            exact fun met => distinct.2.2 key met key List.mem_cons_self rfl
          have added : (done ++ [(key, value)]) ++ (nextKey, nextValue) :: fields =
              done ++ (key, value) :: (nextKey, nextValue) :: fields := by
            rw [List.append_assoc, List.singleton_append]
          simp only [writeFields, Bool.false_eq_true, if_false, List.length_append,
            List.length_cons] at enough
          rw [withFeeds_write_iff.mpr keeps, withFeeds_writeFields_cons, List.cons_append,
            readFields_field valueReads depth fuel new (by omega) (follows_comma _),
            skipSpace_of_head rfl]
          simp only
          rw [List.append_assoc, skipSpace_lineStart, List.append_assoc]
          have starts : Starts (withFeeds (stringText nextKey.toList)) :=
            starts_withFeeds_write depth (string nextKey)
          rw [starts.skipSpace_append]
          simp only [List.cons_append, List.append_assoc]
          exact readFields_withFeeds
            (fun field member => each field (List.mem_cons_of_mem _ member)) later depth fuel
            (done ++ [(key, value)]) rest (added ▸ distinct) (by omega)
    · exact readFields_of_malformed ((starts_withFeeds_write depth value).skipSpace_append _)
        (valueFails keeps depth fuel _ (by omega)) key done
  · exact readFields_withFeeds_key keyKeeps fuel done _

theorem failsBroken_string {value : Text} (broken : ¬ (string value).KeepsLines) :
    FailsBroken (.string value) := by
  intro depth fuel rest _
  have wide : ∃ code ∈ value.toList, code ∈ wideLineEnds := by
    simpa [KeepsLines, strings] using broken
  cases fuel with
  | zero => rfl
  | succ fuel =>
      show readValue (fuel + 1)
          (.char '"' :: (withFeeds (value.toList.flatMap codeText ++ [.char '"']) ++ rest)) = _
      rw [withFeeds_append, List.append_assoc, readValue, readString_withFeeds wide]
      rfl

theorem exists_withFeeds_array (depth : Nat) (item : Json) (items : List Json) :
    ∃ closing,
      withFeeds (write depth (array (item :: items))) =
        .char '[' :: (lineStart (depth + 1) ++ (withFeeds (write (depth + 1) item) ++
          (withFeeds (writeItems (depth + 1) false items) ++ closing))) := by
  refine ⟨withFeeds (lineStart depth ++ [.char ']']), ?_⟩
  rw [write, writeItems]
  show CodePoint.char '[' :: withFeeds _ = _
  simp only [if_true, List.isEmpty_cons, Bool.false_eq_true, if_false, List.nil_append,
    withFeeds_append, withFeeds_lineStart, List.append_assoc]

theorem failsBroken_array
    {items : List Json}
    (each : ∀ item ∈ items, ReadsJust item)
    (broken : ¬ (array items).KeepsLines) :
    FailsBroken (.array items) := by
  intro depth fuel rest enough
  have brokenItem : ∃ item ∈ items, ¬ item.KeepsLines := by
    simpa [keepsLines_array_iff] using broken
  cases fuel with
  | zero => rfl
  | succ fuel =>
      cases items with
      | nil => exact absurd brokenItem (by simp)
      | cons item items =>
          simp only [write, writeItems, if_true, List.length_cons, List.length_append] at enough
          obtain ⟨closing, text_eq⟩ := exists_withFeeds_array depth item items
          rw [text_eq, List.cons_append, List.append_assoc, List.append_assoc, List.append_assoc,
            readValue, skipSpace_lineStart,
            (starts_withFeeds_write (depth + 1) item).skipSpace_append]
          obtain ⟨code, codes, starts, -, opens⟩ := starts_withFeeds_write (depth + 1) item
          split
          next after closed =>
            rw [starts] at closed
            exact absurd (List.cons.inj closed).1 opens
          next =>
            rw [readItems_withFeeds each brokenItem (depth + 1) fuel _ (by omega)]
            rfl

theorem exists_withFeeds_object
    (depth : Nat)
    (key : Text)
    (value : Json)
    (fields : List (Text × Json)) :
    ∃ closing,
      withFeeds (write depth (object ((key, value) :: fields))) =
        .char '{' :: (lineStart (depth + 1) ++ (withFeeds (stringText key.toList) ++
          (.char ':' :: .char ' ' :: (withFeeds (write (depth + 1) value) ++
            (withFeeds (writeFields (depth + 1) false fields) ++ closing))))) := by
  refine ⟨withFeeds (lineStart depth ++ [.char '}']), ?_⟩
  rw [write, writeFields]
  show CodePoint.char '{' :: withFeeds _ = _
  simp only [if_true, List.isEmpty_cons, Bool.false_eq_true, if_false, List.nil_append,
    withFeeds_append, withFeeds_lineStart, List.append_assoc]
  rfl

theorem failsBroken_object
    {fields : List (Text × Json)}
    (distinct : (fields.map Prod.fst).Nodup)
    (each : ∀ field ∈ fields, ReadsJust field.2)
    (broken : ¬ (object fields).KeepsLines) :
    FailsBroken (.object fields) := by
  intro depth fuel rest enough
  have brokenField :
      ∃ field ∈ fields, ¬ ((string field.1).KeepsLines ∧ field.2.KeepsLines) := by
    rw [keepsLines_object_iff] at broken
    push Not at broken ⊢
    exact broken
  cases fuel with
  | zero => rfl
  | succ fuel =>
      cases fields with
      | nil => exact absurd brokenField (by simp)
      | cons field fields =>
          obtain ⟨key, value⟩ := field
          simp only [write, writeFields, if_true, List.length_cons, List.length_append] at enough
          obtain ⟨closing, text_eq⟩ := exists_withFeeds_object depth key value fields
          have starts : Starts (withFeeds (stringText key.toList)) :=
            starts_withFeeds_write depth (string key)
          simp only [text_eq, List.cons_append, List.append_assoc]
          rw [readValue, skipSpace_lineStart, starts.skipSpace_append]
          split
          next after closed => exact absurd (List.cons.inj closed).1 (by decide)
          next =>
            rw [readFields_withFeeds each brokenField (depth + 1) fuel [] _ distinct (by omega)]
            rfl

/-- A value whose text reads back is not read from its lines just if a string holds a
line end beyond ASCII. -/
theorem readsJust
    (value : Json)
    (distinct : value.keysDistinct = true)
    (short : value.isOverlong = false) :
    ReadsJust value := by
  refine ⟨readsBack value distinct short, ?_⟩
  induction value using induction with
  | string value => exact failsBroken_string
  | array items inductionHypothesis =>
      rw [keysDistinct_array_iff] at distinct
      rw [isOverlong, anyOverlong_eq_false_iff] at short
      exact failsBroken_array fun item member =>
        ⟨readsBack item (distinct item member) (short item member),
          inductionHypothesis item member (distinct item member) (short item member)⟩
  | object fields inductionHypothesis =>
      obtain ⟨keys, values⟩ := keysDistinct_object_iff.mp distinct
      rw [isOverlong, anyFieldOverlong_eq_false_iff] at short
      exact failsBroken_object keys fun field member =>
        ⟨readsBack field.2 (values field member) (short field member),
          inductionHypothesis field member (values field member) (short field member)⟩
  | _ => exact fun broken => absurd (List.forall_mem_nil _) broken

/-- The lines of the text of a value, joined again, read back as the value if its
strings hold no line end beyond ASCII, and otherwise are no JSON. -/
theorem read_joinWith_splitLines_text {value : Json} (printable : value.Printable) :
    Json.read (Text.joinWith "\n" (Text.splitLines value.text)) =
      if value.KeepsLines then .ok value else .error .malformed := by
  by_cases keeps : value.KeepsLines
  · rw [if_pos keeps, joinWith_splitLines_text_eq_iff.mpr keeps]
    exact read_text printable
  · have fails := (readsJust value printable.distinct printable.short).fails keeps
    have starts := (starts_withFeeds_write 0 value).skipSpace_append []
    have enough : (write 0 value).length ≤ (withFeeds (write 0 value)).length + 1 := by
      rw [withFeeds, List.length_map]
      omega
    have stopped := fails 0 _ [] enough
    rw [List.append_nil] at starts stopped
    rw [if_neg keeps]
    unfold read Text.length
    rw [toList_joinWith_splitLines_text]
    show (readValue _ (skipSpace (withFeeds (write 0 value))) >>= _) = _
    rw [starts]
    show (readValue ((withFeeds (write 0 value)).length + 1) _ >>= _) = _
    rw [stopped]
    rfl

end Json

end LinkedQuery
