import LinkedQuery.Proofs.Text
import LinkedQuery.Term

/-!
Contract: what the normalized text of a term tells about the term.

Owns:
- the quoted form of a value as two replacements, one after the other;
- the reader of quoted values, which gives back what was written, whatever
  stands behind it;
- terms of one kind and without weight, which their texts tell apart.

Does not own: weights, of which a text shows only some digits.
-/

namespace LinkedQuery

namespace Text.Quoted

variable {value other front back : List CodePoint}

/-- Put a backslash before each occurrence of a mark. -/
def escape (mark : CodePoint) (codes : List CodePoint) : List CodePoint :=
  codes.flatMap fun code => if code = mark then [.char '\\', mark] else [code]

theorem escape_cons (mark code : CodePoint) (codes : List CodePoint) :
    escape mark (code :: codes) =
      (if code = mark then [.char '\\', mark] else [code]) ++ escape mark codes :=
  List.flatMap_cons

/-- Backslashes are escaped before quotes, so those that come to stand before
quotes are not escaped themselves. -/
theorem body_eq_escape (codes : List CodePoint) : body codes = escape '"' (escape '\\' codes) := by
  induction codes with
  | nil => rfl
  | cons code codes inductionHypothesis =>
      rw [body, inductionHypothesis, escape_cons]
      by_cases isBackslash : code = .char '\\'
      · simp [isBackslash, escape_cons]
      · by_cases isQuote : code = .char '"'
        · simp [isQuote, escape_cons]
        · simp [isBackslash, isQuote, escape_cons]

/-- What was written up to the closing quote is read as it was, and the reader
stops there. -/
theorem readBody_body (value rest : List CodePoint) :
    readBody (body value ++ .char '"' :: rest) = some (value, rest) := by
  induction value with
  | nil => rfl
  | cons code codes inductionHypothesis =>
      by_cases isMark : code = .char '\\' ∨ code = .char '"'
      · have written : body (code :: codes) = .char '\\' :: code :: body codes := by
          simp [body, isMark]
        rw [written, List.cons_append, List.cons_append, readBody, inductionHypothesis]
        rfl
      · obtain ⟨notBackslash, notQuote⟩ := not_or.mp isMark
        have written : body (code :: codes) = code :: body codes := by
          simp [body, notBackslash, notQuote]
        rw [written, List.cons_append, readBody, if_neg notBackslash, inductionHypothesis]
        · rfl
        · exact notQuote
        · exact fun _ _ isBackslash _ => notBackslash isBackslash

theorem read?_write (value rest : List CodePoint) :
    read? (write value ++ rest) = some (value, rest) := by
  rw [write, List.cons_append, List.append_assoc]
  exact readBody_body value rest

/-- Texts that start with quoted values are equal just if the values are and what
stands behind them is. -/
theorem write_append_inj (same : write value ++ front = write other ++ back) :
    value = other ∧ front = back := by
  have read := congrArg read? same
  rw [read?_write, read?_write] at read
  exact Prod.mk.inj (Option.some.inj read)

/-! ## Several values -/

section Several

variable {mark closing : CodePoint} {gap : List CodePoint} {parts others : List Text}

/-- Values behind separators up to a closing mark are told apart, since the mark
begins no separator. -/
theorem separated_inj
    (ends : closing ≠ mark)
    (same :
      (parts.flatMap fun part => mark :: gap ++ write part.toList) ++ [closing] =
        (others.flatMap fun part => mark :: gap ++ write part.toList) ++ [closing]) :
    parts = others := by
  induction parts generalizing others with
  | nil =>
      cases others with
      | nil => rfl
      | cons => exact absurd (List.cons.inj same).1 ends
  | cons part rest inductionHypothesis =>
      cases others with
      | nil => exact absurd (List.cons.inj same).1.symm ends
      | cons otherPart otherRest =>
          simp only [List.flatMap_cons, List.append_assoc, List.append_cancel_left_eq] at same
          obtain ⟨samePart, sameRest⟩ := write_append_inj same
          have sameText : part = otherPart := congrArg Text.ofList samePart
          rw [sameText, inductionHypothesis sameRest]

theorem intercalate_cons_eq
    {α : Type}
    (separator first : List α)
    (rest : List (List α)) :
    separator.intercalate (first :: rest) = first ++ rest.flatMap (separator ++ ·) := by
  induction rest generalizing first with
  | nil => simp
  | cons second rest inductionHypothesis =>
      rw [List.intercalate_cons_cons, inductionHypothesis, List.flatMap_cons, List.append_assoc,
        List.append_assoc]

/-- Values between separators up to a closing mark are told apart. -/
theorem intercalate_inj
    (ends : closing ≠ mark)
    (starts : closing ≠ .char '"')
    (same :
      (mark :: gap).intercalate (parts.map fun part => write part.toList) ++ [closing] =
        (mark :: gap).intercalate (others.map fun part => write part.toList) ++ [closing]) :
    parts = others := by
  cases parts with
  | nil =>
      cases others with
      | nil => rfl
      | cons first rest =>
          rw [List.map_cons, intercalate_cons_eq] at same
          exact absurd (List.cons.inj same).1 starts
  | cons first rest =>
      cases others with
      | nil =>
          rw [List.map_cons, intercalate_cons_eq] at same
          exact absurd (List.cons.inj same).1.symm starts
      | cons other others =>
          simp only [List.map_cons, intercalate_cons_eq, List.flatMap_map, List.append_assoc]
            at same
          obtain ⟨sameFirst, sameRest⟩ := write_append_inj same
          have sameText : first = other := congrArg Text.ofList sameFirst
          rw [sameText, separated_inj ends sameRest]

end Several

end Text.Quoted

/-! ## Terms of one kind -/

namespace Term

open Text.Quoted

/-- The kinds of terms that are one quoted value. -/
def valued : List (Text → Option Boost → Term) :=
  [.string, .phrase, .phraseWildcard, .wildcard, .regex]

theorem toList_text_valued
    {build : Text → Option Boost → Term}
    (member : build ∈ valued)
    (value : Text) :
    (build value none).text.toList = write value.toList ++ [] := by
  simp only [valued, List.mem_cons, List.not_mem_nil, or_false] at member
  rcases member with rfl | rfl | rfl | rfl | rfl <;> rfl

theorem toList_text_fuzzy (value : Text) (distance : ℕ) :
    (fuzzy value distance none).text.toList =
      write value.toList ++ .char '~' :: (toString distance).toList.map CodePoint.char := by
  show ((write value.toList ++ [.char '~']) ++ (toString distance).toList.map CodePoint.char) ++ []
    = _
  rw [List.append_nil, List.append_assoc, List.singleton_append]

theorem toList_text_range (start stop : Text) :
    (range start stop none).text.toList =
      write start.toList ++ ((" /to/ " : Text).toList ++ (write stop.toList ++ [])) := by
  show ((write start.toList ++ (" /to/ " : Text).toList) ++ write stop.toList) ++ [] = _
  rw [List.append_assoc, List.append_assoc]

theorem toList_text_proximity (parts : List Text) :
    (proximity parts none).text.toList =
      .char '(' ::
        ((" W/ " : Text).toList.intercalate (parts.map fun part => write part.toList) ++
          [.char ')']) := by
  have joined :
      (Text.joinWith " W/ " (parts.map quote)).toList =
        (" W/ " : Text).toList.intercalate (parts.map fun part => write part.toList) := by
    rw [Text.toList_joinWith, List.map_map]
    rfl
  show (([.char '('] ++ (Text.joinWith " W/ " (parts.map quote)).toList) ++ [.char ')']) ++ [] = _
  rw [joined, List.append_nil, List.append_assoc, List.singleton_append]

/-- Numbers with the same digits are equal. -/
theorem toList_toString_inj
    {number other : ℕ}
    (same : (toString number).toList = (toString other).toList) :
    number = other := by
  have sameDigits : Nat.toDigits 10 number = Nat.toDigits 10 other := by
    simpa only [Nat.toString_eq_repr, Nat.toList_repr] using same
  have worth := congrArg (Nat.ofDigitChars 10 · 0) sameDigits
  simpa only [Nat.ofDigitChars_ten_toDigits] using worth

/-- A quoted value is its text with the backslashes and then the quotes escaped,
between quotes, and it is read back whatever stands behind it.  So two terms of
one kind and without weight that have the same text have the same values,
whatever quotes, backslashes or separators these hold. -/
theorem text_tells_values :
    (∀ value : Text,
      (quote value).toList =
        .char '"' :: (escape '"' (escape '\\' value.toList) ++ [.char '"'])) ∧
    (∀ (value : Text) (rest : List CodePoint),
      read? ((quote value).toList ++ rest) = some (value.toList, rest)) ∧
    (∀ build ∈ valued, ∀ value other : Text,
      (build value none).text = (build other none).text → value = other) ∧
    (∀ (value other : Text) (distance otherDistance : ℕ),
      (fuzzy value distance none).text = (fuzzy other otherDistance none).text →
        value = other ∧ distance = otherDistance) ∧
    (∀ start stop otherStart otherStop : Text,
      (range start stop none).text = (range otherStart otherStop none).text →
        start = otherStart ∧ stop = otherStop) ∧
    (∀ parts others : List Text,
      (proximity parts none).text = (proximity others none).text → parts = others) := by
  refine ⟨?_, fun value => read?_write value.toList, ?_, ?_, ?_, ?_⟩
  · intro value
    rw [← body_eq_escape]
    rfl
  · intro build member value other same
    have sameList := congrArg Text.toList same
    rw [toList_text_valued member, toList_text_valued member] at sameList
    exact congrArg Text.ofList (write_append_inj sameList).1
  · intro value other distance otherDistance same
    have sameList := congrArg Text.toList same
    rw [toList_text_fuzzy, toList_text_fuzzy] at sameList
    obtain ⟨sameValue, sameRest⟩ := write_append_inj sameList
    have sameDigits : (toString distance).toList = (toString otherDistance).toList :=
      (List.map_inj_right fun _ _ => CodePoint.char.inj).mp (List.cons.inj sameRest).2
    exact ⟨congrArg Text.ofList sameValue, toList_toString_inj sameDigits⟩
  · intro start stop otherStart otherStop same
    have sameList := congrArg Text.toList same
    rw [toList_text_range, toList_text_range] at sameList
    obtain ⟨sameStart, sameRest⟩ := write_append_inj sameList
    have sameStop := (write_append_inj (List.append_cancel_left sameRest)).1
    exact ⟨congrArg Text.ofList sameStart, congrArg Text.ofList sameStop⟩
  · intro parts others same
    have sameList := congrArg Text.toList same
    rw [toList_text_proximity, toList_text_proximity] at sameList
    exact intercalate_inj (by decide) (by decide) (List.cons.inj sameList).2

-- Two chains with the same characters between their brackets: what looks like a
-- separator is told from one by its escaped quotes.
example :
    (proximity ["a\" W/ \"b"] none).text = "(\"a\\\" W/ \\\"b\")" ∧
      (proximity ["a", "b"] none).text = "(\"a\" W/ \"b\")" := by
  decide

end Term

end LinkedQuery
