import LinkedQuery.Text
import LinkedQuery.Text.CaseTable

/-!
Contract: lower and upper case of text.

Owns:
- both mappings for whole texts, with the expansions to several characters
  and the final form of sigma at the end of a word.

Does not own: the table of code points.
-/

namespace LinkedQuery.Text

private def moveBy (progressions : List Progression) (code : CodePoint) : CodePoint :=
  match progressions.find? (·.holds code.toNat) with
  | some progression => .ofNat (progression.apply code.toNat)
  | none => code

/-- Whether the nearest character that is not case-ignorable is cased. -/
private def meetsCased (codes : List CodePoint) : Bool :=
  match codes.dropWhile fun code => caseIgnorableIntervals.holds code.toNat with
  | [] => false
  | code :: _ => casedIntervals.holds code.toNat

/-- The lower case of one code point, given the text before it, nearest first,
and the text after it. -/
private def lowerCode (before : List CodePoint) (code : CodePoint) (after : List CodePoint) :
    List CodePoint :=
  if code.toNat = 0x3A3 then
    if meetsCased before && !meetsCased after then
      [.ofNat 0x3C2]
    else
      [.ofNat 0x3C3]
  else if code.toNat = 0x130 then
    ['i', .ofNat 0x307]
  else
    [moveBy lowerProgressions code]

private def lowerFrom (before : List CodePoint) : List CodePoint → List CodePoint
  | [] => []
  | code :: after => lowerCode before code after ++ lowerFrom (code :: before) after

/-- Text in lower case. -/
def lower (text : Text) : Text :=
  .ofList (lowerFrom [] text.toList)

private def upperCode (code : CodePoint) : List CodePoint :=
  match upperExpansions.find? (·.1 == code.toNat) with
  | some (_, codes) => codes.map CodePoint.ofNat
  | none => [moveBy upperProgressions code]

/-- Text in upper case. -/
def upper (text : Text) : Text :=
  .ofList (text.toList.flatMap upperCode)

end LinkedQuery.Text
