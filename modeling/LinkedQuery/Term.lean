import LinkedQuery.Boost
import LinkedQuery.Number.Limit
import LinkedQuery.Text.Blank
import LinkedQuery.Text.Quoted

/-!
Contract: the values that fields are compared with.

Owns:
- the twelve kinds of terms;
- their normalized text and the names of their kinds;
- the equality of terms that takes weights as numbers.

Does not own: which operator admits which term.
-/

namespace LinkedQuery

/-- A term. -/
inductive Term
  | null
  | matchAll
  | string (value : Text) (boost : Option Boost)
  | phrase (value : Text) (boost : Option Boost)
  | phraseWildcard (value : Text) (boost : Option Boost)
  | wildcard (value : Text) (boost : Option Boost)
  | fuzzy (value : Text) (distance : Nat) (boost : Option Boost)
  | range (start stop : Text) (boost : Option Boost)
  | regex (value : Text) (boost : Option Boost)
  | array (members : List Term) (boost : Option Boost)
  | unparsedArray (value : Text) (boost : Option Boost)
  | proximity (parts : List Text) (boost : Option Boost)

/-- Why the parts of a term make no term. -/
inductive TermFault
  | boost (fault : BoostFault)
  | distance (value : Int)
deriving Repr, DecidableEq

/-- The wording of a fault; a distance that is too long is not shown. -/
def TermFault.message : TermFault → Text
  | .boost fault => fault.message
  | .distance value =>
      if isOverlong value then
        OverlongInteger.written.message
      else
        "fuzzy distance must be non-negative, got " ++ toString value

namespace Term

/-- A fuzzy term, if the distance is not negative. -/
def ofDistance (value : Text) (distance : Int) (boost : Option Boost) :
    Except TermFault Term :=
  match distance with
  | .ofNat distance => .ok (.fuzzy value distance boost)
  | .negSucc _ => .error (.distance distance)

/-- The name of a term's kind. -/
def kind : Term → String
  | .null => "NullTerm"
  | .matchAll => "MatchAllTerm"
  | .string _ _ => "StringTerm"
  | .phrase _ _ => "PhraseTerm"
  | .phraseWildcard _ _ => "PhraseWithWildcardTerm"
  | .wildcard _ _ => "WildcardTerm"
  | .fuzzy _ _ _ => "FuzzyTerm"
  | .range _ _ _ => "RangeTerm"
  | .regex _ _ => "RegexTerm"
  | .array _ _ => "ParsedArrayTerm"
  | .unparsedArray _ _ => "UnparsedArrayTerm"
  | .proximity _ _ => "ProximityChainTerm"

mutual

/-- The normalized text of a term. -/
def text : Term → Text
  | .null => "NULL"
  | .matchAll => "*"
  | .string value boost => Text.Quoted.quote value ++ Boost.mark boost
  | .phrase value boost => Text.Quoted.quote value ++ Boost.mark boost
  | .phraseWildcard value boost => Text.Quoted.quote value ++ Boost.mark boost
  | .wildcard value boost => Text.Quoted.quote value ++ Boost.mark boost
  | .fuzzy value distance boost =>
      Text.Quoted.quote value ++ "~" ++ toString distance ++ Boost.mark boost
  | .range start stop boost =>
      Text.Quoted.quote start ++ " /to/ " ++ Text.Quoted.quote stop ++ Boost.mark boost
  | .regex value boost => Text.Quoted.quote value ++ Boost.mark boost
  | .array members boost => "[" ++ Text.joinWith "," (texts members) ++ "]" ++ Boost.mark boost
  | .unparsedArray value boost => "[[" ++ value ++ "]]" ++ Boost.mark boost
  | .proximity parts boost =>
      "(" ++ Text.joinWith " W/ " (parts.map Text.Quoted.quote) ++ ")" ++ Boost.mark boost

/-- The normalized texts of terms. -/
def texts : List Term → List Text
  | [] => []
  | term :: rest => text term :: texts rest

end

mutual

/-- Whether a term holds a distance that is too long to be written. -/
def isOverlong : Term → Bool
  | .fuzzy _ distance _ => LinkedQuery.isOverlong distance
  | .array members _ => anyOverlong members
  | _ => false

/-- Whether one of some terms holds a distance that is too long. -/
def anyOverlong : List Term → Bool
  | [] => false
  | term :: rest => isOverlong term || anyOverlong rest

end

/-- The kind and the text of a term, as trees show it. -/
def label (term : Term) : Text :=
  term.kind ++ " " ++ term.text

/-- Whether two optional weights are equal as numbers. -/
def sameBoost : Option Boost → Option Boost → Bool
  | none, none => true
  | some left, some right => left.same right
  | _, _ => false

mutual

/-- Whether two terms are of one kind with equal parts. -/
def same : Term → Term → Bool
  | .null, .null => true
  | .matchAll, .matchAll => true
  | .string value boost, .string other otherBoost =>
      value == other && sameBoost boost otherBoost
  | .phrase value boost, .phrase other otherBoost =>
      value == other && sameBoost boost otherBoost
  | .phraseWildcard value boost, .phraseWildcard other otherBoost =>
      value == other && sameBoost boost otherBoost
  | .wildcard value boost, .wildcard other otherBoost =>
      value == other && sameBoost boost otherBoost
  | .fuzzy value distance boost, .fuzzy other otherDistance otherBoost =>
      value == other && distance == otherDistance && sameBoost boost otherBoost
  | .range start stop boost, .range otherStart otherStop otherBoost =>
      start == otherStart && stop == otherStop && sameBoost boost otherBoost
  | .regex value boost, .regex other otherBoost =>
      value == other && sameBoost boost otherBoost
  | .array members boost, .array others otherBoost =>
      sameAll members others && sameBoost boost otherBoost
  | .unparsedArray value boost, .unparsedArray other otherBoost =>
      value == other && sameBoost boost otherBoost
  | .proximity parts boost, .proximity others otherBoost =>
      parts == others && sameBoost boost otherBoost
  | _, _ => false

/-- Whether two lists of terms are equal member by member. -/
def sameAll : List Term → List Term → Bool
  | [], [] => true
  | term :: rest, other :: others => same term other && sameAll rest others
  | _, _ => false

end

end Term

end LinkedQuery
