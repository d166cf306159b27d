import LinkedQuery.Text

/-!
Contract: values quoted in the normalized text of a query.

Owns:
- the writer, which puts a backslash before a backslash or a double quote;
- the reader, which takes the code point after a backslash as it stands and
  ends at the first quote without one.

Does not own: the punctuation around quoted values.
-/

namespace LinkedQuery.Text.Quoted

/-- The inside of a quoted value. -/
def body : List CodePoint → List CodePoint
  | [] => []
  | code :: rest =>
      if code = '\\' || code = '"' then
        '\\' :: code :: body rest
      else
        code :: body rest

/-- A value between double quotes. -/
def write (codes : List CodePoint) : List CodePoint :=
  '"' :: (body codes ++ [.char '"'])

/-- Read up to the closing quote; the result is the value and the text after
the quote. -/
def readBody : List CodePoint → Option (List CodePoint × List CodePoint)
  | [] => none
  | .char '"' :: rest => some ([], rest)
  | .char '\\' :: code :: rest =>
      (readBody rest).map fun (value, after) => (code :: value, after)
  | code :: rest =>
      if code = '\\' then
        none
      else
        (readBody rest).map fun (value, after) => (code :: value, after)

/-- Read one quoted value at the front of a text. -/
def read? : List CodePoint → Option (List CodePoint × List CodePoint)
  | .char '"' :: rest => readBody rest
  | _ => none

/-- A text between double quotes. -/
def quote (text : Text) : Text :=
  .ofList (write text.toList)

end LinkedQuery.Text.Quoted
