import LinkedQuery.Text.Literal

/-!
Contract: UTF-8 bytes as text and back.

Owns:
- the decoder, which accepts the shortest form of each character and no
  surrogates;
- the place and the kind of the first fault of bytes;
- the surrogates of a text, which have no bytes: the fault of the first run of
  them, and how a console shows them;
- the surrogates that stand for bytes in the names of files.

Does not own: line ends and byte order marks.
-/

namespace LinkedQuery.Text

/-- Why bytes are not UTF-8. -/
inductive Utf8Reason
  | invalidStart
  | invalidContinuation
  | unexpectedEnd
deriving Repr, DecidableEq

/-- The bytes from `start` on, `count` of them, that are not UTF-8. -/
structure Utf8Fault where
  reason : Utf8Reason
  start : Nat
  count : Nat
  lead : UInt8
deriving Repr, DecidableEq

/-- The wording of a reason. -/
def Utf8Reason.message : Utf8Reason → Text
  | .invalidStart => "invalid start byte"
  | .invalidContinuation => "invalid continuation byte"
  | .unexpectedEnd => "unexpected end of data"

/-- The wording of a fault: one byte is shown, several are only counted. -/
def Utf8Fault.message (fault : Utf8Fault) : Text :=
  if fault.count ≤ 1 then
    "'utf-8' codec can't decode byte 0x" ++ .ofChars (hexDigits 2 fault.lead.toNat) ++
      " in position " ++ toString fault.start ++ ": " ++ fault.reason.message
  else
    "'utf-8' codec can't decode bytes in position " ++ toString fault.start ++
      "-" ++ toString (fault.start + fault.count - 1) ++ ": " ++
      fault.reason.message

private def isContinuation (byte : UInt8) : Bool :=
  0x80 ≤ byte && byte < 0xC0

/-- Whether the second byte is one that the lead byte admits. -/
private def isSecond (lead byte : UInt8) : Bool :=
  isContinuation byte &&
    (lead != 0xE0 || 0xA0 ≤ byte) && (lead != 0xED || byte < 0xA0) &&
    (lead != 0xF0 || 0x90 ≤ byte) && (lead != 0xF4 || byte < 0x90)

private def lowSix (byte : UInt8) : Nat :=
  byte.toNat % 64

/-- Decode the bytes that stand from a position on. -/
def decodeUtf8From (position : Nat) : List UInt8 → Except Utf8Fault (List Char)
  | [] => .ok []
  | lead :: rest =>
      let fail (reason : Utf8Reason) (count : Nat) : Except Utf8Fault (List Char) :=
        .error ⟨reason, position, count, lead⟩
      if lead < 0x80 then
        (decodeUtf8From (position + 1) rest).map (Char.ofNat lead.toNat :: ·)
      else if lead < 0xC2 || 0xF5 ≤ lead then
        fail .invalidStart 1
      else
        match rest with
        | [] => fail .unexpectedEnd 1
        | second :: rest =>
            if !isSecond lead second then
              fail .invalidContinuation 1
            else if lead < 0xE0 then
              (decodeUtf8From (position + 2) rest).map
                (Char.ofNat (lead.toNat % 32 * 64 + lowSix second) :: ·)
            else
              match rest with
              | [] => fail .unexpectedEnd 2
              | third :: rest =>
                  if !isContinuation third then
                    fail .invalidContinuation 2
                  else if lead < 0xF0 then
                    (decodeUtf8From (position + 3) rest).map
                      (Char.ofNat (lead.toNat % 16 * 4096 + lowSix second * 64 +
                        lowSix third) :: ·)
                  else
                    match rest with
                    | [] => fail .unexpectedEnd 3
                    | fourth :: rest =>
                        if !isContinuation fourth then
                          fail .invalidContinuation 3
                        else
                          (decodeUtf8From (position + 4) rest).map
                            (Char.ofNat (lead.toNat % 8 * 262144 +
                              lowSix second * 4096 + lowSix third * 64 +
                              lowSix fourth) :: ·)

/-- Decode all bytes of a text. -/
def decodeUtf8 (bytes : List UInt8) : Except Utf8Fault (List Char) :=
  decodeUtf8From 0 bytes

/-- A run of surrogates in a text: where it starts, its first code point and the
number of those after it. -/
structure EncodingFault where
  start : Nat
  first : CodePoint
  more : Nat
deriving Repr, DecidableEq

/-- The wording of a fault: one code point is shown, several are only
counted. -/
def EncodingFault.message (fault : EncodingFault) : Text :=
  if fault.more = 0 then
    "'utf-8' codec can't encode character '" ++ .ofChars (escapeCode fault.first.toNat) ++
      "' in position " ++ toString fault.start ++ ": surrogates not allowed"
  else
    "'utf-8' codec can't encode characters in position " ++ toString fault.start ++ "-" ++
      toString (fault.start + fault.more) ++ ": surrogates not allowed"

/-- The first run of surrogates among code points that stand from a position
on, beginning with one that is not excused. -/
def encodingFaultFrom? (excused : CodePoint → Bool) (position : Nat) :
    List CodePoint → Option EncodingFault
  | [] => none
  | code :: rest =>
      if code.isSurrogate && !excused code then
        some ⟨position, code, (rest.takeWhile CodePoint.isSurrogate).length⟩
      else
        encodingFaultFrom? excused (position + 1) rest

/-- Why a text has no bytes, if it has none. -/
def encodingFault? (text : Text) : Option EncodingFault :=
  encodingFaultFrom? (fun _ => false) 0 text.toList

/-- Whether a code point stands for a single byte in the name of a file. -/
def isByteEscape (code : CodePoint) : Bool :=
  0xDC80 ≤ code.toNat && code.toNat < 0xDD00

/-- Why a text is no name of a file: such a name may hold surrogates that stand
for bytes. -/
def nameFault? (text : Text) : Option EncodingFault :=
  encodingFaultFrom? isByteEscape 0 text.toList

/-- The number of bytes of a name of a file. -/
def nameLength (text : Text) : Nat :=
  text.toList.foldl
    (fun length code => length + if isByteEscape code then 1 else utf8Width code) 0

/-- A text as a console shows it: surrogates as escapes. -/
def shown (text : Text) : Text :=
  .ofList <| text.toList.flatMap fun code =>
    if code.isSurrogate then (escapeCode code.toNat).map CodePoint.char else [code]

end LinkedQuery.Text
