import MailScript.Text.Hex
import MailScript.Text.Lines

/-! # Encodings of scripts

Bytes are decoded strictly: the first byte sequence that is no character is an error that names the
offending bytes and their place. A stream of bytes is decoded piece by piece; a character may be cut
by the end of a piece, and only the end of the stream makes an unfinished character an error. -/

namespace MailScript.Text

/-- The encodings a script may be written in. -/
inductive Encoding where
  | utf8
  | ascii
  | latin1
deriving DecidableEq, Repr

/-- The encoding that a name denotes, upper case and underscores allowed. -/
def Encoding.ofName? (name : String) : Option Encoding :=
  let plain := String.ofList (name.toList.map fun c => if c = '_' then '-' else c.toLower)
  if ["utf-8", "utf8", "u8", "utf"].contains plain then some .utf8
  else if ["ascii", "us-ascii", "646"].contains plain then some .ascii
  else if ["latin-1", "latin1", "latin", "l1", "iso-8859-1", "iso8859-1", "8859"].contains plain
  then some .latin1
  else none

def Encoding.name : Encoding → String
  | .utf8 => "utf-8"
  | .ascii => "ascii"
  | .latin1 => "latin-1"

/-- Why bytes are no character. -/
inductive DecodingReason where
  | invalidStart
  | invalidContinuation
  | unfinished
  | beyondAscii
deriving DecidableEq, Repr

def DecodingReason.message : DecodingReason → String
  | .invalidStart => "invalid start byte"
  | .invalidContinuation => "invalid continuation byte"
  | .unfinished => "unexpected end of data"
  | .beyondAscii => "ordinal not in range(128)"

/-- Bytes that are no character of an encoding, with the place of the first of them. -/
structure DecodingError where
  encoding : Encoding
  bytes : List UInt8
  position : Nat
  reason : DecodingReason
deriving DecidableEq, Repr

/-- The wording of a decoding error: one byte is shown, several are only located. -/
def DecodingError.message (error : DecodingError) : String :=
  let place := match error.bytes with
    | [byte] =>
      "byte 0x" ++ String.ofList (hexDigits 2 byte.toNat) ++ " in position "
        ++ toString error.position
    | bytes =>
      "bytes in position " ++ toString error.position ++ "-"
        ++ toString (error.position + bytes.length - 1)
  "'" ++ error.encoding.name ++ "' codec can't decode " ++ place ++ ": " ++ error.reason.message

/-- What the front of some bytes is in UTF-8. -/
inductive FirstCharacter where
  /-- A character of the given length. -/
  | char (c : Char) (length : Nat)
  /-- A number of bytes that no character starts with. -/
  | bad (length : Nat) (reason : DecodingReason)
  /-- The beginning of a character that the bytes do not finish. -/
  | unfinished
deriving DecidableEq, Repr

/-- A byte that continues a character. -/
def isContinuation (byte : UInt8) : Bool :=
  128 ≤ byte.toNat && byte.toNat < 192

/-- The second byte of a character of three or four bytes may be restricted by the first one: no
longer form than needed, no surrogate, nothing beyond the last plane. -/
def allowsSecond (first second : UInt8) : Bool :=
  isContinuation second &&
    match first.toNat with
    | 0xE0 => 0xA0 ≤ second.toNat
    | 0xED => second.toNat < 0xA0
    | 0xF0 => 0x90 ≤ second.toNat
    | 0xF4 => second.toNat < 0x90
    | _ => true

/-- The six bits that a continuation byte carries. -/
def continuationBits (byte : UInt8) : Nat :=
  byte.toNat % 64

/-- The first two bytes of a surrogate. They are no beginning of a character, and yet they are
judged only when it is known what follows. -/
def isCutSurrogate : List UInt8 → Bool
  | [first, second] => first.toNat == 0xED && isContinuation second && !allowsSecond first second
  | _ => false

/-- Read one character from the front of nonempty bytes. -/
def firstCharacter (first : UInt8) (rest : List UInt8) : FirstCharacter :=
  let lead := first.toNat
  if lead < 128 then .char (Char.ofNat lead) 1
  else if lead < 0xC2 || 0xF5 ≤ lead then .bad 1 .invalidStart
  else match rest with
    | [] => .unfinished
    | second :: rest =>
      if isCutSurrogate (first :: second :: rest) then .unfinished
      else if !allowsSecond first second then .bad 1 .invalidContinuation
      else if lead < 0xE0 then .char (Char.ofNat (lead % 32 * 64 + continuationBits second)) 2
      else match rest with
        | [] => .unfinished
        | third :: rest =>
          if !isContinuation third then .bad 2 .invalidContinuation
          else if lead < 0xF0 then
            .char (Char.ofNat
              ((lead % 16 * 64 + continuationBits second) * 64 + continuationBits third)) 3
          else match rest with
            | [] => .unfinished
            | fourth :: _ =>
              if !isContinuation fourth then .bad 3 .invalidContinuation
              else .char (Char.ofNat
                (((lead % 8 * 64 + continuationBits second) * 64 + continuationBits third) * 64
                  + continuationBits fourth)) 4

/-- Decode UTF-8 from a position on. The result is the text and the bytes of an unfinished character
at the end. The fuel bounds the number of characters. -/
def decodeUtf8From : Nat → Nat → List UInt8 → Except DecodingError (List Char × List UInt8)
  | 0, _, bytes => .ok ([], bytes)
  | _ + 1, _, [] => .ok ([], [])
  | fuel + 1, position, first :: rest =>
    match firstCharacter first rest with
    | .char c length =>
      match decodeUtf8From fuel (position + length) ((first :: rest).drop length) with
      | .ok (text, pending) => .ok (c :: text, pending)
      | .error e => .error e
    | .bad length reason => .error ⟨.utf8, (first :: rest).take length, position, reason⟩
    | .unfinished => .ok ([], first :: rest)

/-- Decode a piece of a stream. The result is the text and the bytes kept for the next piece. -/
def decodePiece (encoding : Encoding) (bytes : List UInt8) :
    Except DecodingError (List Char × List UInt8) :=
  match encoding with
  | .utf8 => decodeUtf8From bytes.length 0 bytes
  | .latin1 => .ok (bytes.map fun byte => Char.ofNat byte.toNat, [])
  | .ascii =>
    let text := bytes.takeWhile fun byte => byte.toNat < 128
    match bytes.drop text.length with
    | [] => .ok (text.map fun byte => Char.ofNat byte.toNat, [])
    | byte :: _ => .error ⟨.ascii, [byte], text.length, .beyondAscii⟩

/-- The error of bytes that are left over at the end, the first of them at a position. -/
def endError (encoding : Encoding) (pending : List UInt8) (position : Nat) : DecodingError :=
  if isCutSurrogate pending then ⟨encoding, pending.take 1, position, .invalidContinuation⟩
  else ⟨encoding, pending, position, .unfinished⟩

/-- Decode bytes that are complete. -/
def decode (encoding : Encoding) (bytes : List UInt8) : Except DecodingError (List Char) :=
  match decodePiece encoding bytes with
  | .error e => .error e
  | .ok (text, []) => .ok text
  | .ok (_, pending) => .error (endError encoding pending (bytes.length - pending.length))

/-- The number of bytes that a stream hands over at once. -/
def pieceSize : Nat := 8192

/-- The complete lines at the front of a text of which more may follow; a final carriage return may
still turn out to be the first half of a line ending. -/
def completeLines (text : List Char) : List (List Char) :=
  let ended := (text.reverse.dropWhile fun c => !isLineBreak c).reverse
  let safe := match ended.reverse with
    | '\r' :: front =>
      if ended.length = text.length then (front.dropWhile fun c => !isLineBreak c).reverse
      else ended
    | _ => ended
  splitLines safe

/-- Decode a stream from a list of pieces, given the text and the bytes left over so far. The result
is the lines that can be read and the error that stops reading, if there is one. -/
def decodePieces (encoding : Encoding) :
    List (List UInt8) → List Char → List UInt8 → List (List Char) × Option DecodingError
  | [], text, [] => (splitLines text, none)
  | [], text, pending => (completeLines text, some (endError encoding pending 0))
  | piece :: rest, text, pending =>
    match decodePiece encoding (pending ++ piece) with
    | .error e => (completeLines text, some e)
    | .ok (more, pending) => decodePieces encoding rest (text ++ more) pending

/-- Cut bytes into pieces of a positive size; the fuel bounds the number of pieces. -/
def pieces (size : Nat) : Nat → List UInt8 → List (List UInt8)
  | 0, _ => []
  | _ + 1, [] => []
  | fuel + 1, bytes => bytes.take size :: pieces size fuel (bytes.drop size)

/-- The lines of a stream of bytes, and the error that stops reading, if there is one. -/
def decodeStream (encoding : Encoding) (bytes : List UInt8) :
    List (List Char) × Option DecodingError :=
  decodePieces encoding (pieces pieceSize (bytes.length / pieceSize + 1) bytes) [] []

def encodeUtf8 (text : String) : List UInt8 :=
  text.toUTF8.toList

/-- The ASCII byte of a character, a question mark for every character beyond ASCII. -/
def asciiByte (c : Char) : UInt8 :=
  if c.toNat < 128 then UInt8.ofNat c.toNat else 63

/-- The ASCII bytes of a text, with a question mark for every character beyond ASCII. -/
def encodeAscii (text : String) : List UInt8 :=
  text.toList.map asciiByte

/-- The text in which every byte is the character of the same code. -/
def decodeLatin1 (bytes : List UInt8) : String :=
  String.ofList (bytes.map fun byte => Char.ofNat byte.toNat)

@[simp] theorem length_encodeAscii (text : String) :
    (encodeAscii text).length = text.toList.length := by
  simp [encodeAscii]

end MailScript.Text
