import MailScript.Failure
import MailScript.Text.Encoding

/-! # Sources of scripts

A script is a text, encoded bytes, or a stream of either. Whatever the source is, what matters of it
is its lines and the fault, if there is one, that is met by reading beyond them. -/

namespace MailScript.Script

/-- Where a script is read from. -/
inductive Source where
  | text (content : String)
  | bytes (data : List UInt8)
  /-- A stream of characters, whose lines end at line feeds only. -/
  | characters (content : String)
  /-- A stream of bytes, which are decoded while it is read. -/
  | stream (data : List UInt8)
deriving Repr

/-- The lines of a script and the fault that stops reading behind the last of them. -/
structure Transcript where
  lines : List (List Char)
  fault : Option Fault
deriving Repr

namespace Transcript

/-- Lines with nothing behind them. -/
def ofLines (lines : List (List Char)) : Transcript := ⟨lines, none⟩

/-- A fault in front of the first line. -/
def ofFault (fault : Fault) : Transcript := ⟨[], some fault⟩

end Transcript

def Transcript.ofBytes (encoding : Text.Encoding) (bytes : List UInt8) : Transcript :=
  match Text.decode encoding bytes with
  | .ok text => .ofLines (Text.splitLines text)
  | .error e => .ofFault (.undecodable e)

def Transcript.ofStream (encoding : Text.Encoding) (bytes : List UInt8) : Transcript :=
  let (lines, error) := Text.decodeStream encoding bytes
  ⟨lines, error.map Fault.undecodable⟩

/-- The transcript of a source whose bytes are in the encoding of the given name. -/
def Source.transcript (encoding : String) : Source → Transcript
  | .text content => .ofLines (Text.splitLines content.toList)
  | .characters content => .ofLines ((Text.splitRecords content.toList).map Text.dropLineBreaks)
  | .bytes data =>
    match Text.Encoding.ofName? encoding with
    | some encoding => .ofBytes encoding data
    | none => .ofFault (.unknownEncoding encoding)
  | .stream data =>
    match Text.Encoding.ofName? encoding with
    | some encoding => .ofStream encoding data
    | none => .ofFault (.unknownEncoding encoding)

end MailScript.Script
