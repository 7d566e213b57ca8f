import MailScript.Element
import MailScript.Event
import MailScript.Files.Tree
import MailScript.Matching
import MailScript.Script.Directive
import MailScript.Script.Source

/-! # Compilation of scripts

A script is compiled line by line. A draft holds the elements so far and knows whether the next line
stands inside a block; a block becomes elements at its closing line. -/

namespace MailScript.Script

/-- What the lines of a script are compiled with. -/
structure Setting where
  script : String
  files : FileTree
  baseDirectory : Option Path
  attachmentLimit : Int
deriving Inhabited

/-- The place of a line, as it is written in reports. -/
def Setting.location (setting : Setting) (line : Nat) : String :=
  setting.script ++ ":" ++ toString line

/-- An entry of a block that uploads attachments. -/
inductive Entry where
  | text (line : Line)
  | attachment (file : Attachment)
deriving DecidableEq, Repr

namespace Entry

/-- The number of bytes of an entry without its line ending; a character counts as one byte. -/
def size : Entry → Nat
  | .text line => line.length
  | .attachment file => file.data.length

def element : Entry → Element
  | .text line => .request (String.ofList line)
  | .attachment file => .upload file

/-- What an entry adds to the size of a block: lines count from the third entry on, attachments
always. -/
def share (index : Nat) (entry : Entry) : Nat :=
  match entry with
  | .text _ => if 1 < index then entry.size + 2 else 0
  | .attachment _ => entry.size + 2

end Entry

/-- What entries add to the size of a block, the first of them at an index. -/
def sizeFrom : Nat → List Entry → Nat
  | _, [] => 0
  | index, entry :: rest => entry.share index + sizeFrom (index + 1) rest

/-- The size that the first line of a block announces. The line ending behind the last entry does
not belong to it. -/
def announcedSize (entries : List Entry) : Int :=
  (sizeFrom 0 entries : Int) - 2

/-- Where the next line of a draft stands. Inside a block the number of its first line is kept. -/
inductive Stand where
  | outside
  | unordered (opened : Nat) (patterns : List String)
  | upload (opened : Nat) (entries : List Entry)
  | skipping (opened : Nat)
deriving DecidableEq, Repr

/-- The tag of the block that is open. -/
def Stand.openBlock? : Stand → Option String
  | .outside => none
  | .unordered .. => some Directive.unorderedTag
  | .upload .. => some Directive.uploadTag
  | .skipping _ => some Directive.skipTag

/-- The elements of a script so far, and what is needed to go on. -/
structure Draft where
  elements : List Element
  lastRequest : String
  stand : Stand
  events : List Event
deriving Repr

namespace Draft

def empty : Draft := ⟨[], "", .outside, []⟩

def add (draft : Draft) (element : Element) : Draft :=
  { draft with elements := draft.elements ++ [element] }

/-- Go over to another stand. -/
def go (draft : Draft) (stand : Stand) : Draft :=
  { draft with stand := stand }

/-- Add a request, which is then the last one. -/
def request (draft : Draft) (message : String) : Draft :=
  { draft.add (.request message) with lastRequest := message }

end Draft

/-- A text is a pattern, with a group if it is to capture. -/
def checkPattern (pattern : String) (capturing : Bool) : Except Objection Unit :=
  match Pattern.parse pattern with
  | .ok parsed =>
    if capturing ∧ parsed.groups = 0 then .error (.cause (.noCapturingGroup pattern))
    else .ok ()
  | .error (.malformed reason position) =>
    .error (.cause (.invalidPattern pattern (.malformed reason position)))
  | .error e => .error (.fault (.malformedPattern pattern e))

/-- The tag in front of the name of an attachment. -/
def attachmentTag : String := "FILE="

/-- Load an attachment. It must not be larger than the limit. -/
def loadAttachment (setting : Setting) (filename : String) : Except Objection Attachment :=
  let path := Path.ofString filename
  let path := match setting.baseDirectory with
    | some directory => directory.join path
    | none => path
  let loaded : Except Fault Attachment := do
    let place ← setting.files.locate path
    let size := setting.files.sizeAt place
    if setting.attachmentLimit < size then
      fail (.attachmentTooLarge filename size setting.attachmentLimit)
    else return ⟨← setting.files.readAt path place, filename⟩
  match loaded with
  | .ok attachment => .ok attachment
  | .error (.system e) => .error (.unreadable filename e)
  | .error fault => .error (.fault fault)

def attachmentLoaded (attachment : Attachment) : Event :=
  .debug "attachment_loaded"
    [("filename", .text attachment.filename), ("size", .nat attachment.data.length)]

/-- The elements of a block of uploads: the request that announces the size, the response that asks
for the data, and the data. -/
def closeUpload (setting : Setting) (opened : Nat) (entries : List Entry) (draft : Draft) :
    Except Objection Draft :=
  match entries with
  | .text command :: .text prompt :: rest => do
    let first :=
      String.ofList command ++ " \x7b" ++ toString (announcedSize entries) ++ "\x7d"
    let prompt := String.ofList prompt
    checkPattern prompt false
    let head := (draft.request first).add
      (.response prompt ⟨setting.location opened, some first⟩ [])
    return { head with elements := head.elements ++ rest.map Entry.element }
  | _ => .error (.cause .badAttachmentHead)

namespace Draft

/-- Where a line read now comes from. -/
def origin (draft : Draft) (setting : Setting) (line : Nat) : Origin :=
  ⟨setting.location line, some draft.lastRequest⟩

/-- Compile a line outside of blocks. -/
def readOutside (setting : Setting) (number : Nat) (line : Line) (draft : Draft) :
    Except Objection Draft := do
  match ← Directive.ofLine line with
  | .prompt => return draft.add .prompt
  | .request message => return draft.request message
  | .response pattern =>
    checkPattern pattern false
    return draft.add (.response pattern (draft.origin setting number) [])
  | .capture names pattern =>
    checkPattern pattern (names ≠ [])
    return draft.add (.response pattern (draft.origin setting number) names)
  | .openUnordered => return draft.go (.unordered number [])
  | .openUpload => return draft.go (.upload number [])
  | .ignored => return draft
  | .switch label => return draft.add (.switch label)
  | .pause millis => return draft.add (.pause millis)
  | .skip => return draft.go (.skipping number)

/-- Compile the next line of a script. -/
def read (setting : Setting) (number : Nat) (line : Line) (draft : Draft) :
    Except Objection Draft :=
  match draft.stand with
  | .outside => draft.readOutside setting number line
  | .unordered opened patterns =>
    if line.startsWith Directive.closingTag then
      .ok ((draft.add (.unordered patterns (draft.origin setting opened))).go .outside)
    else if line.startsWith Directive.responseTag then do
      checkPattern line.body false
      return draft.go (.unordered opened (patterns ++ [line.body]))
    else .error (.cause .foreignLineInBlock)
  | .upload opened entries =>
    if line.startsWith Directive.closingTag then
      return (← closeUpload setting opened entries draft).go .outside
    else if line.startsWith attachmentTag then do
      let name := Text.trimChars (line.drop attachmentTag.length)
      let attachment ← loadAttachment setting (String.ofList name)
      let draft := draft.go (.upload opened (entries ++ [.attachment attachment]))
      return { draft with events := draft.events ++ [attachmentLoaded attachment] }
    else return draft.go (.upload opened (entries ++ [.text line]))
  | .skipping opened =>
    .ok ((draft.add (.skipped line.body (draft.origin setting opened))).go .outside)

/-- Compile lines of which the first has the given number. The result is the draft behind the last
line that can be compiled, with the fault at the next one. -/
def readAll (setting : Setting) : Nat → List Line → Draft → Draft × Option Fault
  | _, [], draft => (draft, none)
  | number, line :: rest, draft =>
    match draft.read setting number line with
    | .ok draft => readAll setting (number + 1) rest draft
    | .error objection => (draft, some (objection.place setting.script number))

end Draft

/-- What compiling a script yields: the events on the way, and the elements or a fault. -/
structure Compilation where
  events : List Event
  result : Except Fault (List Element)

/-- The fault at the end of a script: what stopped reading it, or a block that is still open. -/
def endFault? (setting : Setting) (transcript : Transcript) (draft : Draft) : Option Fault :=
  match transcript.fault, draft.stand.openBlock? with
  | some fault, _ => some fault
  | none, some block =>
    some (.failure (.compile (.unterminated block) setting.script transcript.lines.length))
  | none, none => none

def scriptCompiled (setting : Setting) (transcript : Transcript) (elements : List Element) :
    Event :=
  .debug "script_compiled"
    [("script_name", .text setting.script), ("line_count", .nat transcript.lines.length),
      ("element_count", .nat elements.length)]

def compile (setting : Setting) (transcript : Transcript) : Compilation :=
  let (draft, fault) := Draft.empty.readAll setting 1 transcript.lines
  match fault.or (endFault? setting transcript draft) with
  | some fault => ⟨draft.events, .error fault⟩
  | none =>
    ⟨draft.events ++ [scriptCompiled setting transcript draft.elements], .ok draft.elements⟩

/-- Compile the script in a file. Its attachments lie beside it unless a base directory is set. -/
def compileFile (setting : Setting) (encoding : String) (path : Path) : Compilation :=
  match setting.files.read path with
  | .ok bytes =>
    compile
      { setting with
        script := path.name, baseDirectory := some (setting.baseDirectory.getD path.parent) }
      ((Source.bytes bytes).transcript encoding)
  | .error (.system e) => ⟨[], fail (.scriptMissing path.render e)⟩
  | .error fault => ⟨[], .error fault⟩

end MailScript.Script
