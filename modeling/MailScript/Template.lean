import MailScript.Variables

/-! # Templates

A template holds tokens of the form dollar, opening brace, name, closing brace. Filling it in
replaces every token whose name has a known value. Text that comes from a value is never looked at
again, and a token with another name stays as it is. -/

namespace MailScript.Template

/-- The characters before the first token opening and those behind it. -/
def splitOpening : List Char → Option (List Char × List Char)
  | [] => none
  | '$' :: '\x7b' :: rest => some ([], rest)
  | c :: rest => (splitOpening rest).map fun (before, behind) => (c :: before, behind)

/-- The characters before the first closing brace and those behind it. -/
def splitClosing : List Char → Option (List Char × List Char)
  | [] => none
  | c :: rest =>
    if c = '\x7d' then some ([], rest)
    else (splitClosing rest).map fun (name, behind) => (c :: name, behind)

/-- The characters that open a token. -/
def opening : List Char := ['$', '\x7b']

/-- The place of the first token opening in a text. -/
def findOpening (text : List Char) : Option Nat :=
  (splitOpening text).map fun parts => parts.1.length

/-- The place of the first closing brace in a text. -/
def findClosing (text : List Char) : Option Nat :=
  (splitClosing text).map fun parts => parts.1.length

/-- Fill in tokens from a position of a text on, splicing each value into the text. The fuel bounds
the number of tokens. -/
def spliceFrom (lookup : String → Option String) : Nat → List Char → Nat → List Char
  | 0, text, _ => text
  | fuel + 1, text, position =>
    match findOpening (text.drop position) with
    | none => text
    | some offset =>
      let start := position + offset
      match findClosing (text.drop start) with
      | none => text
      | some length =>
        let stop := start + length
        let name := (text.drop (start + 2)).take (stop - (start + 2))
        match lookup (String.ofList name) with
        | none => spliceFrom lookup fuel text stop
        | some value =>
          spliceFrom lookup fuel (text.take start ++ value.toList ++ text.drop (stop + 1))
            (start + value.toList.length)

def fill (template : String) (store : Variables) : String :=
  if store.size = 0 then template
  else
    let text := template.toList
    String.ofList (spliceFrom (fun name => store.get name) (text.length + 1) text 0)

end MailScript.Template
