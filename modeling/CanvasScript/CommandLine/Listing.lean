import CanvasScript.Command.Definition
import CanvasScript.Text.Quoted

/-!
# Listings for other programs

* `jsonString`: a text as JSON spells it.
* `jsonListing`: summaries of commands as a JSON array, one member a line. A parent or aliases
  that are not there are left out.
-/

namespace CanvasScript.CommandLine

open Command

/-- A character between the quotes of a JSON string. -/
def jsonChar (c : Char) : List Char :=
  match c with
  | '"' => ['\\', '"']
  | '\\' => ['\\', '\\']
  | '\n' => ['\\', 'n']
  | '\r' => ['\\', 'r']
  | '\t' => ['\\', 't']
  | '\x08' => ['\\', 'b']
  | '\x0c' => ['\\', 'f']
  | c =>
    if c.toNat < 0x20 then
      let digits := Text.hexDigits c.toNat
      ['\\', 'u'] ++ List.replicate (4 - digits.length) '0' ++ digits
    else [c]

/-- A text as a JSON string. -/
def jsonString (s : String) : String :=
  String.ofList ('"' :: s.toList.flatMap jsonChar ++ ['"'])

/-- Items between brackets, one a line, at the given indentation. -/
def jsonItems (opening closing indent : String) (items : List String) : String :=
  if items.isEmpty then opening ++ closing
  else
    opening ++ "\n" ++ ",\n".intercalate (items.map fun item => indent ++ "  " ++ item) ++ "\n" ++
      indent ++ closing

/-- A member of a JSON object. -/
def jsonMember (name value : String) : String := jsonString name ++ ": " ++ value

/-- The members of a summary. -/
def jsonMembers (s : Summary) : List String :=
  [jsonMember "name" (jsonString s.name)] ++
    (match s.parent? with
      | some parent => [jsonMember "parent" (jsonString parent)]
      | none => []) ++
    [jsonMember "usage" (jsonString s.usage),
      jsonMember "description" (jsonString s.description)] ++
    (if s.aliases.isEmpty then []
      else [jsonMember "aliases" (jsonItems "[" "]" "    " (s.aliases.map jsonString))])

/-- Summaries as a JSON array. -/
def jsonListing (ss : List Summary) : String :=
  jsonItems "[" "]" "" (ss.map fun s => jsonItems "\x7b" "\x7d" "  " (jsonMembers s))

end CanvasScript.CommandLine
