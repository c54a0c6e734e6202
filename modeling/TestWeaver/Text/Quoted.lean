import TestWeaver.Text.Printable

/-!
Quoted text, as the generated modules and the messages write it: between single quotes, unless the text has a
single quote and no double one; what is not shown as itself is written as an escape.
-/
namespace TestWeaver

namespace CodePoint

def numericEscape (p : CodePoint) : Text :=
  if p.value < 0x100 then "\\x" ++ Text.hexadecimal 2 p.value
  else if p.value < 0x10000 then "\\u" ++ Text.hexadecimal 4 p.value
  else "\\U" ++ Text.hexadecimal 8 p.value

def quotedIn (quote p : CodePoint) : Text :=
  if p == quote || p == .char '\\' then [.char '\\', p]
  else if p == .char '\t' then "\\t"
  else if p == .char '\n' then "\\n"
  else if p == .char '\r' then "\\r"
  else if p.isPrintable then [p]
  else p.numericEscape

end CodePoint

namespace Text

def quoteMark (t : Text) : CodePoint :=
  if t.contains "'" && !t.contains "\"" then .char '"' else .char '\''

def quoted (t : Text) : Text :=
  let quote := quoteMark t
  quote :: t.flatMap (CodePoint.quotedIn quote) ++ [quote]

end Text

end TestWeaver
