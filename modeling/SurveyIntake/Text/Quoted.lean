import SurveyIntake.Unicode.Age
import SurveyIntake.Unicode.Category
import SurveyIntake.Unicode.Property

/-!
# SurveyIntake.Text.Quoted

Texts between quotation marks, as they stand in messages.

* `isGraphic` — characters that show and stand by themselves.
* `quoted`    — the text with quotation marks, backslashes and characters that do not show escaped.
-/

namespace SurveyIntake
namespace Text

/-- Marks that only show on the character before them. -/
def joining : CharSet :=
  .inter (Property.set "Grapheme_Extend") (Category.sets ["Mn", "Mc", "Me"])

/-- Characters that do not show: controls, those without a meaning, most separators, those that are
ignored by default, and marks. -/
def hidden : CharSet :=
  .unions [.diff (Category.sets ["Cc", "Cf", "Cs", "Co", "Cn", "Zl", "Zp", "Zs"]) Recent.graphic,
    Property.set "Default_Ignorable_Code_Point", joining]

def isGraphic (c : Char) : Bool := c == ' ' || !hidden.contains c

def escaped (c : Char) : List Char :=
  if c = '\x00' then ['\\', '0']
  else if c = '\t' then ['\\', 't']
  else if c = '\r' then ['\\', 'r']
  else if c = '\n' then ['\\', 'n']
  else if c = '"' then ['\\', '"']
  else if c = '\\' then ['\\', '\\']
  else if isGraphic c then [c]
  else ['\\', 'u', '\x7b'] ++ Nat.toDigits 16 c.toNat ++ ['\x7d']

def quoted (s : String) : String :=
  String.ofList ('"' :: (s.toList.flatMap escaped ++ ['"']))

end Text
end SurveyIntake
