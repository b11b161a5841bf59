import Provisr.Foundation.JsText
import Mathlib.Data.List.DropRight

-- Strings as Python reads them: sequences of code points.
namespace Provisr.Foundation.PyText

-- str.isspace
def isSpace (c : Char) : Bool :=
  let n := c.toNat
  (9 ≤ n && n ≤ 13) || (28 ≤ n && n ≤ 32) || n == 0x85 || n == 0xa0 || n == 0x1680 ||
    (0x2000 ≤ n && n ≤ 0x200a) || n == 0x2028 || n == 0x2029 || n == 0x202f || n == 0x205f || n == 0x3000

def strip (s : String) : String :=
  String.ofList ((s.toList.dropWhile isSpace).rdropWhile isSpace)

-- `str(uuid.UUID(s))` of a text with hyphens.
def uuid (s : String) : Option String :=
  if JsText.isUuid s then some (String.ofList (s.toList.map Char.toLower)) else none

end Provisr.Foundation.PyText
