import Provisr.Backend.ManifestStore

namespace Provisr.Backend

-- The tables of package unicode.
class GoUnicode where
  toLower : Char → Char
  toUpper : Char → Char
  isPrint : Char → Bool

section Strings

variable [GoUnicode]

def TrimSpace (s : String) : String := String.ofList ((s.toList.dropWhile isSpace).rdropWhile isSpace)

def ToLower (s : String) : String := String.ofList (s.toList.map GoUnicode.toLower)

def ToUpper (s : String) : String := String.ofList (s.toList.map GoUnicode.toUpper)

def Contains (s part : String) : Bool := s.toList.tails.any fun cs => part.toList.isPrefixOf cs

def HasPrefix (s start : String) : Bool := start.toList.isPrefixOf s.toList

def HasSuffix (s ending : String) : Bool := ending.toList.isSuffixOf s.toList

-- strings.EqualFold with a text of ASCII letters, none of them k or s.
def EqualFold (s text : String) : Bool := s.toList.map Char.toLower == text.toList

def hexDigits (width n : Nat) : List Char :=
  let ds := Nat.toDigits 16 n
  List.replicate (width - ds.length) '0' ++ ds

def quoteChar (c : Char) : List Char :=
  let n := c.toNat
  if n = 34 ∨ n = 92 then [Char.ofNat 92, c]
  else if GoUnicode.isPrint c then [c]
  else match [(7, 'a'), (8, 'b'), (12, 'f'), (10, 'n'), (13, 'r'), (9, 't'), (11, 'v')].lookup n with
    | some letter => [Char.ofNat 92, letter]
    | none =>
      if n < 32 ∨ n = 127 then Char.ofNat 92 :: 'x' :: hexDigits 2 n
      else if n < 0x10000 then Char.ofNat 92 :: 'u' :: hexDigits 4 n
      else Char.ofNat 92 :: 'U' :: hexDigits 8 n

-- %q
def Quote (s : String) : String :=
  String.ofList (Char.ofNat 34 :: (s.toList.flatMap quoteChar ++ [Char.ofNat 34]))

end Strings

end Provisr.Backend
