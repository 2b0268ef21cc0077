import ClockOrchestrator.Python.Float

namespace Python

def truthy (value : Option String) : Bool :=
  match value with
  | some text => decide (text ≠ "")
  | none => false

def isSpace (c : Char) : Bool :=
  let n := c.toNat
  (9 ≤ n && n ≤ 13) || (28 ≤ n && n ≤ 32) || n = 0x85 || n = 0xA0 || n = 0x1680 ||
    (0x2000 ≤ n && n ≤ 0x200A) || n = 0x2028 || n = 0x2029 || n = 0x202F || n = 0x205F ||
    n = 0x3000

def stripChars (text : List Char) : List Char :=
  ((text.dropWhile isSpace).reverse.dropWhile isSpace).reverse

def decodeUtf8 (payload : ByteArray) : Except PyError (List Char) :=
  match String.fromUTF8? payload with
  | some text => .ok text.toList
  | none => .error .unicodeDecodeError

end Python
