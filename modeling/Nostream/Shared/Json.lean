import Nostream.Shared.Hex

set_option autoImplicit false

namespace Json

open Utf16 Hex

def unicodeEscape (u : UInt16) : JsString :=
  js "\\u" ++ [hexDigit (u.toNat / 4096), hexDigit (u.toNat / 256 % 16),
    hexDigit (u.toNat / 16 % 16), hexDigit (u.toNat % 16)]

def quoteUnit (u : UInt16) : JsString :=
  if u.toNat = 8 then js "\\b"
  else if u.toNat = 9 then js "\\t"
  else if u.toNat = 10 then js "\\n"
  else if u.toNat = 12 then js "\\f"
  else if u.toNat = 13 then js "\\r"
  else if u.toNat = 34 then js "\\\""
  else if u.toNat = 92 then js "\\\\"
  else if u.toNat < 32 ∨ isSurrogate u then unicodeEscape u
  else [u]

-- Surrogate pairs are copied, lone surrogates are escaped.
def quoteBody : JsString → JsString
  | [] => []
  | [u] => quoteUnit u
  | u :: v :: rest =>
    if isHigh u && isLow v then u :: v :: quoteBody rest
    else quoteUnit u ++ quoteBody (v :: rest)

def quote (s : JsString) : JsString := js "\"" ++ quoteBody s ++ js "\""

def integer (n : Int) : JsString :=
  if n < 0 then js "-" ++ encode (Nat.toDigits 10 n.natAbs) else encode (Nat.toDigits 10 n.natAbs)

def array (elements : List JsString) : JsString :=
  js "[" ++ (elements.intersperse (js ",")).flatten ++ js "]"

end Json
