import Nostream.Shared.JsonNumber

set_option autoImplicit false

namespace Json

open Utf16 Hex

/-- A JSON value. A number is its text, and an object its members in the order of insertion. -/
inductive JsonValue where
  | null
  | boolean (value : Bool)
  | number (text : JsString)
  | string (value : JsString)
  | array (items : List JsonValue)
  | object (members : List (JsString × JsonValue))

def JsonValue.member (key : JsString) : JsonValue → Option JsonValue
  | .object members => (members.find? fun member => member.1 == key).map Prod.snd
  | _ => none

def JsonValue.isObject : JsonValue → Bool
  | .array _ => true
  | .object _ => true
  | _ => false

mutual

def stringify : JsonValue → JsString
  | .null => js "null"
  | .boolean true => js "true"
  | .boolean false => js "false"
  | .number text => text
  | .string value => quote value
  | .array items => array (stringifyItems items)
  | .object members => js "\x7b" ++ ((stringifyMembers members).intersperse (js ",")).flatten ++ js "\x7d"

def stringifyItems : List JsonValue → List JsString
  | [] => []
  | item :: rest => stringify item :: stringifyItems rest

def stringifyMembers : List (JsString × JsonValue) → List JsString
  | [] => []
  | (key, value) :: rest => (quote key ++ js ":" ++ stringify value) :: stringifyMembers rest

end

def isSpace (u : UInt16) : Bool := u.toNat == 9 || u.toNat == 10 || u.toNat == 13 || u.toNat == 32

def skip (text : JsString) : JsString := text.dropWhile isSpace

def unescape (u : UInt16) : Option UInt16 :=
  match u.toNat with
  | 34 => some 34
  | 47 => some 47
  | 92 => some 92
  | 98 => some 8
  | 102 => some 12
  | 110 => some 10
  | 114 => some 13
  | 116 => some 9
  | _ => none

def push (u : UInt16) : Option (JsString × JsString) → Option (JsString × JsString) :=
  Option.map fun (s, rest) => (u :: s, rest)

def readString : JsString → Option (JsString × JsString)
  | [] => none
  | u :: rest =>
    if u.toNat = 34 then some ([], rest)
    else if u.toNat < 32 then none
    else if u.toNat ≠ 92 then push u (readString rest)
    else match rest with
      | [] => none
      | escaped :: rest =>
        if escaped.toNat ≠ 117 then (unescape escaped).bind fun unit => push unit (readString rest)
        else match rest with
          | a :: b :: c :: d :: rest =>
            match hexValue a, hexValue b, hexValue c, hexValue d with
            | some a, some b, some c, some d =>
              push (4096 * a + 256 * b + 16 * c + d).toUInt16 (readString rest)
            | _, _, _, _ => none
          | _ => none

def setMember (members : List (JsString × JsonValue)) (member : JsString × JsonValue) :
    List (JsString × JsonValue) :=
  if (members.map Prod.fst).contains member.1 then
    members.map fun old => if old.1 = member.1 then member else old
  else members ++ [member]

-- Of two members with one key the later one counts.
def objectOf (members : List (JsString × JsonValue)) : JsonValue := .object (members.foldl setMember [])

def readWord (text : JsString) : Option (JsonValue × JsString) :=
  if (js "null").isPrefixOf text then some (.null, text.drop 4)
  else if (js "true").isPrefixOf text then some (.boolean true, text.drop 4)
  else if (js "false").isPrefixOf text then some (.boolean false, text.drop 5)
  else
    let literal := text.takeWhile isNumberUnit
    if isNumberLiteral literal then some (.number literal, text.dropWhile isNumberUnit) else none

def expect (code : Nat) (text : JsString) : Option JsString :=
  match skip text with
  | [] => none
  | u :: rest => if u.toNat = code then some rest else none

def readKey (text : JsString) : Option (JsString × JsString) :=
  ((expect 34 text).bind readString).bind fun (key, rest) => (expect 58 rest).map fun rest => (key, rest)

mutual

def readValue : Nat → JsString → Option (JsonValue × JsString)
  | 0, _ => none
  | fuel + 1, text =>
    match skip text with
    | [] => none
    | u :: rest =>
      if u.toNat = 34 then (readString rest).map fun (s, rest) => (.string s, rest)
      else if u.toNat = 91 then
        match skip rest with
        | [] => none
        | v :: after =>
          if v.toNat = 93 then some (.array [], after)
          else (readItems fuel (v :: after)).map fun (items, rest) => (.array items, rest)
      else if u.toNat = 123 then
        match skip rest with
        | [] => none
        | v :: after =>
          if v.toNat = 125 then some (.object [], after)
          else (readMembers fuel (v :: after)).map fun (members, rest) => (objectOf members, rest)
      else readWord (u :: rest)

def readItems : Nat → JsString → Option (List JsonValue × JsString)
  | 0, _ => none
  | fuel + 1, text =>
    match readValue fuel text with
    | none => none
    | some (item, rest) =>
      match skip rest with
      | [] => none
      | u :: rest =>
        if u.toNat = 44 then (readItems fuel rest).map fun (items, rest) => (item :: items, rest)
        else if u.toNat = 93 then some ([item], rest)
        else none

def readMembers : Nat → JsString → Option (List (JsString × JsonValue) × JsString)
  | 0, _ => none
  | fuel + 1, text =>
    match readKey text with
    | none => none
    | some (key, rest) =>
      match readValue fuel rest with
      | none => none
      | some (value, rest) =>
        match skip rest with
        | [] => none
        | u :: rest =>
          if u.toNat = 44 then
            (readMembers fuel rest).map fun (members, rest) => ((key, value) :: members, rest)
          else if u.toNat = 125 then some ([(key, value)], rest)
          else none

end

-- JSON.parse: each recursive call consumes a unit, so the length of the text is fuel enough.
def parse (text : JsString) : Option JsonValue :=
  match readValue text.length text with
  | some (value, rest) => if skip rest = [] then some value else none
  | none => none

end Json
