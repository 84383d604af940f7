import Nostream.Shared.JsonValue

set_option autoImplicit false

namespace Json

open Utf16 Hex

section Strings

theorem push_some (u : UInt16) (s rest : JsString) : push u (some (s, rest)) = some (u :: s, rest) := rfl

theorem readString_plain (u : UInt16) (rest : JsString) (visible : 32 ≤ u.toNat) (notQuote : u.toNat ≠ 34)
    (notBackslash : u.toNat ≠ 92) : readString (u :: rest) = push u (readString rest) := by
  rw [readString.eq_def]
  dsimp only
  rw [if_neg notQuote, if_neg (by omega), if_pos notBackslash]

theorem readString_end (rest : JsString) : readString (34 :: rest) = some ([], rest) := by
  rw [readString.eq_def]
  rfl

theorem readString_escaped (escaped u : UInt16) (rest : JsString) (stands : unescape escaped = some u)
    (short : escaped.toNat ≠ 117) : readString (92 :: escaped :: rest) = push u (readString rest) := by
  rw [readString.eq_def]
  simp only [UInt16.toNat_ofNat]
  simp [short, stands]

theorem readString_unicode (u : UInt16) (rest : JsString) :
    readString (unicodeEscape u ++ rest) = push u (readString rest) := by
  have bound := u.toNat_lt
  have value : (4096 * (u.toNat / 4096) + 256 * (u.toNat / 256 % 16) + 16 * (u.toNat / 16 % 16) +
      u.toNat % 16).toUInt16 = u := by
    have whole : 4096 * (u.toNat / 4096) + 256 * (u.toNat / 256 % 16) + 16 * (u.toNat / 16 % 16) +
        u.toNat % 16 = u.toNat := by omega
    rw [whole]
    simp
  have start : unicodeEscape u ++ rest = 92 :: 117 :: hexDigit (u.toNat / 4096) ::
      hexDigit (u.toNat / 256 % 16) :: hexDigit (u.toNat / 16 % 16) :: hexDigit (u.toNat % 16) :: rest := rfl
  rw [start, readString.eq_def]
  simp [hexValue_hexDigit (u.toNat / 4096) (by omega), hexValue_hexDigit (u.toNat / 256 % 16) (by omega),
    hexValue_hexDigit (u.toNat / 16 % 16) (by omega), hexValue_hexDigit (u.toNat % 16) (by omega), value]

theorem readString_quoteUnit (u : UInt16) (rest : JsString) :
    readString (quoteUnit u ++ rest) = push u (readString rest) := by
  have named (n : Nat) (small : n < 65536) (same : u.toNat = n) : u = n.toUInt16 := by
    rw [← same]
    simp
  unfold quoteUnit
  split_ifs with backspace tab newline feed carriage mark backslash hidden
  · exact readString_escaped 98 u rest (by rw [named 8 (by omega) backspace]; decide) (by decide)
  · exact readString_escaped 116 u rest (by rw [named 9 (by omega) tab]; decide) (by decide)
  · exact readString_escaped 110 u rest (by rw [named 10 (by omega) newline]; decide) (by decide)
  · exact readString_escaped 102 u rest (by rw [named 12 (by omega) feed]; decide) (by decide)
  · exact readString_escaped 114 u rest (by rw [named 13 (by omega) carriage]; decide) (by decide)
  · exact readString_escaped 34 u rest (by rw [named 34 (by omega) mark]; decide) (by decide)
  · exact readString_escaped 92 u rest (by rw [named 92 (by omega) backslash]; decide) (by decide)
  · exact readString_unicode u rest
  · rw [not_or, Nat.not_lt] at hidden
    exact readString_plain u rest hidden.1 mark backslash

theorem readString_surrogate (u : UInt16) (rest : JsString) (surrogate : isSurrogate u = true) :
    readString (u :: rest) = push u (readString rest) := by
  simp only [isSurrogate, isHigh, isLow, Bool.or_eq_true, Bool.and_eq_true, decide_eq_true_eq] at surrogate
  exact readString_plain u rest (by omega) (by omega) (by omega)

theorem readString_quoteBody (s rest : JsString) : readString (quoteBody s ++ 34 :: rest) = some (s, rest) := by
  induction s using quoteBody.induct with
  | case1 => exact readString_end rest
  | case2 u => rw [quoteBody, readString_quoteUnit, readString_end, push_some]
  | case3 u v tail pair ih =>
    have both := pair
    rw [Bool.and_eq_true] at both
    rw [quoteBody, if_pos pair, List.cons_append, List.cons_append,
      readString_surrogate u _ (by simp [isSurrogate, both.1]),
      readString_surrogate v _ (by simp [isSurrogate, both.2]), ih, push_some, push_some]
  | case4 u v tail pair ih =>
    rw [quoteBody, if_neg pair, List.append_assoc, readString_quoteUnit, ih, push_some]

end Strings

section Values

theorem skip_visible (u : UInt16) (rest : JsString) (visible : isSpace u = false) :
    skip (u :: rest) = u :: rest :=
  List.dropWhile_cons_of_neg (by simp [visible])

theorem isSpace_eq_false (u : UInt16) (visible : 32 < u.toNat) : isSpace u = false := by
  simp only [isSpace, Bool.or_eq_false_iff, beq_eq_false_iff_ne]
  omega

theorem quote_eq (s : JsString) : quote s = 34 :: (quoteBody s ++ [34]) := rfl

def Delimited (rest : JsString) : Prop := ∀ u tail, rest = u :: tail → isNumberUnit u = false

/-- The values that JSON.stringify writes: numbers in JSON's syntax and objects without repeated keys. -/
inductive WellFormed : JsonValue → Prop
  | null : WellFormed .null
  | boolean (value : Bool) : WellFormed (.boolean value)
  | number (text : JsString) (literal : isNumberLiteral text = true) : WellFormed (.number text)
  | string (value : JsString) : WellFormed (.string value)
  | array (items : List JsonValue) (each : ∀ item ∈ items, WellFormed item) : WellFormed (.array items)
  | object (members : List (JsString × JsonValue)) (distinct : (members.map Prod.fst).Nodup)
      (each : ∀ member ∈ members, WellFormed member.2) : WellFormed (.object members)

def StartsVisibly (text : JsString) : Prop :=
  ∃ u rest, text = u :: rest ∧ 32 < u.toNat ∧ u.toNat ≠ 93 ∧ u.toNat ≠ 125

structure IsRead (value : JsonValue) : Prop where
  starts : StartsVisibly (stringify value)
  reads : ∀ fuel rest, (stringify value).length ≤ fuel → Delimited rest →
    readValue fuel (stringify value ++ rest) = some (value, rest)

theorem readValue_word (fuel : Nat) (u : UInt16) (rest : JsString) (visible : 32 < u.toNat)
    (notString : u.toNat ≠ 34) (notArray : u.toNat ≠ 91) (notObject : u.toNat ≠ 123) :
    readValue (fuel + 1) (u :: rest) = readWord (u :: rest) := by
  rw [readValue, skip_visible u rest (isSpace_eq_false u visible)]
  dsimp only
  rw [if_neg notString, if_neg notArray, if_neg notObject]

theorem isNumberUnit_range (u : UInt16) (unit : isNumberUnit u = true) :
    u.toNat = 43 ∨ u.toNat = 45 ∨ u.toNat = 46 ∨ (48 ≤ u.toNat ∧ u.toNat ≤ 57) ∨ u.toNat = 69 ∨
      u.toNat = 101 := by
  simp only [isNumberUnit, Bool.or_eq_true, beq_iff_eq, or_assoc] at unit
  rcases unit with digit | other
  · have range := isDigit_range u digit
    omega
  · omega

theorem readWord_null (rest : JsString) : readWord (js "null" ++ rest) = some (.null, rest) := rfl

theorem readWord_boolean (value : Bool) (rest : JsString) :
    readWord (stringify (.boolean value) ++ rest) = some (.boolean value, rest) := by
  cases value <;> rfl

theorem readWord_number (text rest : JsString) (literal : isNumberLiteral text = true)
    (delimited : Delimited rest) : readWord (text ++ rest) = some (.number text, rest) := by
  have units : ∀ u ∈ text, isNumberUnit u = true := by
    simp only [isNumberLiteral, Bool.and_eq_true, List.all_eq_true] at literal
    exact literal.1.1
  have stops : rest.takeWhile isNumberUnit = [] ∧ rest.dropWhile isNumberUnit = rest := by
    cases rest with
    | nil => exact ⟨rfl, rfl⟩
    | cons u tail =>
      have other := delimited u tail rfl
      exact ⟨List.takeWhile_cons_of_neg (by simp [other]), List.dropWhile_cons_of_neg (by simp [other])⟩
  cases text with
  | nil => cases literal
  | cons u tail =>
    have range := isNumberUnit_range u (units u (by simp))
    have differs (word : JsString) (letter : UInt16) (least : 102 ≤ letter.toNat) :
        (letter :: word).isPrefixOf (u :: tail ++ rest) = false := by
      have other : (letter == u) = false := by
        rw [beq_eq_false_iff_ne]
        rintro rfl
        omega
      simp [List.isPrefixOf, other]
    have notNull : (js "null").isPrefixOf (u :: tail ++ rest) = false := differs _ 110 (by decide)
    have notTrue : (js "true").isPrefixOf (u :: tail ++ rest) = false := differs _ 116 (by decide)
    have notFalse : (js "false").isPrefixOf (u :: tail ++ rest) = false := differs _ 102 (by decide)
    simp only [readWord, notNull, notTrue, notFalse, Bool.false_eq_true, if_false]
    rw [List.takeWhile_append_of_pos units, List.dropWhile_append_of_pos units, stops.1, stops.2,
      List.append_nil, if_pos literal]

theorem IsRead.of_word (value : JsonValue) (u : UInt16) (text : JsString) (shape : stringify value = u :: text)
    (visible : 32 < u.toNat) (notString : u.toNat ≠ 34) (notArray : u.toNat ≠ 91)
    (notObject : u.toNat ≠ 123) (notEnd : u.toNat ≠ 93 ∧ u.toNat ≠ 125)
    (word : ∀ rest, Delimited rest → readWord (stringify value ++ rest) = some (value, rest)) :
    IsRead value where
  starts := ⟨u, text, shape, visible, notEnd⟩
  reads fuel rest enough delimited := by
    have read := word rest delimited
    rw [shape] at enough read ⊢
    cases fuel with
    | zero => cases enough
    | succ fuel => rw [List.cons_append, readValue_word _ _ _ visible notString notArray notObject, ← read]; rfl

theorem IsRead.string (value : JsString) : IsRead (.string value) where
  starts := ⟨34, _, quote_eq value, by decide, by decide, by decide⟩
  reads fuel rest enough _ := by
    cases fuel with
    | zero => cases enough
    | succ fuel =>
      have text : stringify (.string value) ++ rest = 34 :: (quoteBody value ++ 34 :: rest) := by
        rw [stringify, quote_eq]
        simp
      rw [text, readValue, skip_visible _ _ (by decide)]
      simp only [UInt16.toNat_ofNat]
      simp [readString_quoteBody]

def joined (elements : List JsString) : JsString := (elements.intersperse (js ",")).flatten

@[simp]
theorem joined_singleton (element : JsString) : joined [element] = element := by simp [joined]

theorem joined_cons_cons (element other : JsString) (rest : List JsString) :
    joined (element :: other :: rest) = element ++ 44 :: joined (other :: rest) := by
  have comma : js "," = [44] := rfl
  simp [joined, comma]

theorem delimited_cons (u : UInt16) (rest : JsString) (other : isNumberUnit u = false) :
    Delimited (u :: rest) := by
  rintro _ _ ⟨⟩
  exact other

theorem joined_starts (element : JsString) (others : List JsString) (starts : StartsVisibly element) :
    StartsVisibly (joined (element :: others)) := by
  obtain ⟨u, text, rfl, visible, notEnd⟩ := starts
  cases others with
  | nil => exact ⟨u, text, joined_singleton _, visible, notEnd⟩
  | cons other rest => exact ⟨u, _, joined_cons_cons _ other rest, visible, notEnd⟩

theorem readItems_joined (item : JsonValue) (others : List JsonValue)
    (each : ∀ value ∈ item :: others, IsRead value) (fuel : Nat) (rest : JsString)
    (enough : (joined (stringifyItems (item :: others))).length + 1 ≤ fuel) :
    readItems fuel (joined (stringifyItems (item :: others)) ++ 93 :: rest) =
      some (item :: others, rest) := by
  induction others generalizing item fuel with
  | nil =>
    have first := (each item (by simp)).reads
    simp only [stringifyItems, joined_singleton] at enough ⊢
    cases fuel with
    | zero => cases enough
    | succ fuel =>
      rw [readItems, first fuel _ (by omega) (delimited_cons 93 rest (by decide))]
      rfl
  | cons other tail ih =>
    have first := (each item (by simp)).reads
    have more := ih other (fun value member => each value (List.mem_cons_of_mem item member))
    rw [stringifyItems, stringifyItems, joined_cons_cons] at enough ⊢
    rw [stringifyItems] at more
    rw [List.length_append, List.length_cons] at enough
    cases fuel with
    | zero => cases enough
    | succ fuel =>
      rw [List.append_assoc, List.cons_append, readItems,
        first fuel _ (by omega) (delimited_cons 44 _ (by decide))]
      dsimp only
      rw [skip_visible 44 _ (by decide)]
      simp [more fuel (by omega)]

theorem IsRead.array (items : List JsonValue) (each : ∀ item ∈ items, IsRead item) :
    IsRead (.array items) where
  starts := ⟨91, _, rfl, by decide, by decide, by decide⟩
  reads fuel rest enough _ := by
    have text : stringify (.array items) ++ rest = 91 :: (joined (stringifyItems items) ++ 93 :: rest) := by
      have brackets : js "[" = [91] ∧ js "]" = [93] := ⟨rfl, rfl⟩
      simp [stringify, Json.array, brackets, joined]
    have size : (stringify (.array items)).length = (joined (stringifyItems items)).length + 2 := by
      have whole := congrArg List.length text
      simp only [List.length_append, List.length_cons] at whole
      omega
    rw [size] at enough
    rw [text]
    cases fuel with
    | zero => cases enough
    | succ fuel =>
      rw [readValue, skip_visible 91 _ (by decide)]
      simp only [UInt16.toNat_ofNat]
      cases items with
      | nil => rfl
      | cons item others =>
        obtain ⟨u, tail, shape, visible, notEnd⟩ :=
          joined_starts _ (stringifyItems others) (each item (by simp)).starts
        have more := readItems_joined item others each fuel rest (by omega)
        rw [stringifyItems] at more ⊢
        rw [shape, List.cons_append] at more ⊢
        rw [skip_visible u _ (isSpace_eq_false u visible)]
        simp [notEnd.1, more]

theorem readKey_member (key text : JsString) :
    readKey (quote key ++ js ":" ++ text) = some (key, text) := by
  have start : quote key ++ js ":" ++ text = 34 :: (quoteBody key ++ 34 :: 58 :: text) := by
    have colon : js ":" = [58] := rfl
    simp [quote_eq, colon]
  have opens : expect 34 (34 :: (quoteBody key ++ 34 :: 58 :: text)) =
      some (quoteBody key ++ 34 :: 58 :: text) := rfl
  have separates : expect 58 (58 :: text) = some text := rfl
  rw [start, readKey, opens, Option.bind_some, readString_quoteBody, Option.bind_some]
  dsimp only
  rw [separates]
  rfl

theorem readMembers_joined (member : JsString × JsonValue) (others : List (JsString × JsonValue))
    (each : ∀ m ∈ member :: others, IsRead m.2) (fuel : Nat) (rest : JsString)
    (enough : (joined (stringifyMembers (member :: others))).length + 1 ≤ fuel) :
    readMembers fuel (joined (stringifyMembers (member :: others)) ++ 125 :: rest) =
      some (member :: others, rest) := by
  induction others generalizing member fuel with
  | nil =>
    obtain ⟨key, value⟩ := member
    have first : IsRead value := each (key, value) (by simp)
    simp only [stringifyMembers, joined_singleton, List.length_append] at enough ⊢
    cases fuel with
    | zero => cases enough
    | succ fuel =>
      rw [readMembers, List.append_assoc, readKey_member]
      dsimp only
      rw [first.reads fuel _ (by omega) (delimited_cons 125 rest (by decide))]
      rfl
  | cons other tail ih =>
    obtain ⟨key, value⟩ := member
    have first : IsRead value := each (key, value) (by simp)
    have more := ih other (fun m found => each m (List.mem_cons_of_mem _ found))
    rw [stringifyMembers] at more
    rw [stringifyMembers, stringifyMembers, joined_cons_cons] at enough ⊢
    generalize quote other.1 ++ js ":" ++ stringify other.2 = element at enough more ⊢
    simp only [List.length_append, List.length_cons] at enough
    cases fuel with
    | zero => cases enough
    | succ fuel =>
      rw [readMembers, List.append_assoc, List.append_assoc, readKey_member]
      dsimp only
      rw [List.cons_append, first.reads fuel _ (by omega) (delimited_cons 44 _ (by decide))]
      dsimp only
      rw [skip_visible 44 _ (by decide)]
      simp [more fuel (by omega)]

theorem setMember_new (members : List (JsString × JsonValue)) (member : JsString × JsonValue)
    (absent : member.1 ∉ members.map Prod.fst) : setMember members member = members ++ [member] := by
  rw [setMember, if_neg]
  simpa using absent

theorem objectOf_distinct (members : List (JsString × JsonValue)) (distinct : (members.map Prod.fst).Nodup) :
    objectOf members = .object members := by
  have folded (before : List (JsString × JsonValue)) (distinct : ((before ++ members).map Prod.fst).Nodup) :
      members.foldl setMember before = before ++ members := by
    induction members generalizing before with
    | nil => simp
    | cons member rest ih =>
      have absent : member.1 ∉ before.map Prod.fst := by
        rw [List.map_append, List.nodup_append] at distinct
        intro found
        exact distinct.2.2 _ found _ (by simp) rfl
      rw [List.foldl_cons, setMember_new before member absent, ih (by simp_all)]
      · simp
      · simpa using distinct
  rw [objectOf, folded [] distinct, List.nil_append]

theorem IsRead.object (members : List (JsString × JsonValue)) (distinct : (members.map Prod.fst).Nodup)
    (each : ∀ member ∈ members, IsRead member.2) : IsRead (.object members) where
  starts := ⟨123, _, rfl, by decide, by decide, by decide⟩
  reads fuel rest enough _ := by
    have text : stringify (.object members) ++ rest =
        123 :: (joined (stringifyMembers members) ++ 125 :: rest) := by
      have braces : js "\x7b" = [123] ∧ js "\x7d" = [125] := ⟨rfl, rfl⟩
      simp [stringify, braces, joined]
    have size : (stringify (.object members)).length = (joined (stringifyMembers members)).length + 2 := by
      have whole := congrArg List.length text
      simp only [List.length_append, List.length_cons] at whole
      omega
    rw [size] at enough
    rw [text]
    cases fuel with
    | zero => cases enough
    | succ fuel =>
      rw [readValue, skip_visible 123 _ (by decide)]
      simp only [UInt16.toNat_ofNat]
      cases members with
      | nil => rfl
      | cons member others =>
        have starts : StartsVisibly (quote member.1 ++ js ":" ++ stringify member.2) :=
          ⟨34, _, rfl, by decide, by decide, by decide⟩
        obtain ⟨u, tail, shape, visible, notEnd⟩ := joined_starts _ (stringifyMembers others) starts
        have more := readMembers_joined member others each fuel rest (by omega)
        rw [stringifyMembers] at more ⊢
        rw [shape, List.cons_append] at more ⊢
        rw [skip_visible u _ (isSpace_eq_false u visible)]
        simp [notEnd.2, more, objectOf_distinct _ distinct]

theorem WellFormed.isRead (value : JsonValue) (wf : WellFormed value) : IsRead value := by
  induction wf with
  | null =>
    exact .of_word _ 110 _ rfl (by decide) (by decide) (by decide) (by decide) (by decide)
      fun rest _ => readWord_null rest
  | boolean value =>
    cases value with
    | true =>
      exact .of_word _ 116 _ rfl (by decide) (by decide) (by decide) (by decide) (by decide)
        fun rest _ => readWord_boolean true rest
    | false =>
      exact .of_word _ 102 _ rfl (by decide) (by decide) (by decide) (by decide) (by decide)
        fun rest _ => readWord_boolean false rest
  | number text literal =>
    cases text with
    | nil => cases literal
    | cons u tail =>
      have units := literal
      simp only [isNumberLiteral, Bool.and_eq_true, List.all_cons] at units
      have range := isNumberUnit_range u units.1.1.1
      exact .of_word _ u tail rfl (by omega) (by omega) (by omega) (by omega) (by omega)
        fun rest delimited => readWord_number _ rest literal delimited
  | string value => exact .string value
  | array items _ ih => exact .array items ih
  | object members distinct _ ih => exact .object members distinct ih

theorem parse_stringify (value : JsonValue) (wf : WellFormed value) : parse (stringify value) = some value := by
  have nothing : Delimited [] := by rintro _ _ ⟨⟩
  have read := (wf.isRead value).reads (stringify value).length [] le_rfl nothing
  rw [List.append_nil] at read
  rw [parse, read]
  rfl

end Values

end Json
