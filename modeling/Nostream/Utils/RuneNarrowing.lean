import Nostream.Utils.RuneRoundTrip

set_option autoImplicit false

namespace Nostream.Runes

open Utf16 Numeric

-- Read from the left, the last backslash escapes nothing.
def dangles : JsString → Bool
  | [] => false
  | [u] => u.toNat == 92
  | u :: v :: rest => if u.toNat = 92 then dangles rest else dangles (v :: rest)

theorem dangles_plain (u : UInt16) (rest : JsString) (other : u.toNat ≠ 92) :
    dangles (u :: rest) = dangles rest := by
  cases rest with
  | nil => simp [dangles, other]
  | cons v rest => rw [dangles, if_neg other]

theorem dangles_escaped (u v : UInt16) (rest : JsString) (backslash : u.toNat = 92) :
    dangles (u :: v :: rest) = dangles rest := by
  rw [dangles, if_pos backslash]

theorem dangles_field (field rest : JsString) (plain : hasPunctuation field = false) :
    dangles (field ++ rest) = dangles rest := by
  induction field with
  | nil => rfl
  | cons u tail ih =>
    simp only [hasPunctuation, List.any_cons, Bool.or_eq_false_iff] at plain
    have other : u.toNat ≠ 92 := by
      intro backslash
      have punctuation : isPunctuation u = true := by simp [isPunctuation, backslash]
      rw [plain.1] at punctuation
      cases punctuation
    rw [List.cons_append, dangles_plain u _ other, ih plain.2]

namespace Alternative

theorem readValue_append (a b : JsString) :
    (readValue (a ++ 38 :: b) = ((readValue a).1, (readValue a).2 ++ 38 :: b) ∧
        dangles (readValue a).2 = dangles a) ∨
      (dangles a = true ∧ (readValue a).2 = [] ∧ (readValue (a ++ 38 :: b)).2 = (readValue b).2) := by
  induction a using readValue.induct with
  | case1 => exact .inl ⟨readValue_ampersand 38 b rfl, rfl⟩
  | case2 u rest bar =>
    rw [List.cons_append, readValue_bar u _ bar, readValue_bar u _ bar, dangles_plain u rest (by omega)]
    exact .inl ⟨rfl, rfl⟩
  | case3 u rest bar ampersand =>
    rw [List.cons_append, readValue_ampersand u _ ampersand, readValue_ampersand u _ ampersand]
    exact .inl ⟨rfl, rfl⟩
  | case4 u bar ampersand backslash =>
    rw [readValue_dangling u backslash, List.singleton_append, readValue_escaped u 38 b backslash]
    exact .inr ⟨by simp [dangles, backslash], rfl, rfl⟩
  | case5 u bar ampersand backslash v rest ih =>
    rw [List.cons_append, List.cons_append, readValue_escaped u v _ backslash,
      readValue_escaped u v _ backslash, dangles_escaped u v rest backslash]
    rcases ih with ⟨read, same⟩ | ⟨opened, ended, read⟩
    · exact .inl ⟨by rw [read], same⟩
    · exact .inr ⟨opened, ended, read⟩
  | case6 u rest bar ampersand backslash ih =>
    rw [List.cons_append, readValue_plain u _ bar ampersand backslash,
      readValue_plain u _ bar ampersand backslash, dangles_plain u rest backslash]
    rcases ih with ⟨read, same⟩ | ⟨opened, ended, read⟩
    · exact .inl ⟨by rw [read], same⟩
    · exact .inr ⟨opened, ended, read⟩

theorem decode_shape {a rest : JsString} {alternative : Alternative}
    (decoded : decode a = .ok (alternative, rest)) :
    ∃ tail, a = alternative.field ++ alternative.cond.symbol :: tail ∧
      alternative.value = (readValue tail).1 ∧ rest = (readValue tail).2 := by
  have parts := List.takeWhile_append_dropWhile (p := fun u => !isPunctuation u) (l := a)
  unfold decode at decoded
  split at decoded
  next => cases decoded
  next symbol tail operator =>
    split at decoded
    next => cases decoded
    next cond found =>
      cases decoded
      refine ⟨tail, ?_, rfl, rfl⟩
      rw [operator] at parts
      rw [Condition.symbol_of_ofSymbol found]
      exact parts.symm

theorem decode_append {a rest : JsString} {alternative : Alternative} (b : JsString)
    (decoded : decode a = .ok (alternative, rest)) :
    (decode (a ++ 38 :: b) = .ok (alternative, rest ++ 38 :: b) ∧ dangles rest = dangles a) ∨
      (dangles a = true ∧ rest = [] ∧ ∃ other : Alternative, other.field = alternative.field ∧
        decode (a ++ 38 :: b) = .ok (other, (readValue b).2)) := by
  obtain ⟨tail, rfl, value, rfl⟩ := decode_shape decoded
  have tailDangles : dangles (alternative.field ++ alternative.cond.symbol :: tail) = dangles tail := by
    rw [dangles_field _ _ alternative.plain, dangles_plain _ _ alternative.cond.symbol_range.2.1]
  rw [List.append_assoc, List.cons_append, decode_of_shape _ _ _ alternative.plain, tailDangles]
  rcases readValue_append tail b with ⟨read, same⟩ | ⟨opened, ended, read⟩
  · refine .inl ⟨?_, same⟩
    rw [read]
    obtain ⟨field, cond, text, plain⟩ := alternative
    cases value
    rfl
  · exact .inr ⟨opened, ended,
      { field := alternative.field
        cond := alternative.cond
        value := (readValue (tail ++ 38 :: b)).1
        plain := alternative.plain }, rfl, by rw [read]⟩

end Alternative

namespace Restriction

def fields (alternatives : List Alternative) : List JsString := alternatives.map Alternative.field

inductive Continued (a b : JsString) (alternatives : List Alternative) (rest : JsString) : Prop
  | before (decoded : decodeAlternatives (a ++ 38 :: b) = .ok (alternatives, rest ++ 38 :: b))
      (same : dangles rest = dangles a) : Continued a b alternatives rest
  | last (closed : dangles a = false) (ended : rest = [])
      (decoded : decodeAlternatives (a ++ 38 :: b) = .ok (alternatives, b)) : Continued a b alternatives rest
  | swallowed (opened : dangles a = true) (ended : rest = [])
      (decoded : (Alternative.readValue b).2 = [] →
        ∃ others, decodeAlternatives (a ++ 38 :: b) = .ok (others, []) ∧ fields others = fields alternatives) :
      Continued a b alternatives rest

theorem decodeAlternatives_append {a rest : JsString} {alternatives : List Alternative} (b : JsString)
    (decoded : decodeAlternatives a = .ok (alternatives, rest)) : Continued a b alternatives rest := by
  induction a using decodeAlternatives.induct generalizing alternatives with
  | case1 =>
    rw [decodeAlternatives_nil] at decoded
    cases decoded
    exact .last rfl rfl (decodeAlternatives_ampersand 38 b rfl)
  | case2 u tail ampersand =>
    rw [decodeAlternatives_ampersand u tail ampersand] at decoded
    cases decoded
    refine .before ?_ (dangles_plain u rest (by omega)).symm
    rw [List.cons_append, decodeAlternatives_ampersand u _ ampersand]
  | case3 u tail other reason failed =>
    rw [decodeAlternatives_error u tail reason other failed] at decoded
    cases decoded
  | case4 u tail other alternative remaining first ih =>
    rw [decodeAlternatives_ok u tail remaining alternative other first] at decoded
    obtain ⟨⟨others, left⟩, more, parsed⟩ := map_ok decoded
    cases parsed
    rcases Alternative.decode_append b first with ⟨read, same⟩ | ⟨opened, rfl, changed, sameField, read⟩
    · rw [List.cons_append] at read
      have joined := decodeAlternatives_ok u _ _ alternative other read
      cases ih more with
      | before decoded' same' =>
        refine .before ?_ (same'.trans same)
        rw [List.cons_append, joined, decoded']
        rfl
      | last closed ended decoded' =>
        refine .last (same ▸ closed) ended ?_
        rw [List.cons_append, joined, decoded']
        rfl
      | swallowed opened ended decoded' =>
        refine .swallowed (same ▸ opened) ended fun plain => ?_
        obtain ⟨swallowing, found, sameFields⟩ := decoded' plain
        refine ⟨alternative :: swallowing, ?_, by simpa [fields] using sameFields⟩
        rw [List.cons_append, joined, found]
        rfl
    · rw [decodeAlternatives_nil] at more
      cases more
      refine .swallowed opened rfl fun plain => ⟨[changed], ?_, by simp [fields, sameField]⟩
      rw [List.cons_append] at read ⊢
      rw [decodeAlternatives_ok u _ _ changed other read, plain, decodeAlternatives_nil]
      rfl

end Restriction

namespace RuneLike

theorem decodeRestrictions_separator (b : JsString) :
    decodeRestrictions (38 :: b) = .error Restriction.noAlternatives := by
  apply decodeRestrictions_error (List.cons_ne_nil 38 b)
  rw [Restriction.decode, Restriction.decodeAlternatives_ampersand 38 b rfl]

theorem decodeRestrictions_next {a rest : JsString} {restriction : Restriction}
    (decoded : Restriction.decodeAlternatives a = .ok (restriction.alternatives, rest)) :
    decodeRestrictions a = (decodeRestrictions rest).map fun others => restriction :: others := by
  have found := Restriction.decode_of_alternatives restriction decoded
  have nonempty : a ≠ [] := by
    intro empty
    have shorter := Restriction.decode_length found
    rw [empty] at shorter
    exact Nat.not_lt_zero _ shorter
  exact decodeRestrictions_ok nonempty found

theorem decodeRestrictions_closed {a b : JsString} {restrictions both : List Restriction}
    (closed : dangles a = false) (read : decodeRestrictions a = .ok restrictions)
    (joined : decodeRestrictions (a ++ 38 :: b) = .ok both) :
    ∃ others, decodeRestrictions b = .ok others ∧ both = restrictions ++ others := by
  induction a using decodeRestrictions.induct generalizing restrictions both with
  | case1 =>
    rw [List.nil_append, decodeRestrictions_separator] at joined
    cases joined
  | case2 a nonempty reason failed =>
    rw [decodeRestrictions_error nonempty failed] at read
    cases read
  | case3 a nonempty restriction rest decoded ih =>
    rw [decodeRestrictions_ok nonempty decoded] at read
    obtain ⟨remaining, more, rfl⟩ := map_ok read
    cases Restriction.decodeAlternatives_append b (Restriction.decode_ok decoded) with
    | before decoded' same =>
      rw [decodeRestrictions_next decoded'] at joined
      obtain ⟨last, later, rfl⟩ := map_ok joined
      obtain ⟨others, found, rfl⟩ := ih (same.trans closed) more later
      exact ⟨others, found, rfl⟩
    | last _ ended decoded' =>
      subst ended
      rw [decodeRestrictions_nil] at more
      cases more
      rw [decodeRestrictions_next decoded'] at joined
      obtain ⟨others, later, rfl⟩ := map_ok joined
      exact ⟨others, later, rfl⟩
    | swallowed opened _ _ =>
      rw [closed] at opened
      cases opened

def fields (restrictions : List Restriction) : List JsString :=
  restrictions.flatMap fun restriction => Restriction.fields restriction.alternatives

theorem decodeRestrictions_open {a b : JsString} {restrictions : List Restriction} (opened : dangles a = true)
    (read : decodeRestrictions a = .ok restrictions) (plain : (Alternative.readValue b).2 = []) :
    ∃ both, decodeRestrictions (a ++ 38 :: b) = .ok both ∧ fields both = fields restrictions := by
  induction a using decodeRestrictions.induct generalizing restrictions with
  | case1 => cases opened
  | case2 a nonempty reason failed =>
    rw [decodeRestrictions_error nonempty failed] at read
    cases read
  | case3 a nonempty restriction rest decoded ih =>
    rw [decodeRestrictions_ok nonempty decoded] at read
    obtain ⟨remaining, more, rfl⟩ := map_ok read
    cases Restriction.decodeAlternatives_append b (Restriction.decode_ok decoded) with
    | before decoded' same =>
      obtain ⟨both, found, sameFields⟩ := ih (same.trans opened) more
      refine ⟨restriction :: both, ?_, by simpa [fields] using sameFields⟩
      rw [decodeRestrictions_next decoded', found]
      rfl
    | last closed _ _ =>
      rw [opened] at closed
      cases closed
    | swallowed _ ended decoded' =>
      subst ended
      rw [decodeRestrictions_nil] at more
      cases more
      obtain ⟨others, found, sameFields⟩ := decoded' plain
      have others_ne : others ≠ [] := by
        intro empty
        rw [empty] at sameFields
        exact restriction.nonempty (List.map_eq_nil_iff.mp sameFields.symm)
      let swallowing : Restriction := { alternatives := others, nonempty := others_ne }
      have joined : decodeRestrictions (a ++ 38 :: b) =
          (decodeRestrictions []).map fun rest => swallowing :: rest := decodeRestrictions_next found
      refine ⟨[swallowing], ?_, by simp [fields, swallowing, sameFields]⟩
      rw [joined, decodeRestrictions_nil]
      rfl

def Passes (rune : RuneLike) (values : Values) : Prop := ∃ text, rune.test values = .ok (true, text)

theorem passes_iff (restrictions : List Restriction) (values : Values) :
    Passes { restrictions := restrictions } values ↔
      ∀ restriction ∈ restrictions, restriction.test values = .ok none := by
  simp only [Passes, test]
  induction restrictions with
  | nil => simp [firstFailing]
  | cons restriction rest ih =>
    rw [List.forall_mem_cons, ← ih, firstFailing]
    cases tested : restriction.test values with
    | error thrown => simp [bind, Except.bind]
    | ok reason =>
      cases reason with
      | none => simp [bind, Except.bind]
      | some reason => simp [bind, Except.bind, pure, Except.pure]

theorem passes_append (restrictions others : List Restriction) (values : Values) :
    Passes { restrictions := restrictions ++ others } values ↔
      Passes { restrictions := restrictions } values ∧ Passes { restrictions := others } values := by
  simp only [passes_iff, List.mem_append, or_imp, forall_and]

theorem from_append (s t : JsString) :
    RuneLike.from (s ++ js "&" ++ t) =
      (decodeRestrictions (withoutWhiteSpace s ++ 38 :: withoutWhiteSpace t)).map RuneLike.mk := by
  have separator : withoutWhiteSpace (js "&") = [38] := by decide
  rw [RuneLike.from, withoutWhiteSpace_append, withoutWhiteSpace_append, separator, List.append_assoc,
    List.singleton_append]

theorem decodeRestrictions_of_from {s : JsString} {rune : RuneLike} (accepted : RuneLike.from s = .ok rune) :
    decodeRestrictions (withoutWhiteSpace s) = .ok rune.restrictions := by
  obtain ⟨restrictions, decoded, rfl⟩ := map_ok accepted
  exact decoded

section Fresh

def freshField (fields : List JsString) : JsString :=
  List.replicate ((fields.map List.length).sum + 1) 122

theorem freshField_not_mem (fields : List JsString) : freshField fields ∉ fields := by
  intro member
  have bound := List.le_sum_of_mem (List.mem_map_of_mem (f := List.length) member)
  rw [freshField, List.length_replicate] at bound
  omega

def everythingBut (field : JsString) : Values := fun name =>
  if name = field then none else some (.function fun _ => .ok none)

theorem everythingBut_passes (restrictions : List Restriction) (field : JsString)
    (absent : field ∉ fields restrictions) :
    Passes { restrictions := restrictions } (everythingBut field) := by
  rw [passes_iff]
  intro restriction member
  obtain ⟨alternatives, nonempty⟩ := restriction
  cases alternatives with
  | nil => exact (nonempty rfl).elim
  | cons alternative rest =>
    have other : alternative.field ≠ field := by
      intro same
      apply absent
      rw [fields, List.mem_flatMap]
      exact ⟨_, member, by simp [Restriction.fields, same]⟩
    have passed : alternative.test (everythingBut field) = .ok none := by
      simp [Alternative.test, everythingBut, other]
    simp [Restriction.test, Restriction.firstPassing, passed, bind, Except.bind, pure, Except.pure]

def requires (field : JsString) (plain : hasPunctuation field = false) : Restriction :=
  { alternatives := [{ field := field, cond := .equal, value := [], plain := plain }]
    nonempty := List.cons_ne_nil _ _ }

theorem requires_fails (field : JsString) (plain : hasPunctuation field = false) :
    ¬Passes { restrictions := [requires field plain] } (everythingBut field) := by
  rw [passes_iff]
  intro passed
  have tested := passed (requires field plain) (List.mem_singleton_self _)
  simp [requires, Restriction.test, Restriction.firstPassing, Alternative.test, everythingBut, why, bind,
    Except.bind] at tested

theorem freshField_plain (fields : List JsString) : hasPunctuation (freshField fields) = false := by
  rw [hasPunctuation, List.any_eq_false, freshField]
  intro u member
  rw [List.eq_of_mem_replicate member]
  decide

theorem freshField_visible (fields : List JsString) :
    withoutWhiteSpace (freshField fields ++ js "=") = freshField fields ++ js "=" := by
  rw [withoutWhiteSpace, List.filter_eq_self, freshField]
  intro u member
  rw [List.mem_append, List.mem_replicate] at member
  rcases member with ⟨_, rfl⟩ | member
  next => decide
  next =>
    rw [List.mem_singleton.mp member]
    decide

theorem from_requires (fields : List JsString) :
    RuneLike.from (freshField fields ++ js "=") =
      .ok { restrictions := [requires (freshField fields) (freshField_plain fields)] } := by
  have encoded := decodeRestrictions_encode [requires (freshField fields) (freshField_plain fields)]
  rw [List.map_singleton, List.intercalate_singleton] at encoded
  have text : (requires (freshField fields) (freshField_plain fields)).encode = freshField fields ++ js "=" := by
    simp [requires, Restriction.encode, Alternative.encode, Condition.symbol, js]
    rfl
  rw [RuneLike.from, freshField_visible, ← text, encoded]
  rfl

theorem readValue_requires (length : Nat) :
    (Alternative.readValue (List.replicate length 122 ++ js "=")).2 = [] := by
  induction length with
  | zero => decide
  | succ length ih =>
    rw [List.replicate_succ, List.cons_append,
      Alternative.readValue_plain 122 _ (by decide) (by decide) (by decide)]
    exact ih

end Fresh

def Narrows (s t : JsString) : Prop :=
  ∀ first second both : RuneLike, RuneLike.from s = .ok first → RuneLike.from t = .ok second →
    RuneLike.from (s ++ js "&" ++ t) = .ok both →
      ∀ values, both.Passes values ↔ first.Passes values ∧ second.Passes values

theorem narrows_of_closed {s : JsString} (closed : dangles (withoutWhiteSpace s) = false) (t : JsString) :
    Narrows s t := by
  intro first second both acceptedFirst acceptedSecond acceptedBoth values
  rw [from_append] at acceptedBoth
  obtain ⟨restrictions, joined, rfl⟩ := map_ok acceptedBoth
  obtain ⟨others, found, rfl⟩ :=
    decodeRestrictions_closed closed (decodeRestrictions_of_from acceptedFirst) joined
  rw [decodeRestrictions_of_from acceptedSecond] at found
  cases found
  exact passes_append first.restrictions second.restrictions values

end RuneLike

open RuneLike

theorem narrows_iff (s : JsString) (rune : RuneLike) (accepted : RuneLike.from s = .ok rune) :
    (∀ t, Narrows s t) ↔ dangles (withoutWhiteSpace s) = false := by
  refine ⟨fun narrows => ?_, fun closed t => narrows_of_closed closed t⟩
  by_contra opened
  rw [Bool.not_eq_false] at opened
  let fresh := freshField (fields rune.restrictions)
  have swallowed : (Alternative.readValue (withoutWhiteSpace (fresh ++ js "="))).2 = [] := by
    rw [freshField_visible]
    exact readValue_requires _
  obtain ⟨both, joined, sameFields⟩ :=
    decodeRestrictions_open opened (decodeRestrictions_of_from accepted) swallowed
  have acceptedBoth : RuneLike.from (s ++ js "&" ++ (fresh ++ js "=")) = .ok { restrictions := both } := by
    rw [from_append, joined]
    rfl
  have absent : fresh ∉ fields both := by
    rw [sameFields]
    exact freshField_not_mem _
  have passed := everythingBut_passes both fresh absent
  rw [narrows (fresh ++ js "=") rune _ _ accepted (from_requires _) acceptedBoth] at passed
  exact requires_fails fresh _ passed.2

def Restriction.single (alternative : Alternative) : Restriction :=
  { alternatives := [alternative], nonempty := List.cons_ne_nil _ _ }

theorem method_plain : hasPunctuation (js "method") = false := by decide

def methodRune : RuneLike :=
  { restrictions := [.single { field := js "method", cond := .equal, value := js "pay", plain := method_plain }] }

theorem methodRune_narrows : Narrows methodRune.encode (js "time<17") :=
  (narrows_iff methodRune.encode methodRune.stripped (from_encode_stripped methodRune)).2 (by decide)
    (js "time<17")

theorem unnamed_plain : hasPunctuation [] = false := by decide

def commentRune (value : JsString) : RuneLike :=
  { restrictions := [.single { field := [], cond := .comment, value := value, plain := unnamed_plain }] }

theorem time_plain : hasPunctuation (js "time") = false := by decide

def timeRune : RuneLike :=
  { restrictions := [.single { field := js "time", cond := .less, value := js "17", plain := time_plain }] }

theorem comment_widens : ¬Narrows (js "#daytime\\") (js "time<17") := by
  have comment : RuneLike.from (js "#daytime\\") = .ok (commentRune (js "daytimeundefined")) := by
    decide +kernel
  have time : RuneLike.from (js "time<17") = .ok timeRune := by decide +kernel
  have both : RuneLike.from (js "#daytime\\" ++ js "&" ++ js "time<17") =
      .ok (commentRune (js "daytime&time<17")) := by decide +kernel
  intro narrows
  have passes := narrows _ _ _ comment time both fun _ => none
  have passed : (commentRune (js "daytime&time<17")).Passes fun _ => none := ⟨[], rfl⟩
  obtain ⟨text, tested⟩ := (passes.1 passed).2
  cases tested

end Nostream.Runes
