import Mathlib.Tactic

set_option autoImplicit false

namespace JsonText

def hexChar (n : Nat) : Char := if n < 10 then Char.ofNat (48 + n) else Char.ofNat (87 + n)

-- escape_json: what the text of a jsonb string has in place of a character.
def escapeChar (c : Char) : List Char :=
  if c = Char.ofNat 8 then ['\\', 'b']
  else if c = Char.ofNat 9 then ['\\', 't']
  else if c = Char.ofNat 10 then ['\\', 'n']
  else if c = Char.ofNat 12 then ['\\', 'f']
  else if c = Char.ofNat 13 then ['\\', 'r']
  else if c = '"' then ['\\', '"']
  else if c = '\\' then ['\\', '\\']
  else if c.toNat < 32 then ['\\', 'u', '0', '0', hexChar (c.toNat / 16), hexChar (c.toNat % 16)]
  else [c]

def isEscaped (c : Char) : Bool := c.toNat < 32 || c == '"' || c == '\\'

def quoted (s : List Char) : List Char := '"' :: s.flatMap escapeChar ++ ['"']

def isQuote (c : Char) : Bool := c == '"'

-- trim(text, '"') takes every quotation mark off both ends.
def trimQuotes (s : List Char) : List Char :=
  ((s.dropWhile isQuote).reverse.dropWhile isQuote).reverse

theorem escapeChar_plain (c : Char) (plain : isEscaped c = false) : escapeChar c = [c] := by
  simp only [isEscaped, Bool.or_eq_false_iff, decide_eq_false_iff_not, beq_eq_false_iff_ne] at plain
  obtain ⟨⟨visible, notQuote⟩, notBackslash⟩ := plain
  have notControl (n : Nat) (small : n < 32) : c ≠ Char.ofNat n := by
    rintro rfl
    interval_cases n <;> exact visible (by decide)
  simp [escapeChar, notControl, notQuote, notBackslash, visible]

theorem flatMap_plain (s : List Char) (plain : ∀ c ∈ s, isEscaped c = false) :
    s.flatMap escapeChar = s := by
  induction s with
  | nil => rfl
  | cons c rest ih =>
    rw [List.flatMap_cons, escapeChar_plain c (plain c (by simp)),
      ih fun d member => plain d (List.mem_cons_of_mem c member)]
    rfl

theorem trimQuotes_quoted_plain (s : List Char) (plain : ∀ c ∈ s, isEscaped c = false) :
    trimQuotes (quoted s) = s := by
  have unquoted : ∀ c ∈ s, isQuote c = false := by
    intro c member
    have bare := plain c member
    simp only [isEscaped, Bool.or_eq_false_iff] at bare
    exact bare.1.2
  have stops (t rest : List Char) (bare : ∀ c ∈ t, isQuote c = false) (nonempty : t ≠ []) :
      (t ++ rest).dropWhile isQuote = t ++ rest := by
    cases t with
    | nil => exact (nonempty rfl).elim
    | cons c tail => simp [bare c (by simp)]
  have drops (t : List Char) : ('"' :: t).dropWhile isQuote = t.dropWhile isQuote := rfl
  rw [trimQuotes, quoted, flatMap_plain s plain, List.cons_append, drops]
  by_cases empty : s = []
  · subst empty
    rfl
  · have reversed := stops s.reverse [] (by simpa using unquoted) (by simpa using empty)
    rw [List.append_nil] at reversed
    rw [stops s _ unquoted empty, List.reverse_append, List.reverse_singleton, List.singleton_append,
      drops, reversed, List.reverse_reverse]

theorem countP_dropWhile (s : List Char) :
    (s.dropWhile isQuote).countP (fun c => !isQuote c) = s.countP fun c => !isQuote c := by
  induction s with
  | nil => rfl
  | cons c rest ih =>
    by_cases quote : isQuote c = true
    · simp [quote, ih]
    · simp [quote]

theorem countP_trimQuotes (s : List Char) :
    (trimQuotes s).countP (fun c => !isQuote c) = s.countP fun c => !isQuote c := by
  rw [trimQuotes, List.countP_reverse, countP_dropWhile, List.countP_reverse, countP_dropWhile]

theorem escapeChar_visible (c : Char) : 1 ≤ (escapeChar c).countP fun d => !isQuote d := by
  rw [Nat.one_le_iff_ne_zero, ← Nat.pos_iff_ne_zero, List.countP_pos_iff]
  by_cases plain : isEscaped c = true
  · refine ⟨'\\', ?_, by decide⟩
    unfold escapeChar
    split_ifs with _ _ _ _ _ _ _ visible <;> try simp
    simp_all [isEscaped]
  · rw [Bool.not_eq_true] at plain
    rw [escapeChar_plain c plain]
    simp only [isEscaped, Bool.or_eq_false_iff] at plain
    exact ⟨c, by simp, by simp [isQuote, plain.1.2]⟩

theorem length_trimQuotes_quoted (s : List Char) : s.length ≤ (trimQuotes (quoted s)).length := by
  have body : s.length ≤ (s.flatMap escapeChar).countP fun c => !isQuote c := by
    induction s with
    | nil => simp
    | cons c rest ih =>
      have one := escapeChar_visible c
      rw [List.flatMap_cons, List.countP_append, List.length_cons]
      omega
  calc s.length ≤ (s.flatMap escapeChar).countP (fun c => !isQuote c) := body
    _ ≤ (quoted s).countP (fun c => !isQuote c) := by
      rw [quoted, List.countP_append, List.countP_cons]
      omega
    _ = (trimQuotes (quoted s)).countP (fun c => !isQuote c) := (countP_trimQuotes _).symm
    _ ≤ (trimQuotes (quoted s)).length := List.countP_le_length

example : trimQuotes (quoted "say \"hi\"".toList) = "say \\\"hi\\".toList := by decide

end JsonText
