import Nostream.Shared.Hex

set_option autoImplicit false

namespace Sql

open Hex

inductive Value where
  | null
  | bytea (bytes : Bytes)
  | integer (number : Int)
  | text (chars : List Char)
  deriving DecidableEq

inductive ColumnType where
  | bytea
  | int4
  | text
  | other
  deriving DecidableEq

def int4Range (n : Int) : Bool := -2147483648 ≤ n && n ≤ 2147483647

def storable (chars : List Char) : Bool := !chars.contains (Char.ofNat 0)

def Value.fits : Value → ColumnType → Bool
  | .null, _ => true
  | .bytea _, .bytea => true
  | .integer n, .int4 => int4Range n
  | .text chars, .text => storable chars
  | _, _ => false

def compareBytes : Bytes → Bytes → Ordering
  | [], [] => .eq
  | [], _ :: _ => .lt
  | _ :: _, [] => .gt
  | a :: as, b :: bs =>
    if a.toNat < b.toNat then .lt else if b.toNat < a.toNat then .gt else compareBytes as bs

-- Text is only ever tested for equality here, so a collation is not modelled.
def Value.compare : Value → Value → Option Ordering
  | .bytea a, .bytea b => some (compareBytes a b)
  | .integer m, .integer n => some (Ord.compare m n)
  | .text s, .text t => if s = t then some .eq else some .lt
  | _, _ => none

inductive Operator where
  | equal
  | atLeast
  | atMost
  deriving DecidableEq

def Operator.accepts : Operator → Ordering → Bool
  | .equal, order => order == .eq
  | .atLeast, order => order != .lt
  | .atMost, order => order != .gt

section Conditions

variable {τ κ : Type} [DecidableEq τ] [DecidableEq κ]

structure Source (τ κ : Type) where
  table : τ
  columns : List (κ × ColumnType)

inductive ColumnRef (τ κ : Type) where
  | bare (column : κ)
  | qualified (table : τ) (column : κ)
  deriving DecidableEq

inductive Operand (τ κ : Type) where
  | column (ref : ColumnRef τ κ)
  | leading (ref : ColumnRef τ κ) (count : Nat)
  deriving DecidableEq

inductive Cond (τ κ : Type) where
  | never
  | compare (left : Operand τ κ) (operator : Operator) (value : Value)
  | oneOf (left : Operand τ κ) (values : List Value)
  | between (left : Operand τ κ) (low high : Value)
  | both (left right : Cond τ κ)
  | either (left right : Cond τ κ)

def Source.columnType (source : Source τ κ) (column : κ) : Option ColumnType :=
  source.columns.lookup column

-- A bare name is resolved only when exactly one source in scope has the column.
def candidates (sources : List (Source τ κ)) : ColumnRef τ κ → List (τ × κ × ColumnType)
  | .bare column => sources.filterMap fun source =>
      (source.columnType column).map fun type => (source.table, column, type)
  | .qualified table column => (sources.filter (·.table = table)).filterMap fun source =>
      (source.columnType column).map fun type => (source.table, column, type)

def resolve (sources : List (Source τ κ)) (ref : ColumnRef τ κ) : Option (τ × κ × ColumnType) :=
  match candidates sources ref with
  | [found] => some found
  | _ => none

def Operand.type (sources : List (Source τ κ)) : Operand τ κ → Option ColumnType
  | .column ref => (resolve sources ref).map (·.2.2)
  | .leading ref _ =>
    match resolve sources ref with
    | some (_, _, .bytea) => some .bytea
    | _ => none

def Operand.eval (sources : List (Source τ κ)) (row : τ → κ → Value) : Operand τ κ → Value
  | .column ref => match resolve sources ref with
    | some (table, name, _) => row table name
    | none => .null
  | .leading ref count => match resolve sources ref with
    | some (table, name, _) => match row table name with
      | .bytea bytes => .bytea (bytes.take count)
      | _ => .null
    | none => .null

def Operand.takes (sources : List (Source τ κ)) (left : Operand τ κ) (value : Value) : Bool :=
  match left.type sources with
  | some type => value.fits type
  | none => false

def Cond.valid (sources : List (Source τ κ)) : Cond τ κ → Bool
  | .never => true
  | .compare left _ value => left.takes sources value
  | .oneOf left values => (left.type sources).isSome && values.all (left.takes sources)
  | .between left low high => left.takes sources low && left.takes sources high
  | .both left right => left.valid sources && right.valid sources
  | .either left right => left.valid sources && right.valid sources

def Cond.comparands (sources : List (Source τ κ)) (type : ColumnType) : Cond τ κ → List Value
  | .never => []
  | .compare left _ value => if left.type sources = some type then [value] else []
  | .oneOf left values => if left.type sources = some type then values else []
  | .between left low high => if left.type sources = some type then [low, high] else []
  | .both left right => left.comparands sources type ++ right.comparands sources type
  | .either left right => left.comparands sources type ++ right.comparands sources type

def truthOr : Option Bool → Option Bool → Option Bool
  | some true, _ | _, some true => some true
  | some false, some false => some false
  | _, _ => none

def truthAnd : Option Bool → Option Bool → Option Bool
  | some false, _ | _, some false => some false
  | some true, some true => some true
  | _, _ => none

def test (left : Value) (operator : Operator) (right : Value) : Option Bool :=
  (left.compare right).map operator.accepts

-- SQL's three truth values: none is unknown, which a WHERE clause does not select.
def Cond.eval (sources : List (Source τ κ)) (row : τ → κ → Value) : Cond τ κ → Option Bool
  | .never => some false
  | .compare left operator value => test (left.eval sources row) operator value
  | .oneOf left values =>
    values.foldr (fun value rest => truthOr (test (left.eval sources row) .equal value) rest)
      (some false)
  | .between left low high =>
    truthAnd (test (left.eval sources row) .atLeast low) (test (left.eval sources row) .atMost high)
  | .both left right => truthAnd (left.eval sources row) (right.eval sources row)
  | .either left right => truthOr (left.eval sources row) (right.eval sources row)

def Cond.holds (sources : List (Source τ κ)) (row : τ → κ → Value) (cond : Cond τ κ) : Bool :=
  cond.eval sources row == some true

def Cond.disjunction (first : Cond τ κ) (rest : List (Cond τ κ)) : Cond τ κ :=
  rest.foldl .either first

def leftJoin {α β : Type} (on : α → β → Bool) (left : α) (right : List β) : List (Option β) :=
  match right.filter (on left) with
  | [] => [none]
  | found => found.map some

theorem truthOr_true (a b : Option Bool) :
    truthOr a b = some true ↔ a = some true ∨ b = some true := by
  rcases a with _ | _ | _ <;> rcases b with _ | _ | _ <;> simp [truthOr]

theorem truthAnd_true (a b : Option Bool) :
    truthAnd a b = some true ↔ a = some true ∧ b = some true := by
  rcases a with _ | _ | _ <;> rcases b with _ | _ | _ <;> simp [truthAnd]

variable (sources : List (Source τ κ)) (row : τ → κ → Value)

@[simp] theorem holds_never : (Cond.never : Cond τ κ).holds sources row = false := rfl

@[simp] theorem holds_compare (left : Operand τ κ) (operator : Operator) (value : Value) :
    (Cond.compare left operator value).holds sources row = true ↔
      test (left.eval sources row) operator value = some true := by
  simp [Cond.holds, Cond.eval]

@[simp] theorem holds_oneOf (left : Operand τ κ) (values : List Value) :
    (Cond.oneOf left values).holds sources row = true ↔
      ∃ value ∈ values, test (left.eval sources row) .equal value = some true := by
  simp only [Cond.holds, Cond.eval, beq_iff_eq]
  induction values with
  | nil => simp
  | cons value rest ih => simp [truthOr_true, ih]

@[simp] theorem holds_between (left : Operand τ κ) (low high : Value) :
    (Cond.between left low high).holds sources row = true ↔
      test (left.eval sources row) .atLeast low = some true ∧
        test (left.eval sources row) .atMost high = some true := by
  simp [Cond.holds, Cond.eval, truthAnd_true]

@[simp] theorem holds_both (left right : Cond τ κ) :
    (Cond.both left right).holds sources row = true ↔
      left.holds sources row = true ∧ right.holds sources row = true := by
  simp [Cond.holds, Cond.eval, truthAnd_true]

@[simp] theorem holds_either (left right : Cond τ κ) :
    (Cond.either left right).holds sources row = true ↔
      left.holds sources row = true ∨ right.holds sources row = true := by
  simp [Cond.holds, Cond.eval, truthOr_true]

theorem holds_disjunction (first : Cond τ κ) (rest : List (Cond τ κ)) :
    (Cond.disjunction first rest).holds sources row = true ↔
      ∃ cond ∈ first :: rest, cond.holds sources row = true := by
  induction rest generalizing first with
  | nil => simp [Cond.disjunction]
  | cons next rest ih =>
    have step := ih (.either first next)
    simp only [Cond.disjunction, List.foldl_cons] at step ⊢
    rw [step]
    simp [or_assoc]

theorem valid_disjunction (first : Cond τ κ)
    (rest : List (Cond τ κ)) :
    (Cond.disjunction first rest).valid sources = true ↔
      ∀ cond ∈ first :: rest, cond.valid sources = true := by
  induction rest generalizing first with
  | nil => simp [Cond.disjunction]
  | cons next rest ih =>
    have step := ih (.either first next)
    simp only [Cond.disjunction, List.foldl_cons] at step ⊢
    rw [step]
    simp [Cond.valid, and_assoc]

theorem mem_comparands_disjunction (type : ColumnType) (first : Cond τ κ) (rest : List (Cond τ κ))
    (value : Value) :
    value ∈ (Cond.disjunction first rest).comparands sources type ↔
      ∃ cond ∈ first :: rest, value ∈ cond.comparands sources type := by
  induction rest generalizing first with
  | nil => simp [Cond.disjunction]
  | cons next rest ih =>
    have step := ih (.either first next)
    simp only [Cond.disjunction, List.foldl_cons] at step ⊢
    rw [step]
    simp [Cond.comparands, or_assoc]

end Conditions

theorem countP_leftJoin {α β : Type} (on : α → β → Bool) (left : α) (right : List β)
    (p : Option β → Bool) (unmatched : p none = false) :
    (leftJoin on left right).countP p = (right.filter (on left)).countP fun b => p (some b) := by
  unfold leftJoin
  cases found : right.filter (on left) with
  | nil => simp [unmatched]
  | cons b rest => rw [List.countP_map, Function.comp_def]

theorem mem_leftJoin {α β : Type} (on : α → β → Bool) (left : α) (right : List β) (b : β) :
    some b ∈ leftJoin on left right ↔ b ∈ right ∧ on left b = true := by
  unfold leftJoin
  split
  next none => simpa using fun member => List.filter_eq_nil_iff.mp none b member
  next => simp [List.mem_filter]

@[simp] theorem test_bytea_equal (a b : Bytes) :
    test (.bytea a) .equal (.bytea b) = some true ↔ compareBytes a b = .eq := by
  simp [test, Value.compare, Operator.accepts]

theorem compareBytes_eq (a b : Bytes) : compareBytes a b = .eq ↔ a = b := by
  induction a generalizing b with
  | nil => cases b <;> simp [compareBytes]
  | cons x xs ih =>
    cases b with
    | nil => simp [compareBytes]
    | cons y ys =>
      rcases Nat.lt_trichotomy x.toNat y.toNat with less | same | more
      · have different : x ≠ y := fun equal => by simp [equal] at less
        simp [compareBytes, less, different]
      · simp [compareBytes, UInt8.toNat_inj.mp same, ih]
      · have different : x ≠ y := fun equal => by simp [equal] at more
        simp [compareBytes, more, Nat.lt_asymm more, different]

/-- The odd-length hexadecimal range test: all of `start`, then any byte with high nibble `d`. -/
theorem between_leading (start : Bytes) (d : Nat) (digit : d < 16) (bytes : Bytes)
    (short : bytes.length ≤ start.length + 1) :
    (compareBytes bytes (start ++ [(16 * d).toUInt8]) ≠ .lt ∧
      compareBytes bytes (start ++ [(16 * d + 15).toUInt8]) ≠ .gt) ↔
      ∃ last : UInt8, bytes = start ++ [last] ∧ last.toNat / 16 = d := by
  induction start generalizing bytes with
  | nil =>
    match bytes, short with
    | [], _ => simp [compareBytes]
    | [last], _ =>
      have low := byte_toNat (16 * d) (by omega)
      have high := byte_toNat (16 * d + 15) (by omega)
      simp only [List.nil_append, List.cons.injEq, and_true, exists_eq_left', compareBytes, low, high]
      split_ifs <;> simp <;> omega
  | cons x xs ih =>
    match bytes, short with
    | [], _ => simp [compareBytes]
    | y :: ys, short =>
      have tail := ih ys (by simpa using short)
      rcases Nat.lt_trichotomy y.toNat x.toNat with less | same | more
      · have different : y ≠ x := fun equal => by simp [equal] at less
        simp [compareBytes, less, different]
      · rw [UInt8.toNat_inj.mp same]
        simpa [compareBytes] using tail
      · have different : y ≠ x := fun equal => by simp [equal] at more
        simp [compareBytes, more, Nat.lt_asymm more, different]

end Sql
