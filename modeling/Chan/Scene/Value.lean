import Chan.Lib.KeyedList
import Chan.Lib.Utf

namespace Chan
open Utf

/-- A JSON number as it is held; a float is the text it is printed as. -/
inductive Number
  | posInt (n : Nat)
  | negInt (n : Int)
  | float (printed : Text)
  deriving DecidableEq

/-- A JSON value. The fields of an object stand in the order of their keys. -/
inductive Value
  | null
  | bool (b : Bool)
  | number (n : Number)
  | string (s : Text)
  | array (items : List Value)
  | object (fields : List (Text × Value))

abbrev Fields := List (Text × Value)

namespace Value

mutual

def beq : Value → Value → Bool
  | null, null => true
  | bool a, bool b => a == b
  | number a, number b => a == b
  | string a, string b => a == b
  | array a, array b => beqItems a b
  | object a, object b => beqFields a b
  | _, _ => false

def beqItems : List Value → List Value → Bool
  | [], [] => true
  | a :: as, b :: bs => beq a b && beqItems as bs
  | _, _ => false

def beqFields : List (Text × Value) → List (Text × Value) → Bool
  | [], [] => true
  | (k, a) :: as, (l, b) :: bs => k == l && beq a b && beqFields as bs
  | _, _ => false

end

mutual

lemma beq_iff (a b : Value) : beq a b = true ↔ a = b := by
  cases a with
  | array as =>
    cases b with
    | array bs => rw [beq, beqItems_iff as bs, array.injEq]
    | _ => exact ⟨nofun, nofun⟩
  | object as =>
    cases b with
    | object bs => rw [beq, beqFields_iff as bs, object.injEq]
    | _ => exact ⟨nofun, nofun⟩
  | _ => cases b <;> simp [beq]

lemma beqItems_iff (as bs : List Value) : beqItems as bs = true ↔ as = bs := by
  cases as with
  | nil => cases bs <;> simp [beqItems]
  | cons a as =>
    cases bs with
    | nil => simp [beqItems]
    | cons b bs =>
      rw [beqItems, Bool.and_eq_true, beq_iff a b, beqItems_iff as bs, List.cons.injEq]

lemma beqFields_iff (as bs : List (Text × Value)) : beqFields as bs = true ↔ as = bs := by
  cases as with
  | nil => cases bs <;> simp [beqFields]
  | cons a as =>
    obtain ⟨k, a⟩ := a
    cases bs with
    | nil => simp [beqFields]
    | cons b bs =>
      obtain ⟨l, b⟩ := b
      rw [beqFields, Bool.and_eq_true, Bool.and_eq_true, beq_iff a b, beqFields_iff as bs,
        beq_iff_eq, List.cons.injEq, Prod.mk.injEq]

end

instance : DecidableEq Value := fun a b => decidable_of_iff (beq a b = true) (beq_iff a b)

def asStr : Value → Option Text
  | string s => some s
  | _ => none

def asU64 : Value → Option Nat
  | number (.posInt n) => some n
  | _ => none

def asBool : Value → Option Bool
  | bool b => some b
  | _ => none

def asObject : Value → Option Fields
  | object fields => some fields
  | _ => none

def ofNat (n : Nat) : Value := number (.posInt n)

end Value

def hexChar (n : Nat) : Char := "0123456789abcdef".toList.getD n '0'

def escapeChar (c : Char) : Text :=
  if c = '"' then ['\\', '"']
  else if c = '\\' then ['\\', '\\']
  else if c = '\x08' then ['\\', 'b']
  else if c = '\x0c' then ['\\', 'f']
  else if c = '\n' then ['\\', 'n']
  else if c = '\r' then ['\\', 'r']
  else if c = '\t' then ['\\', 't']
  else if c.toNat < 32 then
    ['\\', 'u', '0', '0', hexChar (c.toNat / 16), hexChar (c.toNat % 16)]
  else [c]

def quoted (s : Text) : Text := '"' :: s.flatMap escapeChar ++ ['"']

def Number.print : Number → Text
  | .posInt n => (toString n).toList
  | .negInt n => (toString n).toList
  | .float printed => printed

def separator (first : Bool) : Text := if first then [] else [',']

def newline (depth : Nat) : Text := '\n' :: List.replicate (2 * depth) ' '

namespace Value

mutual

def compact : Value → Text
  | null => "null".toList
  | bool b => if b then "true".toList else "false".toList
  | number n => n.print
  | string s => quoted s
  | array items => '[' :: compactItems true items ++ [']']
  | object fields => '\x7b' :: compactFields true fields ++ ['\x7d']

def compactItems (first : Bool) : List Value → Text
  | [] => []
  | v :: items => separator first ++ v.compact ++ compactItems false items

def compactFields (first : Bool) : List (Text × Value) → Text
  | [] => []
  | (k, v) :: fields =>
    separator first ++ quoted k ++ [':'] ++ v.compact ++ compactFields false fields

end

mutual

def pretty (depth : Nat) : Value → Text
  | null => "null".toList
  | bool b => if b then "true".toList else "false".toList
  | number n => n.print
  | string s => quoted s
  | array [] => ['[', ']']
  | array (v :: items) =>
    '[' :: prettyItems (depth + 1) true (v :: items) ++ newline depth ++ [']']
  | object [] => ['\x7b', '\x7d']
  | object (e :: fields) =>
    '\x7b' :: prettyFields (depth + 1) true (e :: fields) ++ newline depth ++ ['\x7d']

def prettyItems (depth : Nat) (first : Bool) : List Value → Text
  | [] => []
  | v :: items =>
    separator first ++ newline depth ++ v.pretty depth ++ prettyItems depth false items

def prettyFields (depth : Nat) (first : Bool) : List (Text × Value) → Text
  | [] => []
  | (k, v) :: fields =>
    separator first ++ newline depth ++ quoted k ++ [':', ' '] ++ v.pretty depth ++
      prettyFields depth false fields

end

end Value

namespace Value

mutual

lemma utf8Len_compact_le (d : Nat) (v : Value) : utf8Len v.compact ≤ utf8Len (v.pretty d) := by
  cases v with
  | array items =>
    cases items with
    | nil => exact Nat.le_refl _
    | cons v items =>
      have h := utf8Len_compactItems_le (d + 1) true (v :: items)
      simp only [compact, pretty, List.cons_append, utf8Len_cons, utf8Len_append]
      omega
  | object fields =>
    cases fields with
    | nil => exact Nat.le_refl _
    | cons e fields =>
      have h := utf8Len_compactFields_le (d + 1) true (e :: fields)
      simp only [compact, pretty, List.cons_append, utf8Len_cons, utf8Len_append]
      omega
  | _ => simp [compact, pretty]

lemma utf8Len_compactItems_le (d : Nat) (first : Bool) (items : List Value) :
    utf8Len (compactItems first items) ≤ utf8Len (prettyItems d first items) := by
  cases items with
  | nil => exact Nat.le_refl _
  | cons v items =>
    have h := utf8Len_compact_le d v
    have hs := utf8Len_compactItems_le d false items
    simp only [compactItems, prettyItems, utf8Len_append]
    omega

lemma utf8Len_compactFields_le (d : Nat) (first : Bool) (fields : List (Text × Value)) :
    utf8Len (compactFields first fields) ≤ utf8Len (prettyFields d first fields) := by
  cases fields with
  | nil => exact Nat.le_refl _
  | cons e fields =>
    obtain ⟨k, v⟩ := e
    have h := utf8Len_compact_le d v
    have hs := utf8Len_compactFields_le d false fields
    simp only [compactFields, prettyFields, utf8Len_append, utf8Len_cons]
    omega

end

end Value

def valueCost (v : Value) : Nat := utf8Len v.compact

example : valueCost (.object [("a".toList, .array [.ofNat 1, .null]),
    ("b".toList, .string ['\n'])]) = 23 := by decide

end Chan
