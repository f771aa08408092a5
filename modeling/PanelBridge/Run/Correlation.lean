/-!
# Correlation ids

Every run has a positive number, written after the letters "corr-". Reading also accepts a plus sign and leading zeros
before the number; the written form has neither.
-/

namespace PanelBridge

/-- The number of a run. -/
structure CorrelationId where
  number : Nat
deriving DecidableEq, Repr

namespace CorrelationId

instance : Ord CorrelationId := ⟨compareOn CorrelationId.number⟩

instance : Std.TransOrd CorrelationId :=
  inferInstanceAs (Std.TransCmp (compareOn CorrelationId.number))

instance : Std.LawfulEqOrd CorrelationId where
  compare_self {a} := by
    change compare a.number a.number = .eq
    simp
  eq_of_compare {a b} h := by
    have h' : compare a.number b.number = .eq := h
    cases a
    cases b
    simpa using h'

def letters : List Char := ['c', 'o', 'r', 'r', '-']

/-- The numbers are below this limit. -/
def limit : Nat := UInt64.size

def text (id : CorrelationId) : String := String.ofList letters ++ toString id.number

/-- The value of a list of decimal digits. -/
def digitsValue? : (acc : Nat) → List Char → Option Nat
  | acc, [] => some acc
  | acc, c :: cs => if c.isDigit then digitsValue? (acc * 10 + (c.toNat - 48)) cs else none

/-- The number in a non-empty list of digits, with or without a plus sign. -/
def number? : List Char → Option Nat
  | [] => none
  | c :: cs =>
    if c = '+' then if cs.isEmpty then none else digitsValue? 0 cs
    else digitsValue? 0 (c :: cs)

def ofText? (s : String) : Option CorrelationId :=
  if letters.isPrefixOf s.toList then
    match number? (s.toList.drop letters.length) with
    | some n => if 0 < n && n < limit then some ⟨n⟩ else none
    | none => none
  else none

end CorrelationId

end PanelBridge
