/-!
# Decimal digits

Numbers are written with the digits from the most significant to the least and read back by
Horner's rule. A digit is the number it stands for; turning it into a character is the last step
of writing.
-/

namespace Bookshop

/-- The decimal digits of a number, the most significant first; zero has the one digit `0`. -/
def digits (n : Nat) : List Nat :=
  if n < 10 then [n] else digits (n / 10) ++ [n % 10]
termination_by n

/-- Read digits on from a number already read. -/
def appendDigits (n : Nat) (ds : List Nat) : Nat :=
  ds.foldl (fun n d => 10 * n + d) n

def ofDigits (ds : List Nat) : Nat := appendDigits 0 ds

def digitChar (d : Nat) : Char := Char.ofNat (48 + d)

def digit? (c : Char) : Option Nat :=
  if '0' ≤ c ∧ c ≤ '9' then some (c.toNat - 48) else none

def digitText (ds : List Nat) : String := String.ofList (ds.map digitChar)

/-- A whole number as text: a minus sign if it is negative, then its digits. -/
def intText (n : Int) : String :=
  (if n < 0 then "-" else "") ++ digitText (digits n.natAbs)

@[simp] theorem appendDigits_append (n : Nat) (ds es : List Nat) :
    appendDigits n (ds ++ es) = appendDigits (appendDigits n ds) es :=
  List.foldl_append

@[simp] theorem ofDigits_digits (n : Nat) : ofDigits (digits n) = n := by
  induction n using digits.induct with
  | case1 n h => rw [digits, if_pos h]; simp [ofDigits, appendDigits]
  | case2 n h ih =>
    rw [digits, if_neg h, ofDigits, appendDigits_append]
    rw [ofDigits] at ih
    rw [ih]
    simp [appendDigits]
    omega

theorem lt_of_mem_digits {n d : Nat} (h : d ∈ digits n) : d < 10 := by
  induction n using digits.induct with
  | case1 n hn => rw [digits, if_pos hn] at h; simp at h; omega
  | case2 n hn ih =>
    rw [digits, if_neg hn] at h
    rcases List.mem_append.1 h with h | h
    · exact ih h
    · simp at h; omega

end Bookshop
