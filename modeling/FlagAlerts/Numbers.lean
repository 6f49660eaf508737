/-!
# Numbers of limited width

The limits of whole numbers of 32 and 64 bits, with and without a sign, and sums.
-/

namespace FlagAlerts

/-- The largest 32-bit count. -/
def maxUInt32 : Nat := 0xFFFFFFFF

/-- The largest 64-bit count. -/
def maxUInt64 : Nat := 0xFFFFFFFFFFFFFFFF

/-- The least 32-bit number. -/
def minInt32 : Int := -0x80000000

/-- The largest 32-bit number. -/
def maxInt32 : Int := 0x7FFFFFFF

/-- The least 64-bit number. -/
def minInt64 : Int := -0x8000000000000000

/-- The largest 64-bit number. -/
def maxInt64 : Int := 0x7FFFFFFFFFFFFFFF

/-- The sum of counts. -/
def total : List Nat → Nat
  | [] => 0
  | n :: rest => n + total rest

theorem total_append (a b : List Nat) : total (a ++ b) = total a + total b := by
  induction a with
  | nil => simp [total]
  | cons n rest ih =>
    simp only [List.cons_append, total, ih]
    omega

end FlagAlerts
