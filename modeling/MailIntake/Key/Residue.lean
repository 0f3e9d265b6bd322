/-!
Numbers modulo another one, and the sum of a thing with itself many times.
-/
namespace MailIntake.Key.Residue

def sub (m a b : Nat) : Nat :=
  (a + (m - b % m)) % m

/-- One step after the other of the search for the common factor of `a` and `b`.  Modulo `m`, these
are `x` and `y` times the number that is to be inverted. -/
def inverseFrom (m a b x y : Nat) : Nat :=
  if b = 0 then x else inverseFrom m b (a % b) y (sub m x (a / b * y))
termination_by b
decreasing_by exact Nat.mod_lt _ (Nat.pos_of_ne_zero ‹_›)

/-- The number that gives one when multiplied with `a` modulo `m`, if both share no factor. -/
def inverse (m a : Nat) : Nat :=
  inverseFrom m m (a % m) 0 1

def div (m a b : Nat) : Nat :=
  a * inverse m b % m

/-- The sum of `n` times the same, by doubling. -/
def times {A : Type} (add : A → A → A) (zero : A) (n : Nat) (a : A) : A :=
  if n = 0 then zero
  else
    let pairs := times add zero (n / 2) (add a a)
    if n % 2 = 0 then pairs else add pairs a
termination_by n
decreasing_by omega

example : inverse 17 5 = 7 ∧ sub 17 3 20 = 0 := by decide +kernel
example : times (· + ·) 0 13 4 = 52 := by decide +kernel

end MailIntake.Key.Residue
