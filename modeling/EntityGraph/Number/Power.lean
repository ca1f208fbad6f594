/-!
# Powers

Every `a ^ n` of the program, on naturals and on integers, is the core power: `Nat.pow` and
`Int.pow`, given by `NatPow`. A library that brings the power of a general monoid into scope
makes `^` elaborate to that one instead, both when instances are searched and when a numeral's
exponent falls back to a default instance; the two agree in value but not as terms. Ranking the
core power first in both ways keeps every definition the same term whatever else is imported.
-/

namespace EntityGraph

/-- The core power `a ^ n` of a type with `NatPow`, ranked above every other. -/
@[default_instance 20000]
instance (priority := 2000) natPow {α : Type} [NatPow α] : Pow α Nat := instPowNat

end EntityGraph
