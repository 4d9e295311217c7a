/-
Settings of the compiler.
-/

namespace ColumnFilter

/-- Settings of the compiler. -/
structure Options where
  /-- The number of points above which a list of points becomes a set. -/
  valuesThreshold : Nat := 1
  /-- Whether the order of a domain's intervals is checked before anything is made of them. -/
  validateDomains : Bool := true
deriving DecidableEq

/-- The settings when nothing is asked for. -/
def Options.standard : Options := {}

end ColumnFilter
