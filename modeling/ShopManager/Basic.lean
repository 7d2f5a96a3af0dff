import Mathlib.Tactic.Common

/-!
# Exceptions and dates

The exceptions that the modelled code raises, lets through or swallows, and the
calendar dates that its keys print.
-/

namespace ShopManager

/-- A date by its ISO text, the form in which `%s` prints it. -/
structure Date where
  isoformat : String
  deriving DecidableEq, Repr

inductive Exn where
  | integrityError
  | doesNotExist
  | multipleObjectsReturned
  | attributeError
  | typeError
  | valueError (message : String)
  | assertion (message : String)
  | exception (message : String)
  deriving DecidableEq, Repr

end ShopManager
