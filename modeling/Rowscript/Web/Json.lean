import Rowscript.Text.Basic

/-!
# JSON values

The bodies of the server's requests and responses are JSON values. Numbers are decimals, so
that no number is changed by being read.
-/

namespace Rowscript.Web

/-- A JSON value. The members of an object are in their order. -/
inductive Json where
  | null
  | bool (value : Bool)
  /-- A decimal number, `mantissa * 10 ^ -places`. -/
  | number (mantissa : Int) (places : Nat)
  | string (value : Text)
  | array (items : List Json)
  | object (members : List (Text × Json))
  deriving Repr, Inhabited

namespace Json

/-- A list of texts. -/
def texts (ts : List Text) : Json := .array (ts.map .string)

/-- A natural number. -/
def nat (n : Nat) : Json := .number n 0

end Json

end Rowscript.Web
