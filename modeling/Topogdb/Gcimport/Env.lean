/-
What gcimport rests on and does not define.

* `Env` — the libraries it calls and the parts of Python that depend on the
  Unicode tables of the interpreter, as functions that the results hold for
  whatever they are.  An `Option` is the one exception of a callee;
* `PyError` — the exceptions that gcimport's own code can meet.
-/
import Topogdb.Lib.Json

namespace Gcimport

/-- What a coordinate transformation returns: a float. -/
inductive PyFloat where
  | finite (q : ℚ)
  | inf (negative : Bool)
  | nan
deriving DecidableEq

/-- The exceptions of the importer, its parsers and its request handler; a
`KeyError`, `IndexError` or `ValueError` of Python itself nobody handles. -/
inductive PyError where
  | documentValidation (errors : List String)
  | conversion (message : String)
  | sosiParse (message : String)
  | upstreamImport (collection featureId reason : String)
  | http (statusCode : ℕ) (detail : Json)
  | keyError (key : String)
  | indexError
  | valueError

/-- The answer of the upstream API to one request, or the client's `HTTPError`. -/
inductive PostResult where
  | httpError (message : String)
  | response (statusCode : ℕ) (body : Option Json)

/-- Libraries and interpreter. -/
structure Env where
  /-- `str.casefold`; folding twice is folding once. -/
  casefold : String → String
  casefold_casefold : ∀ s, casefold (casefold s) = casefold s
  /-- The characters that `\d` and `str.isdigit` accept. -/
  isDecimal : Char → Bool
  isDigit : Char → Bool
  /-- `int(token)` and `float(token)` accept the token. -/
  isInt : String → Bool
  isFloat : String → Bool
  /-- `repr(token)`, and `str(value)` of a value that is not a string. -/
  repr : String → String
  strOf : Json → String
  /-- `orjson.loads`; nothing is its `JSONDecodeError`. -/
  loads : ByteArray → Option Json
  /-- pyproj from one CRS to another; nothing is its `CRSError` or `ProjError`. -/
  transformer : String → String → Option (List ℚ → Option (List PyFloat))
  /-- `str(UUID(s))`; nothing is its `ValueError`. -/
  uuid : String → Option String
  /-- The identifier that `uuid4` draws. -/
  uuid4 : String

/-- `str(value)`. -/
def Env.str (env : Env) : Json → String
  | .str s => s
  | value => env.strOf value

end Gcimport
