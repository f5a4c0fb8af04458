import ChainApi.Value.Text

/-!
# ChainApi.Format

Which description format decoded data claims to be.  A version number decides,
be it text or a number; without one, data that carries both paths and
definitions is taken for the older format, which was often exported without its
header.
-/

namespace ChainApi

/-- A description format. -/
inductive Format where
  | swagger2
  | openapi3
  | unknown
  deriving DecidableEq, Repr

namespace Format

/-- The name of a format. -/
def label : Format → String
  | swagger2 => "swagger2"
  | openapi3 => "openapi3"
  | unknown => "unknown"

/-- Does the spelling of a version start with this digit? -/
def startsWith (version : Value) (digit : Char) : Bool := version.text.toList.head? == some digit

/-- The format of decoded data.  A `swagger` member decides alone. -/
def detect (data : Value) : Format :=
  match data.get? "swagger" with
  | some version => if startsWith version '2' then swagger2 else unknown
  | none =>
    match data.get? "openapi" with
    | some version =>
      if startsWith version '3' then openapi3
      else headless data
    | none => headless data
where
  /-- The format of data without a usable version. -/
  headless (data : Value) : Format :=
    if (data.get? "paths").isSome && (data.get? "definitions").isSome then swagger2 else unknown

/-- Can the version of some data be written out, as the test for its format has to? -/
def isLegible (data : Data) : Bool :=
  match (data.value.get? "swagger").or (data.value.get? "openapi") with
  | some version => !version.isUnspellable data.knots (data.knots.length + 1)
  | none => true

end Format

end ChainApi
