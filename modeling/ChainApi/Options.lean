import ChainApi.Check

/-!
# ChainApi.Options

The choices that a user has in how type declarations are generated.
-/

namespace ChainApi

/-- The parameter type in which body parameters are listed. -/
inductive BodyPlacement where
  | query
  | body
  deriving DecidableEq, Repr

/-- The names of the placements. -/
def BodyPlacement.choices : List (String × BodyPlacement) := [("query", .query), ("body", .body)]

/-- The name of a placement. -/
def BodyPlacement.label : BodyPlacement → String
  | query => "query"
  | body => "body"

/-- How type declarations are generated. -/
structure Options where
  /-- Where body parameters are listed.  In the query type they stand among the
  query parameters, and the body type is undefined. -/
  bodyParams : BodyPlacement := .query
  /-- Follow references to the definitions they point at.  Otherwise these are only
  checked to exist. -/
  resolveRefs : Bool := false
  /-- Add the pagination block to the success types of paginated operations. -/
  pagination : Bool := false
  deriving DecidableEq, Repr, Inhabited

/-- Read options; what is absent has its default. -/
def Options.ofValue (v : Value) : Checked Options :=
  v.checkRecord <|
    Options.mk <$> v.memberOr "body_params" .query (Value.checkChoice BodyPlacement.choices)
      <*> v.memberOr "resolve_refs" false Value.checkTruth
      <*> v.memberOr "pagination" false Value.checkTruth

end ChainApi
