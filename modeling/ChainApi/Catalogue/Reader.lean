import ChainApi.Catalogue
import ChainApi.Check

/-!
# ChainApi.Catalogue.Reader

Reading the records of a stored catalogue out of decoded data, where the types
are grouped into those of the parameters and those of the responses.
-/

namespace ChainApi

open Value

/-- Read an endpoint. -/
def Endpoint.ofValue (v : Value) : Checked Endpoint :=
  v.checkRecord <| Endpoint.mk <$> v.required "path" checkText <*> v.required "comment" checkText

/-- The types of the parameters, per chain. -/
structure ParamTables where
  path : Table String := ∅
  query : Table String := ∅
  body : Table String := ∅
  deriving DecidableEq, Inhabited

/-- Read the types of the parameters. -/
def ParamTables.ofValue (v : Value) : Checked ParamTables :=
  v.checkRecord <|
    ParamTables.mk <$> v.memberOr "path" ∅ (checkTable checkText)
      <*> v.memberOr "query" ∅ (checkTable checkText)
      <*> v.memberOr "body" ∅ (checkTable checkText)

/-- The types of the responses, per chain. -/
structure ResponseTables where
  success : Table String := ∅
  error : Table String := ∅
  deriving DecidableEq, Inhabited

/-- Read the types of the responses. -/
def ResponseTables.ofValue (v : Value) : Checked ResponseTables :=
  v.checkRecord <|
    ResponseTables.mk <$> v.memberOr "success" ∅ (checkTable checkText)
      <*> v.memberOr "error" ∅ (checkTable checkText)

/-- A record from its parts. -/
def OperationTypes.ofParts (method : Method) (comment : Option String)
    (endpoint : Table Endpoint) (params : ParamTables) (response : ResponseTables) :
    OperationTypes where
  method
  comment
  endpoint
  path := params.path
  query := params.query
  body := params.body
  success := response.success
  error := response.error

/-- Read the record of an operation. -/
def OperationTypes.ofValue (v : Value) : Checked OperationTypes :=
  v.checkRecord <|
    OperationTypes.ofParts <$> v.required "method" (checkChoice Method.choices)
      <*> v.textMember "comment"
      <*> v.memberOr "endpoint" ∅ (checkTable Endpoint.ofValue)
      <*> v.memberOr "params" {} ParamTables.ofValue
      <*> v.memberOr "response" {} ResponseTables.ofValue

end ChainApi
