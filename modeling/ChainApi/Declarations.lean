import ChainApi.Catalogue
import ChainApi.Parameters
import ChainApi.Text.Identifier

/-!
# ChainApi.Declarations

A catalogue as a file of TypeScript declarations: the look-up types, the
interface that holds every operation, and the unions of chain names and
operation ids.

* `keyText` — a key as it is written, quoted unless it is an identifier;
* `OperationTypes.lines` — the block of one operation;
* `Catalogue.emit` — the text of the file.
-/

namespace ChainApi

/-- One step of indentation. -/
def indent : String := "    "

/-- Indentation by a number of steps. -/
def pad (depth : Nat) : String := String.join (List.replicate depth indent)

/-- A property key as it is written: an identifier as it is, and anything else in
single quotes. -/
def keyText (name : String) : String :=
  if Text.isIdentifier name.toList then name else quoted name

/-- A type whose further lines are indented. -/
def indented (type : String) (depth : Nat) : String :=
  String.ofList (Text.indentLines (pad depth).toList type.toList)

/-! ## operations -/

/-- The block that holds the types of the chains under a label. -/
def chainBlock (label : String) (types : Table String) (depth : Nat) : List String :=
  (pad depth ++ label ++ ": \x7b") ::
    types.entries.map (fun e =>
      pad (depth + 1) ++ keyText e.1 ++ ": " ++ indented e.2 (depth + 1)) ++
    [pad depth ++ "\x7d"]

/-- The entry of one chain in the endpoint block, with the path of the document
as a comment. -/
def endpointLines (chain : String) (endpoint : Endpoint) : List String :=
  [pad 3 ++ "/** '" ++ endpoint.comment ++ "' */",
    pad 3 ++ keyText chain ++ ": `" ++ endpoint.path ++ "`"]

/-- The comment line of an operation; none if the comment is empty. -/
def commentLines (comment : Option String) : List String :=
  match comment with
  | none => []
  | some c => if c = "" then [] else [pad 1 ++ "/** " ++ c ++ " */"]

/-- The block of one operation. -/
def OperationTypes.lines (id : String) (r : OperationTypes) : List String :=
  commentLines r.comment ++
    [pad 1 ++ keyText id ++ ": \x7b", pad 2 ++ "method: '" ++ r.method.label ++ "'",
      pad 2 ++ "endpoint: \x7b"] ++
    r.endpoint.entries.flatMap (fun e => endpointLines e.1 e.2) ++
    [pad 2 ++ "\x7d", pad 2 ++ "params: \x7b"] ++
    chainBlock "path" r.path 3 ++ chainBlock "query" r.query 3 ++ chainBlock "body" r.body 3 ++
    [pad 2 ++ "\x7d", pad 2 ++ "response: \x7b"] ++
    chainBlock "success" r.success 3 ++ chainBlock "error" r.error 3 ++
    [pad 2 ++ "\x7d", pad 1 ++ "\x7d"]

/-! ## the file -/

/-- The first line of the file. -/
def headerLine : String := "// DO NOT EDIT THIS FILE MANUALLY"

/-- A type that looks something up for an operation and a chain. -/
structure LookupType where
  name : String
  doc : String
  /-- Where in the record of an operation the answer is found. -/
  shape : String

/-- The look-up types. -/
def lookupTypes : List LookupType :=
  let found := "\x7b [chainName in N]: infer E \x7d"
  [⟨"RestApiEndpoint", "REST API endpoint", "endpoint: " ++ found⟩,
    ⟨"RestApiPathParams", "REST API path parameters", "params: \x7b path: " ++ found ++ " \x7d"⟩,
    ⟨"RestApiQueryParams", "REST API query parameters",
      "params: \x7b query: " ++ found ++ " \x7d"⟩,
    ⟨"RestApiBodyParams", "REST API body parameters", "params: \x7b body: " ++ found ++ " \x7d"⟩,
    ⟨"RestApiSuccessResponse", "REST API successful response type",
      "response: \x7b success: " ++ found ++ " \x7d"⟩,
    ⟨"RestApiErrorResponse", "REST API error response type",
      "response: \x7b error: " ++ found ++ " \x7d"⟩]

/-- The declaration of a look-up type. -/
def LookupType.lines (t : LookupType) : List String :=
  ["/** " ++ t.doc ++ " based on given `ChainName` and `OperationId`. */",
    "export type " ++ t.name ++ "<N extends ChainName, I extends OperationId> =",
    indent ++ "RestApi[I] extends \x7b " ++ t.shape ++ " \x7d ? E : never", ""]

/-- A documented property of the paging declarations. -/
def pagingProperty (doc key type : String) : List String :=
  [indent ++ "/** " ++ doc ++ " */", indent ++ "'pagination." ++ key ++ "'?: " ++ type]

/-- The declarations that paginated operations refer to. -/
def pagingLines : List String :=
  ["/** Query parameters accepted by paginated endpoints. */",
    "export interface PaginationQueryParams \x7b"] ++
    pagingProperty ("`key` is a value returned in PageResponse.next_key to begin querying the " ++
      "next page most efficiently. Only one of offset or key should be set.") "key" "string" ++
    pagingProperty ("`offset` is a numeric offset that can be used when key is unavailable. " ++
      "Only one of offset or key should be set.") "offset" "number" ++
    pagingProperty "`limit` is the total number of results to be returned in the result page."
      "limit" "number" ++
    pagingProperty ("`count_total` indicates that the result set should include a count of the " ++
      "total number of items.") "count_total" "boolean" ++
    pagingProperty "`reverse` returns results in descending order." "reverse" "boolean" ++
    ["\x7d", "", "/** Pagination block returned alongside paginated results. */",
      "export interface PaginationResponse \x7b", indent ++ "pagination: \x7b",
      pad 2 ++ "next_key: string | null", pad 2 ++ "total: string", indent ++ "\x7d", "\x7d", ""]

/-- The union of the chain names; there is no such type without chains. -/
def chainUnion (names : List String) : String :=
  if names.isEmpty then "never" else " | ".intercalate (names.map quoted)

namespace Catalogue

/-- The declarations of a catalogue; a line may hold a type of several lines. -/
def lines (c : Catalogue) (includePagination : Bool) : List String :=
  [headerLine, ""] ++ lookupTypes.flatMap LookupType.lines ++
    (if includePagination then pagingLines else []) ++
    ["/** Stores everything related to Rest API. */", "export interface RestApi \x7b"] ++
    c.entries.flatMap (fun e => e.2.lines e.1) ++
    ["\x7d", "", "/** Represent any of the available chain names. */",
      "export type ChainName = " ++ chainUnion c.chainNames, "",
      "/** Represent any of the available operation IDs. */",
      "export type OperationId = keyof RestApi"]

/-- The text of the declaration file. -/
def emit (c : Catalogue) (includePagination : Bool) : String :=
  String.join ((c.lines includePagination).map fun line => line ++ "\n")

end Catalogue

end ChainApi
