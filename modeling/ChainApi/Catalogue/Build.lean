import ChainApi.Catalogue.Extract

/-!
# ChainApi.Catalogue.Build

One catalogue out of the documents of several chains: each document is extracted
in turn and merged into what came before.

* `Catalogue.build` — the catalogue of a list of chains;
* `build_nil` — there has to be at least one.
-/

namespace ChainApi

/-- Why no catalogue can be built. -/
inductive BuildError where
  | noDocuments
  | duplicateChain (chain : String)
  | extraction (e : ExtractionError)
  deriving DecidableEq, Repr

/-- The wording of the failure. -/
def BuildError.message : BuildError → String
  | noDocuments => "No chain documents were supplied"
  | duplicateChain chain => "Chain '" ++ chain ++ "' was supplied more than once"
  | extraction e => e.message

namespace Catalogue

/-- Merge the chains of a list into a catalogue that covers the chains `seen`. -/
def buildFrom (options : Options) (seen : List String) (catalogue : Catalogue) :
    List (String × Document) → Logged BuildError Catalogue
  | [] => pure catalogue
  | (chain, document) :: rest =>
    if chain ∈ seen then throw (.duplicateChain chain)
    else do
      let incoming ← (Source.extract ⟨chain, document, options⟩).mapError .extraction
      let merged ← (⟨conflicts catalogue incoming, .ok (merge catalogue incoming)⟩ :
        Logged BuildError Catalogue)
      buildFrom options (seen ++ [chain]) merged rest

/-- The catalogue of a list of chains, in order. -/
def build (options : Options) (chains : List (String × Document)) :
    Logged BuildError Catalogue :=
  if chains.isEmpty then throw .noDocuments else buildFrom options [] ∅ chains

@[simp] theorem build_nil (options : Options) : build options [] = throw .noDocuments := rfl

end Catalogue

end ChainApi
