import ChainApi.Document

/-!
# ChainApi.Reference

Pointers into the shared tables of a document.  Only the last segment of a
pointer counts: it names the entry, whatever stands before it.
-/

namespace ChainApi

/-- The part of a text after its last slash; all of it if there is none. -/
def lastSegment (cs : List Char) : List Char := (cs.reverse.takeWhile (· != '/')).reverse

/-- The name of the entry that a pointer like `#/definitions/Coin` refers to. -/
def referenceName (pointer : String) : String := String.ofList (lastSegment pointer.toList)

/-- A last segment holds no slash. -/
theorem not_mem_lastSegment (cs : List Char) : '/' ∉ lastSegment cs := by
  intro h
  rw [lastSegment, List.mem_reverse] at h
  have := List.all_takeWhile (p := (· != '/')) (l := cs.reverse)
  simpa using List.all_eq_true.1 this _ h

theorem lastSegment_append_slash (xs ys : List Char) (h : '/' ∉ ys) :
    lastSegment (xs ++ '/' :: ys) = ys := by
  have hy : ∀ y ∈ ys.reverse, (y != '/') = true := by
    intro y hy
    simp only [bne_iff_ne, ne_eq]
    rintro rfl
    exact h (List.mem_reverse.1 hy)
  simp [lastSegment, List.takeWhile_append_of_pos hy]

namespace Document

/-- The definition that a pointer refers to. -/
def resolve (doc : Document) (pointer : String) : Option Schema :=
  doc.definitions.get? (referenceName pointer)

/-- A parameter itself, or the shared one that it refers to. -/
def resolveParameter (doc : Document) (p : Parameter) : Option Parameter :=
  match p.ref with
  | none => some p
  | some pointer => doc.parameters.get? (referenceName pointer)

end Document

end ChainApi
