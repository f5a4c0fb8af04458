import ChainApi.Url.Label.Composition
import ChainApi.Url.Label.Context
import ChainApi.Url.Label.Direction
import ChainApi.Url.Punycode

/-!
# ChainApi.Url.Label

The labels of host names in which not all characters are ASCII: the parts between the
points.  A name is looked up with its labels in ASCII, so a label must have such a form.

* `isLabel` — the labels of all characters;
* `asciiLabel?` — a label in ASCII.
-/

namespace ChainApi.Url

/-- Is this a label?  It neither starts nor ends with a hyphen, nor has it hyphens in
the third and fourth place, which announce a label in another form; it does not start
with a mark. -/
def isLabel (cs : List Char) : Bool :=
  !cs.isEmpty && cs.all (fun c => isLabelChar c || isContextual c) &&
    cs.head? != some '-' && cs.getLast? != some '-' && (cs.drop 2).take 2 != ['-', '-'] &&
    !cs.head?.any isMark && isComposed cs && isEachInContext [] cs && isDirected cs

/-- What announces a label that stands in ASCII for other characters. -/
def codeMark : List Char := ['x', 'n', '-', '-']

/-- The longest label in ASCII. -/
def maxLabel : Nat := 63

/-- A label in ASCII.  One that stands for other characters is kept, but what it stands
for has to be a label. -/
def asciiLabel? (cs : List Char) : Option (List Char) :=
  if maxLabel < cs.length then none
  else if cs.all (·.toNat < 0x80) then
    let isFit :=
      if codeMark.isPrefixOf cs then
        let rest := cs.drop codeMark.length
        !rest.isEmpty && rest.getLast? != some '-' && (Punycode.decode? rest).any isLabel
      else isLabel cs
    if isFit then some cs else none
  else
    let written := codeMark ++ Punycode.encode cs
    if isLabel cs && written.length ≤ maxLabel then some written else none

end ChainApi.Url
