import ComponentCensus.Text.Blank

/-!
# Counting entries

The number of entries of an object literal is estimated by its commas.  The estimate is crude on
purpose: commas in nested literals, argument lists, texts and comments count as well, and so does
a comma after the last entry.

* `entryCount` — the number of pieces between commas, zero for an empty text.
* `entryCountAll` — the count over several blocks put end to end, where the last piece of a block
  and the first piece of the next are one.
-/

set_option autoImplicit false

namespace ComponentCensus

/-- The estimated number of entries of a block. -/
def entryCount (block : List Char) : Nat :=
  if block.isEmpty then 0 else (Text.splitOn ',' block).length

/-- The estimated number of entries of several blocks put end to end. -/
def entryCountAll (blocks : List (List Char)) : Nat := entryCount blocks.flatten

end ComponentCensus
