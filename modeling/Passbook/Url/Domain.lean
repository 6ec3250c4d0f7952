import Passbook.Text.Split
import Passbook.Url.Label

/-!
# Domains

A domain is brought to ASCII: its characters are mapped and composed, then its labels are read, and
their forms in ASCII are put together with dots between them. Empty labels are let through.
-/
namespace Passbook.Domain

/-- The labels of a domain, if they are well formed. Where one has characters that are written from
the right, all have to keep their direction. -/
def labels? (domain : List Char) : Option (List Label) := do
  let labels ← (Split.all '.' (Label.normalized domain)).mapM Label.read?
  if labels.any Label.hasRight && !labels.all Label.keepsDirection then none else some labels

def joined : List (List Char) → List Char
  | [] => []
  | [label] => label
  | label :: next :: rest => label ++ '.' :: joined (next :: rest)

/-- The domain in ASCII, if it can be brought to it. -/
def toAscii (domain : List Char) : Option (List Char) :=
  (labels? domain).map fun labels => joined (labels.map Label.ascii)

end Passbook.Domain
