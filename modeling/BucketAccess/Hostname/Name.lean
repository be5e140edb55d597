import BucketAccess.Hostname.Label

/-!
# Host names

Labels with dots between them.  Three other characters count as dots when a name
is written, and one dot may stand at the end.
-/

namespace BucketAccess.Hostname

/-- The dot and its ideographic, full-width and half-width forms. -/
def isDot (char : Char) : Bool := [0x2E, 0x3002, 0xFF0E, 0xFF61].contains char.toNat

/-- The labels of a name, and whether a dot stands behind the last. -/
def splitName (name : List Char) : List (List Char) × Bool :=
  let labels := name.splitOnP isDot
  if 1 < labels.length && labels.getLast? = some [] then (labels.dropLast, true)
  else (labels, false)

/-- Labels as they are sent. -/
def encodeLabels : List (List Char) → Except LabelFlaw (List (List Char))
  | [] => .ok []
  | label :: labels =>
      match encodeLabel label with
      | .error flaw => .error flaw
      | .ok sent => (encodeLabels labels).map (sent :: ·)

/-- A name in lower case as it is sent. -/
def encodeName (name : List Char) : Except LabelFlaw (List Char) :=
  if maxNameLength < name.length then .error .malformed
  else
    let (labels, isClosed) := splitName name
    match encodeLabels labels with
    | .error flaw => .error flaw
    | .ok sent =>
        let whole := (sent.intersperse ['.']).flatten ++ (if isClosed then ['.'] else [])
        if (if isClosed then maxNameLength else maxNameLength - 1) < whole.length then
          .error .malformed
        else .ok whole

/-- What is wrong with a name as it is sent. -/
def nameFlaw? (name : List Char) : Option LabelFlaw :=
  if maxNameLength < name.length then some .malformed
  else (splitName name).1.findSome? sentFlaw?

end BucketAccess.Hostname
