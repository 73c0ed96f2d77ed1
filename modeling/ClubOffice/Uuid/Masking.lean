import ClubOffice.Uuid

/-!
# Masking identifiers

A mask replaces the identifiers written in texts by numbers, except those that are known. An
identifier keeps its number, and numbers follow the order of first appearance, so that texts which
differ only in fresh identifiers are masked alike.
-/

namespace ClubOffice.Uuid

def width : Nat := 36

def ahead? (text : List Char) : Option Uuid := do
  let uuid ← (readGroups groups (text.take width)).bind ofDigits?
  if uuid.chars = text.take width then some uuid else none

def within : List Char → List Uuid
  | [] => []
  | c :: rest => (ahead? (c :: rest)).toList ++ within rest

/-- The identifiers that stay as they are, and the others met so far, first one first. -/
structure Mask where
  known : List Uuid
  met : List Uuid
deriving DecidableEq, Repr

namespace Mask

def keeping (text : List Char) : Mask := ⟨within text, []⟩

def numbered (n : Nat) : List Char := '<' :: ((toString n).toList ++ ['>'])

def written (mask : Mask) (uuid : Uuid) : List Char × Mask :=
  if uuid ∈ mask.known then (uuid.chars, mask)
  else
    match mask.met.idxOf? uuid with
    | some n => (numbered n, mask)
    | none => (numbered mask.met.length, { mask with met := mask.met ++ [uuid] })

/-- Masks a text whose first `skip` characters end an identifier that is already replaced. -/
def apply : (skip : Nat) → List Char → Mask → List Char × Mask
  | _, [], mask => ([], mask)
  | skip + 1, _ :: rest, mask => apply skip rest mask
  | 0, c :: rest, mask =>
      match ahead? (c :: rest) with
      | some uuid =>
          let (here, mask) := mask.written uuid
          let (after, mask) := apply (width - 1) rest mask
          (here ++ after, mask)
      | none =>
          let (after, mask) := apply 0 rest mask
          (c :: after, mask)

def mask (mask : Mask) (text : String) : String × Mask :=
  let (masked, left) := apply 0 text.toList mask
  (String.ofList masked, left)

end Mask

end ClubOffice.Uuid
