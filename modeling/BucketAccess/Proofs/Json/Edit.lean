import BucketAccess.Proofs.Json.Table
import Mathlib.Logic.Relation

/-!
# Edits that concern no known name

A reader of an object knows the names of some fields and passes over all others.
Entries under other names can be added, removed and changed, and all entries can be
put in another order: none of these edits is seen under a known name.
-/

namespace BucketAccess.Json

/-- One edit of an object.  The order of the entries says nothing because their keys
are distinct. -/
inductive Edit (known : List String) : List (String × Json) → List (String × Json) → Prop where
  | add {before after : List (String × Json)} {entry : String × Json}
      (hunknown : entry.1 ∉ known) : Edit known (before ++ after) (before ++ entry :: after)
  | remove {before after : List (String × Json)} {entry : String × Json}
      (hunknown : entry.1 ∉ known) : Edit known (before ++ entry :: after) (before ++ after)
  | change {before after : List (String × Json)} {key : String} {value value' : Json}
      (hunknown : key ∉ known) :
      Edit known (before ++ (key, value) :: after) (before ++ (key, value') :: after)
  | permute {left right : List (String × Json)} (hkeys : (left.map Prod.fst).Nodup)
      (hperm : left.Perm right) : Edit known left right

variable {known : List String} {left right before after : List (String × Json)}

theorem lookup_insert_of_ne {entry : String × Json} {name : String} (hne : entry.1 ≠ name) :
    lookup name (before ++ entry :: after) = lookup name (before ++ after) := by
  rw [lookup_append, lookup_append, lookup_cons, if_neg hne]

theorem lookup_perm (hkeys : (left.map Prod.fst).Nodup) (hperm : left.Perm right) (name : String) :
    lookup name left = lookup name right := by
  have hkeys' : (right.map Prod.fst).Nodup := (hperm.map Prod.fst).nodup hkeys
  ext found
  rw [lookup_eq_some_iff_mem hkeys, lookup_eq_some_iff_mem hkeys', hperm.mem_iff]

/-- An edit is not seen under a known name. -/
theorem Edit.agreeOn (hedit : Edit known left right) : AgreeOn known left right := by
  intro name hknown
  cases hedit with
  | add hunknown => exact (lookup_insert_of_ne fun heq => hunknown (heq ▸ hknown)).symm
  | remove hunknown => exact lookup_insert_of_ne fun heq => hunknown (heq ▸ hknown)
  | @change before after key value value' hunknown =>
      have hne : key ≠ name := fun heq => hunknown (heq ▸ hknown)
      calc
        lookup name (before ++ (key, value) :: after) = lookup name (before ++ after) :=
          lookup_insert_of_ne hne
        _ = lookup name (before ++ (key, value') :: after) := (lookup_insert_of_ne hne).symm
  | permute hkeys hperm => exact lookup_perm hkeys hperm name

end BucketAccess.Json
