import BucketAccess.Fault
import Mathlib.Data.List.FinRange
import Mathlib.Data.List.Induction
import Mathlib.Data.List.Sort
import Mathlib.Logic.Function.Basic

/-!
# Drafting step by step

A draft is filled in by settings that are tried one after the other, and a
setting that fails leaves it as it is.  Where each setting fills one field, and
looks at nothing but its own value, a field holds what the last successful
setting for it has put there.  So settings of different fields may be made in any
order, with the same failures and the same draft in the end.
-/

namespace BucketAccess

section Drafting

variable {δ ι κ ρ : Type}

/-! ## Runs -/

/-- The draft after a setting is tried. -/
def attempt (set : δ → ι → Except Fault δ) (draft : δ) (setting : ι) : δ :=
  match set draft setting with
  | .ok next => next
  | .error _ => draft

/-- The draft after settings are tried one after the other. -/
def attemptAll (set : δ → ι → Except Fault δ) (draft : δ) (settings : List ι) : δ :=
  settings.foldl (attempt set) draft

/-- How a setting fares: that it succeeds, or why it fails. -/
def verdict (result : Except Fault δ) : Except Fault Unit := result.map fun _ => ()

/-- How the setting at a position fares when settings are tried one after the
other. -/
def verdictAt (set : δ → ι → Except Fault δ) (draft : δ) (settings : List ι)
    (position : Fin settings.length) : Except Fault Unit :=
  verdict (set (attemptAll set draft (settings.take position)) (settings.get position))

theorem attemptAll_append_singleton (set : δ → ι → Except Fault δ) (draft : δ)
    (settings : List ι) (setting : ι) :
    attemptAll set draft (settings ++ [setting]) =
      attempt set (attemptAll set draft settings) setting := by
  rw [attemptAll, List.foldl_append]
  rfl

/-! ## Fields -/

variable [DecidableEq κ]

/-- The value that the last successful setting of a field has put there. -/
def lastValue? (field : ι → κ) (value : ι → Option Json) (settings : List ι) (spot : κ) :
    Option Json :=
  ((settings.filter fun setting => field setting = spot).filterMap value).getLast?

/-- Settings that have no value fail on every draft, and all in the same way;
the others put their value into their field and leave the rest as it is.  A draft
is made up of what its fields hold. -/
structure FillsFields (set : δ → ι → Except Fault δ) (field : ι → κ) (value : ι → Option Json)
    (held : δ → κ → Json) : Prop where
  fails : ∀ {setting}, value setting = none →
    ∃ fault, ∀ draft, set draft setting = .error fault
  fills : ∀ {setting content}, value setting = some content → ∀ draft, ∃ next,
    set draft setting = .ok next ∧ held next = Function.update (held draft) (field setting) content
  ext : ∀ {left right}, held left = held right → left = right

variable {set : δ → ι → Except Fault δ} {field : ι → κ} {value : ι → Option Json}
  {held : δ → κ → Json} {draft next : δ} {setting : ι} {settings left right : List ι} {spot : κ}

theorem lastValue?_append (left right : List ι) (spot : κ) :
    lastValue? field value (left ++ right) spot =
      (lastValue? field value right spot).or (lastValue? field value left spot) := by
  rw [lastValue?, List.filter_append, List.filterMap_append, List.getLast?_append]
  rfl

theorem lastValue?_singleton (setting : ι) (spot : κ) :
    lastValue? field value [setting] spot =
      if field setting = spot then value setting else none := by
  unfold lastValue?
  by_cases hfield : field setting = spot
  · cases hvalue : value setting <;> simp [hfield, hvalue]
  · simp [hfield]

theorem lastValue?_eq_none (hnone : ∀ setting ∈ settings, field setting = spot →
    value setting = none) : lastValue? field value settings spot = none := by
  rw [lastValue?, List.getLast?_eq_none_iff, List.filterMap_eq_nil_iff]
  intro setting hmem
  obtain ⟨hsetting, hfield⟩ := List.mem_filter.mp hmem
  exact hnone setting hsetting (of_decide_eq_true hfield)

theorem exists_of_lastValue? {content : Json}
    (hlast : lastValue? field value settings spot = some content) :
    ∃ setting ∈ settings, field setting = spot ∧ value setting = some content := by
  obtain ⟨setting, hmem, hvalue⟩ := List.mem_filterMap.mp (List.mem_of_getLast? hlast)
  obtain ⟨hsetting, hfield⟩ := List.mem_filter.mp hmem
  exact ⟨setting, hsetting, of_decide_eq_true hfield, hvalue⟩

namespace FillsFields

variable (hfills : FillsFields set field value held)
include hfills

/-- Whether and how a setting fails is a matter of its value alone. -/
theorem verdict_eq (left right : δ) (setting : ι) :
    verdict (set left setting) = verdict (set right setting) := by
  cases hvalue : value setting with
  | none =>
      obtain ⟨fault, hfault⟩ := hfills.fails hvalue
      rw [hfault, hfault]
  | some content =>
      obtain ⟨left', hleft, -⟩ := hfills.fills hvalue left
      obtain ⟨right', hright, -⟩ := hfills.fills hvalue right
      rw [hleft, hright]
      rfl

theorem exists_next_iff : (∃ next, set draft setting = .ok next) ↔ (value setting).isSome := by
  cases hvalue : value setting with
  | none =>
      obtain ⟨fault, hfault⟩ := hfills.fails hvalue
      simp [hfault]
  | some content =>
      obtain ⟨next, hnext, -⟩ := hfills.fills hvalue draft
      simp [hnext]

theorem value_eq_none_iff : value setting = none ↔ ∃ fault, set draft setting = .error fault := by
  constructor
  · intro hnone
    obtain ⟨fault, hfault⟩ := hfills.fails hnone
    exact ⟨fault, hfault draft⟩
  · rintro ⟨fault, hfault⟩
    apply Option.not_isSome_iff_eq_none.mp
    intro hsome
    obtain ⟨next, hnext⟩ : ∃ next, set draft setting = .ok next := hfills.exists_next_iff.mpr hsome
    rw [hfault] at hnext
    exact nomatch hnext

theorem value_of_ok (hset : set draft setting = .ok next) :
    value setting = some (held next (field setting)) := by
  obtain ⟨content, hvalue⟩ := Option.isSome_iff_exists.mp (hfills.exists_next_iff.mp ⟨next, hset⟩)
  obtain ⟨next', hnext, hheld⟩ := hfills.fills hvalue draft
  rw [hset] at hnext
  obtain rfl := Except.ok.inj hnext
  rw [hvalue, hheld, Function.update_self]

/-- One setting: its field holds its value, if it has one. -/
theorem held_attempt (draft : δ) (setting : ι) :
    held (attempt set draft setting) =
      (value setting).elim (held draft) (Function.update (held draft) (field setting)) := by
  unfold attempt
  cases hvalue : value setting with
  | none =>
      obtain ⟨fault, hfault⟩ := hfills.fails hvalue
      rw [hfault]
      rfl
  | some content =>
      obtain ⟨next, hnext, hheld⟩ := hfills.fills hvalue draft
      rw [hnext]
      exact hheld

/-- All settings: each field holds the last value that was set, or what it held
from the start. -/
theorem held_attemptAll (draft : δ) (settings : List ι) (spot : κ) :
    held (attemptAll set draft settings) spot =
      (lastValue? field value settings spot).getD (held draft spot) := by
  induction settings using List.reverseRecOn with
  | nil => rfl
  | append_singleton settings setting ih =>
      rw [attemptAll_append_singleton, hfills.held_attempt, lastValue?_append,
        lastValue?_singleton]
      cases hvalue : value setting with
      | none =>
          rw [Option.elim_none, ite_self, Option.none_or]
          exact ih
      | some content =>
          rw [Option.elim_some]
          by_cases hfield : field setting = spot
          · rw [if_pos hfield, ← hfield, Function.update_self]
            rfl
          · rw [if_neg hfield, Function.update_of_ne (Ne.symm hfield), Option.none_or]
            exact ih

/-- The draft depends on no more than the settings of each field in their order. -/
theorem attemptAll_congr (hfilter : ∀ spot, left.filter (fun setting => field setting = spot) =
      right.filter fun setting => field setting = spot) (draft : δ) :
    attemptAll set draft left = attemptAll set draft right := by
  apply hfills.ext
  funext spot
  rw [hfills.held_attemptAll, hfills.held_attemptAll, lastValue?, lastValue?, hfilter]

/-- Settings that fail might as well be left out. -/
theorem attemptAll_filter_isSome (draft : δ) (settings : List ι) :
    attemptAll set draft (settings.filter fun setting => (value setting).isSome) =
      attemptAll set draft settings := by
  apply hfills.ext
  funext spot
  rw [hfills.held_attemptAll, hfills.held_attemptAll, lastValue?, lastValue?, List.filter_comm,
    List.filterMap_filter]
  congr 3
  funext setting
  cases value setting <;> rfl

end FillsFields

/-! ## Reordering -/

/-- Settings brought into another order, in which those of the same field still
follow each other as before. -/
structure Reordering (field : ι → κ) (left right : List ι) where
  position : Fin left.length ≃ Fin right.length
  same : ∀ place, right.get (position place) = left.get place
  ordered : ∀ first second, first < second →
    field (left.get first) = field (left.get second) → position first < position second

/-- The places of a field among settings, in order. -/
def placesOf (field : ι → κ) (settings : List ι) (spot : κ) : List (Fin settings.length) :=
  (List.finRange settings.length).filter fun place => field (settings.get place) = spot

theorem map_get_placesOf (field : ι → κ) (settings : List ι) (spot : κ) :
    (placesOf field settings spot).map settings.get =
      settings.filter fun setting => field setting = spot := by
  conv_rhs => rw [← List.map_get_finRange settings]
  rw [List.filter_map]
  rfl

theorem mem_placesOf_iff {place : Fin settings.length} :
    place ∈ placesOf field settings spot ↔ field (settings.get place) = spot := by
  simp [placesOf]

theorem pairwise_placesOf (field : ι → κ) (settings : List ι) (spot : κ) :
    (placesOf field settings spot).Pairwise (· < ·) :=
  (List.sortedLT_finRange _).pairwise.filter _

namespace Reordering

variable (reordering : Reordering field left right)
include reordering

/-- The places of a field are carried over in order. -/
theorem map_placesOf (spot : κ) :
    (placesOf field left spot).map reordering.position = placesOf field right spot := by
  have hpairwise : ((placesOf field left spot).map reordering.position).Pairwise (· < ·) := by
    rw [List.pairwise_map]
    apply (pairwise_placesOf field left spot).imp_of_mem
    intro first second hfirst hsecond hlt
    apply reordering.ordered first second hlt
    rw [mem_placesOf_iff.mp hfirst, mem_placesOf_iff.mp hsecond]
  have hmem : ∀ place, place ∈ (placesOf field left spot).map reordering.position ↔
      place ∈ placesOf field right spot := by
    intro place
    obtain ⟨origin, rfl⟩ := reordering.position.surjective place
    rw [List.mem_map_of_injective reordering.position.injective, mem_placesOf_iff,
      mem_placesOf_iff, reordering.same]
  apply List.Perm.eq_of_pairwise (fun _ _ _ _ hlt hgt => absurd hgt hlt.asymm) hpairwise
    (pairwise_placesOf field right spot)
  exact (List.perm_ext_iff_of_nodup hpairwise.nodup (pairwise_placesOf field right spot).nodup).mpr
    hmem

/-- The settings of a field are the same ones in the same order. -/
theorem filter_eq (spot : κ) : right.filter (fun setting => field setting = spot) =
    left.filter fun setting => field setting = spot := by
  calc
    right.filter (fun setting => field setting = spot) =
        (placesOf field right spot).map right.get := (map_get_placesOf field right spot).symm
    _ = ((placesOf field left spot).map reordering.position).map right.get := by
        rw [reordering.map_placesOf]
    _ = (placesOf field left spot).map left.get := by
        rw [List.map_map]
        exact List.map_congr_left fun place _ => reordering.same place
    _ = left.filter fun setting => field setting = spot := map_get_placesOf field left spot

end Reordering

/-- Settings of different fields commute: brought into another order they fail at
the same places for the same reasons, and give the same draft. -/
structure SettingsCommute (set : δ → ι → Except Fault δ) (field : ι → κ) (held : δ → κ → Json)
    (build : δ → Except Fault ρ) : Prop where
  /-- Whether and how a setting fails does not depend on the draft. -/
  verdict : ∀ left right setting, verdict (set left setting) = verdict (set right setting)
  verdicts : ∀ draft {left right} (reordering : Reordering field left right) place,
    verdictAt set draft right (reordering.position place) = verdictAt set draft left place
  drafts : ∀ draft {left right}, Reordering field left right →
    attemptAll set draft right = attemptAll set draft left
  requests : ∀ draft {left right}, Reordering field left right →
    build (attemptAll set draft right) = build (attemptAll set draft left)
  /-- A field holds what the last successful setting has put there. -/
  last_wins : ∀ draft before setting after next, set draft setting = .ok next →
    (∀ later ∈ after, field later = field setting → ∃ fault, set draft later = .error fault) →
    held (attemptAll set draft (before ++ setting :: after)) (field setting) =
      held next (field setting)
  /-- A field that is not set successfully holds what it held. -/
  untouched : ∀ draft settings spot,
    (∀ setting ∈ settings, field setting = spot → ∃ fault, set draft setting = .error fault) →
    held (attemptAll set draft settings) spot = held draft spot

theorem FillsFields.settingsCommute (hfills : FillsFields set field value held)
    (build : δ → Except Fault ρ) : SettingsCommute set field held build where
  verdict := hfills.verdict_eq
  verdicts draft left right reordering place := by
    unfold verdictAt
    rw [reordering.same]
    exact hfills.verdict_eq _ _ _
  drafts draft left right reordering := hfills.attemptAll_congr reordering.filter_eq draft
  requests draft left right reordering := by
    rw [hfills.attemptAll_congr reordering.filter_eq draft]
  last_wins draft before setting after next hset hafter := by
    have hnone : lastValue? field value after (field setting) = none := by
      apply lastValue?_eq_none
      intro later hmem hfield
      exact hfills.value_eq_none_iff.mpr (hafter later hmem hfield)
    rw [hfills.held_attemptAll, List.append_cons, lastValue?_append, hnone, lastValue?_append,
      lastValue?_singleton, if_pos rfl, hfills.value_of_ok hset]
    rfl
  untouched draft settings spot hsettings := by
    rw [hfills.held_attemptAll, lastValue?_eq_none]
    · rfl
    · intro setting hmem hfield
      exact hfills.value_eq_none_iff.mpr (hsettings setting hmem hfield)

end Drafting

end BucketAccess
