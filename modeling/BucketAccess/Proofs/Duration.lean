import BucketAccess.Proofs.Json.Decoding
import Mathlib

/-!
# Durations and their counts

A duration and its count of milliseconds determine each other, and the order of
durations is that of the counts.  A count of any unit stands for a duration
exactly when it is within the range of spans, and it is the count that the
duration gives back.  So a duration survives being written and read, whichever
way it came to be.  Anything else is refused if it can be shown; what cannot be
shown, such as an integer of more than 4300 digits, fails without a refusal.
-/

namespace BucketAccess.Duration

variable {room : Nat} {unit : SpanUnit} {span : Span} {count : Int} {duration : Duration}
  {value : Json}

/-- The least count of milliseconds that a duration has. -/
def leastMilliseconds : Int := -86399999913600000

/-- The greatest count of milliseconds that a duration has.  Nearly one more
millisecond would fit into a span. -/
def greatestMilliseconds : Int := 86399999999999999

/-! ## Spans -/

theorem ofSpan_eq_ok_iff : ofSpan span = .ok duration ↔ duration.span = span := by
  rcases duration with ⟨whole, hwhole⟩
  unfold ofSpan
  split
  · simp [eq_comm]
  · rename_i hpart
    simp only [reduceCtorEq, false_iff]
    intro heq
    exact hpart (heq ▸ hwhole)

/-- A span is a duration exactly when it is a whole number of milliseconds. -/
theorem exists_ofSpan_iff :
    (∃ duration, ofSpan span = .ok duration) ↔ span.microseconds % 1000 = 0 := by
  constructor
  · rintro ⟨duration, hduration⟩
    rw [← ofSpan_eq_ok_iff.mp hduration]
    exact duration.whole
  · intro hwhole
    exact ⟨⟨span, hwhole⟩, ofSpan_eq_ok_iff.mpr rfl⟩

theorem ofSpan_eq_error_iff {violation : Violation} :
    ofSpan span = .error violation ↔
      span.microseconds % 1000 ≠ 0 ∧ violation = .subMillisecond span := by
  unfold ofSpan
  split
  · simp [*]
  · simp only [Except.error.injEq, ne_eq, *, not_false_eq_true, true_and]
    exact eq_comm

theorem isSome_ofMicroseconds?_iff :
    (Span.ofMicroseconds? count).isSome ↔
      leastMicroseconds ≤ count ∧ count ≤ greatestMicroseconds := by
  rw [Span.ofMicroseconds?]
  split <;> simp [*]

theorem ofMicroseconds?_eq_some_iff :
    Span.ofMicroseconds? count = some span ↔ span.microseconds = count := by
  rcases span with ⟨microseconds, hleast, hgreatest⟩
  unfold Span.ofMicroseconds?
  split
  · simp [eq_comm]
  · rename_i hrange
    simp only [reduceCtorEq, false_iff]
    rintro rfl
    exact hrange ⟨hleast, hgreatest⟩

/-! ## Counts -/

theorem microseconds_eq (duration : Duration) :
    duration.span.microseconds = duration.milliseconds * 1000 := by
  have hwhole := duration.whole
  unfold milliseconds
  omega

/-- A span in a duration's place is refused as it would be on its own. -/
theorem mapError_eq_ok_iff {result : Except Violation Duration} :
    result.mapError DurationFlaw.violation = .ok duration ↔ result = .ok duration := by
  cases result <;> simp [Except.mapError]

/-- A count stands for a duration exactly when the duration lasts that many
units. -/
theorem ofCount_eq_ok_iff :
    ofCount room unit count = .ok duration ↔
      duration.span.microseconds = count * unit.microseconds := by
  unfold ofCount
  cases hspan : Span.ofMicroseconds? (count * unit.microseconds) with
  | none =>
      simp only [reduceCtorEq, false_iff]
      intro heq
      rw [ofMicroseconds?_eq_some_iff.mpr heq] at hspan
      cases hspan
  | some span =>
      have hcount := ofMicroseconds?_eq_some_iff.mp hspan
      change (ofSpan span).mapError _ = .ok duration ↔ _
      rw [mapError_eq_ok_iff, ofSpan_eq_ok_iff]
      constructor
      · rintro rfl
        exact hcount
      · intro heq
        rw [ofMicroseconds?_eq_some_iff.mpr heq] at hspan
        exact Option.some.inj hspan

/-- Each unit is a whole number of milliseconds. -/
theorem count_whole (unit : SpanUnit) (count : Int) :
    count * unit.microseconds % 1000 = 0 := by
  cases unit <;> simp only [SpanUnit.microseconds] <;> omega

theorem exists_ofCount_iff (room : Nat) :
    (∃ duration, ofCount room unit count = .ok duration) ↔
      leastMicroseconds ≤ count * unit.microseconds ∧
        count * unit.microseconds ≤ greatestMicroseconds := by
  simp only [ofCount_eq_ok_iff]
  constructor
  · rintro ⟨duration, heq⟩
    rw [← heq]
    exact ⟨duration.span.least_le, duration.span.le_greatest⟩
  · rintro ⟨hleast, hgreatest⟩
    exact ⟨⟨⟨_, hleast, hgreatest⟩, count_whole unit count⟩, rfl⟩

/-- A count that stands for no duration is out of range, and said to be if it can
be shown. -/
theorem ofCount_eq_error {flaw : DurationFlaw} (herror : ofCount room unit count = .error flaw) :
    flaw = .showing room (.int count) (.countOutOfRange unit count) := by
  unfold ofCount at herror
  cases hspan : Span.ofMicroseconds? (count * unit.microseconds) with
  | none =>
      rw [hspan] at herror
      exact (Except.error.inj herror).symm
  | some span =>
      rw [hspan] at herror
      have hwhole : span.microseconds % 1000 = 0 := by
        rw [ofMicroseconds?_eq_some_iff.mp hspan]
        exact count_whole unit count
      obtain ⟨duration, hduration⟩ := exists_ofSpan_iff.mpr hwhole
      change (ofSpan span).mapError _ = _ at herror
      rw [hduration] at herror
      cases herror

/-- The count of a unit in a duration is the count that stands for it. -/
theorem toWire_eq_ok_iff (room : Nat) :
    duration.toWire unit = .ok count ↔ ofCount room unit count = .ok duration := by
  have hunit : unit.microseconds ≠ 0 := by cases unit <;> decide
  rw [ofCount_eq_ok_iff, toWire]
  by_cases hwhole : duration.span.microseconds % unit.microseconds = 0
  · rw [if_pos hwhole, Except.ok.injEq,
      Int.ediv_eq_iff_eq_mul_left hunit (Int.dvd_of_emod_eq_zero hwhole)]
  · simp only [hwhole, if_false, reduceCtorEq, false_iff]
    intro heq
    exact hwhole (by rw [heq, Int.mul_emod_left])

theorem exists_toWire_iff :
    (∃ count, duration.toWire unit = .ok count) ↔
      duration.span.microseconds % unit.microseconds = 0 := by
  unfold toWire
  split <;> simp_all

/-! ## Values on the wire -/

theorem ofWire_eq_ok_iff :
    ofWire room unit value = .ok duration ↔
      ∃ count, value = .int count ∧ duration.toWire unit = .ok count := by
  simp only [toWire_eq_ok_iff room]
  cases value <;> simp [ofWire]

theorem exists_ofWire_iff :
    (∃ duration, ofWire room unit value = .ok duration) ↔
      ∃ count, value = .int count ∧ leastMicroseconds ≤ count * unit.microseconds ∧
        count * unit.microseconds ≤ greatestMicroseconds := by
  simp only [← exists_ofCount_iff room]
  cases value <;> simp [ofWire]

/-- The rule that a value breaks that stands for no duration. -/
def brokenRule (unit : SpanUnit) : Json → Violation
  | .int count => .countOutOfRange unit count
  | value => .notACount unit value

/-- What stands for no duration is refused as far as it can be shown. -/
theorem ofWire_eq_error_iff {flaw : DurationFlaw} :
    ofWire room unit value = .error flaw ↔
      (¬ ∃ duration, ofWire room unit value = .ok duration) ∧
        flaw = .showing room value (brokenRule unit value) := by
  cases hwire : ofWire room unit value with
  | ok duration => simp
  | error other =>
      have hother : other = .showing room value (brokenRule unit value) := by
        cases value with
        | int count => exact ofCount_eq_error hwire
        | _ => exact (Except.error.inj hwire).symm
      simp [hother, eq_comm]

theorem showing_eq_violation_iff {rule violation : Violation} :
    DurationFlaw.showing room value rule = .violation violation ↔
      value.unshown? (some room) = none ∧ violation = rule := by
  unfold DurationFlaw.showing
  split <;> simp [*, eq_comm]

theorem showing_eq_unshown_iff {rule : Violation} {why : Json.Unshown} :
    DurationFlaw.showing room value rule = .unshown why ↔
      value.unshown? (some room) = some why := by
  unfold DurationFlaw.showing
  split <;> simp [*]

/-- Where there is room for it, an integer of up to 4300 digits is shown. -/
theorem unshown?_int :
    (Json.int count).unshown? (some (room + 1)) =
      if Text.leastUnshown ≤ count.natAbs then some .longInteger else none := by
  rw [Json.unshown?]
  simp

/-- A duration that is written as JSON is read back. -/
theorem ofWire_toJson (room : Nat) (duration : Duration) :
    ofWire room .wire duration.toJson = .ok duration :=
  ofWire_eq_ok_iff.mpr ⟨duration.milliseconds, rfl, duration.toWire_milliseconds⟩

theorem readDuration_eq_sound_iff :
    Json.readDuration room value = .sound duration ↔ ofWire room .wire value = .ok duration := by
  unfold Json.readDuration
  cases ofWire room .wire value <;> simp [Checked.flaw]

theorem readNullable_toJson (room : Nat) (duration : Duration) :
    Json.readNullable (Json.readDuration room) duration.toJson = .sound (some duration) := by
  have hread := readDuration_eq_sound_iff.mpr (ofWire_toJson room duration)
  change (Json.readDuration room duration.toJson).map some = _
  rw [hread]
  rfl

/-- What is given for a duration is taken for one if it is one already, if it
is a span of whole milliseconds, or if it is the count of one. -/
theorem exists_ofInput_iff {given : DurationInput} :
    (∃ duration, ofInput room given = .ok duration) ↔
      (∃ duration, given = .duration duration) ∨
      (∃ span, given = .span span ∧ span.microseconds % 1000 = 0) ∨
      ∃ value, given = .wire value ∧ ∃ duration, ofWire room .wire value = .ok duration := by
  cases given with
  | duration duration => simp [ofInput]
  | span span => simp [ofInput, mapError_eq_ok_iff, exists_ofSpan_iff]
  | wire value => simp [ofInput]

/-! ## Order -/

theorem milliseconds_inj {left right : Duration} :
    left.milliseconds = right.milliseconds ↔ left = right := by
  constructor
  · intro heq
    have hleft := (toWire_eq_ok_iff 0).mp left.toWire_milliseconds
    have hright := (toWire_eq_ok_iff 0).mp right.toWire_milliseconds
    rw [heq, hright] at hleft
    exact (Except.ok.inj hleft).symm
  · rintro rfl
    rfl

theorem toJson_injective : Function.Injective toJson := by
  intro left right heq
  exact milliseconds_inj.mp (Json.int.inj heq)

theorem ofOptional_toJson_inj {left right : Option Duration} :
    Json.ofOptional toJson left = Json.ofOptional toJson right ↔ left = right :=
  Json.ofOptional_inj toJson_injective fun _ => by simp [toJson]

theorem milliseconds_le_iff {left right : Duration} :
    left.milliseconds ≤ right.milliseconds ↔ left ≤ right := by
  change _ ↔ left.span.microseconds ≤ right.span.microseconds
  rw [left.microseconds_eq, right.microseconds_eq]
  omega

theorem milliseconds_lt_iff {left right : Duration} :
    left.milliseconds < right.milliseconds ↔ left < right := by
  change _ ↔ left.span.microseconds < right.span.microseconds
  rw [left.microseconds_eq, right.microseconds_eq]
  omega

theorem milliseconds_mem_Icc (duration : Duration) :
    duration.milliseconds ∈ Set.Icc leastMilliseconds greatestMilliseconds := by
  have hcount := duration.microseconds_eq
  have hleast := duration.span.least_le
  have hgreatest := duration.span.le_greatest
  unfold leastMicroseconds at hleast
  unfold greatestMicroseconds at hgreatest
  constructor
  · unfold leastMilliseconds
    omega
  · unfold greatestMilliseconds
    omega

/-- The duration of a count of milliseconds in range. -/
def ofMilliseconds (count : Set.Icc leastMilliseconds greatestMilliseconds) : Duration where
  span := {
    microseconds := count.val * 1000
    least_le := by
      have hleast := count.property.1
      unfold leastMilliseconds at hleast
      unfold leastMicroseconds
      omega
    le_greatest := by
      have hgreatest := count.property.2
      unfold greatestMilliseconds at hgreatest
      unfold greatestMicroseconds
      omega }
  whole := Int.mul_emod_left _ _

theorem ofCount_ofMilliseconds (room : Nat)
    (count : Set.Icc leastMilliseconds greatestMilliseconds) :
    ofCount room .milliseconds count = .ok (ofMilliseconds count) :=
  ofCount_eq_ok_iff.mpr rfl

theorem milliseconds_ofMilliseconds (count : Set.Icc leastMilliseconds greatestMilliseconds) :
    (ofMilliseconds count).milliseconds = count := by
  have hcount := (toWire_eq_ok_iff 0).mpr (ofCount_ofMilliseconds 0 count)
  rw [toWire_milliseconds] at hcount
  exact Except.ok.inj hcount

theorem exists_milliseconds (count : Int) (hleast : -86399999913600000 ≤ count)
    (hgreatest : count ≤ 86399999999999999) :
    ∃ duration : Duration, duration.milliseconds = count :=
  ⟨ofMilliseconds ⟨count, hleast, hgreatest⟩, milliseconds_ofMilliseconds _⟩

/-- Durations stand in the order of their counts of milliseconds, of which
there is one for each integer in range. -/
def millisecondsIso : Duration ≃o Set.Icc leastMilliseconds greatestMilliseconds where
  toFun duration := ⟨duration.milliseconds, duration.milliseconds_mem_Icc⟩
  invFun := ofMilliseconds
  left_inv _ := milliseconds_inj.mp (milliseconds_ofMilliseconds _)
  right_inv count := Subtype.ext (milliseconds_ofMilliseconds count)
  map_rel_iff' := milliseconds_le_iff

/-- Counting milliseconds is an isomorphism of the order of durations, and
every way of making a duration accepts exactly what the counts say: a span of
whole milliseconds, a count within the range of spans, and in a record either of
them or a duration.  What a duration gives out makes it again.  A value that
stands for no duration is refused exactly if there is room to show it and it can be
shown. -/
theorem counts_determine_durations (room : Nat) :
    ((∀ duration, toWire .milliseconds duration = .ok (millisecondsIso duration).val) ∧
      (∀ count, ofCount room .milliseconds count.val = .ok (millisecondsIso.symm count)) ∧
      (∀ left right : Duration, (left = right ↔ left.milliseconds = right.milliseconds) ∧
        (left ≤ right ↔ left.milliseconds ≤ right.milliseconds) ∧
        (left < right ↔ left.milliseconds < right.milliseconds))) ∧
    (∀ span, ((∃ duration, ofSpan span = .ok duration) ↔ span.microseconds % 1000 = 0) ∧
      ∀ violation, ofSpan span = .error violation ↔
        span.microseconds % 1000 ≠ 0 ∧ violation = .subMillisecond span) ∧
    (∀ unit value, (∃ duration, ofWire room unit value = .ok duration) ↔
      ∃ count, value = .int count ∧ leastMicroseconds ≤ count * unit.microseconds ∧
        count * unit.microseconds ≤ greatestMicroseconds) ∧
    (∀ unit value,
      (∀ violation, ofWire room unit value = .error (.violation violation) ↔
        (¬ ∃ duration, ofWire room unit value = .ok duration) ∧
          value.unshown? (some room) = none ∧ violation = brokenRule unit value) ∧
      ∀ why, ofWire room unit value = .error (.unshown why) ↔
        (¬ ∃ duration, ofWire room unit value = .ok duration) ∧
          value.unshown? (some room) = some why) ∧
    (∀ unit count duration, ofWire room unit (.int count) = .ok duration ↔
      toWire unit duration = .ok count) ∧
    (∀ duration, (∃ count, toWire .seconds duration = .ok count) ↔
      duration.span.microseconds % 1000000 = 0) ∧
    (∀ given, (∃ duration, ofInput room given = .ok duration) ↔
      (∃ duration, given = .duration duration) ∨
      (∃ span, given = .span span ∧ span.microseconds % 1000 = 0) ∨
      ∃ value, given = .wire value ∧ ∃ duration, ofWire room .wire value = .ok duration) ∧
    (∀ duration, ofInput room (.wire duration.toJson) = .ok duration ∧
      Json.readDuration room duration.toJson = .sound duration) := by
  refine ⟨⟨toWire_milliseconds, ofCount_ofMilliseconds room, fun left right => ⟨?_, ?_, ?_⟩⟩,
    fun _ => ⟨exists_ofSpan_iff, fun _ => ofSpan_eq_error_iff⟩, fun _ _ => exists_ofWire_iff,
    fun unit value => ⟨fun violation => ?_, fun why => ?_⟩,
    fun _ _ _ => (toWire_eq_ok_iff room).symm, fun _ => exists_toWire_iff,
    fun _ => exists_ofInput_iff, fun duration => ⟨ofWire_toJson room duration, ?_⟩⟩
  · exact milliseconds_inj.symm
  · exact milliseconds_le_iff.symm
  · exact milliseconds_lt_iff.symm
  · rw [ofWire_eq_error_iff, eq_comm, showing_eq_violation_iff]
  · rw [ofWire_eq_error_iff, eq_comm, showing_eq_unshown_iff]
  · exact readDuration_eq_sound_iff.mpr (ofWire_toJson room duration)

/-! ## Values that are not refused -/

/-- What stands for no duration and cannot be shown is not refused. -/
theorem ofWire_of_unshown {why : Json.Unshown}
    (hnone : ¬ ∃ duration, ofWire room unit value = .ok duration)
    (hunshown : value.unshown? (some room) = some why) :
    ofWire room unit value = .error (.unshown why) :=
  ofWire_eq_error_iff.mpr ⟨hnone, (showing_eq_unshown_iff.mpr hunshown).symm⟩

/-- Some more digits than are ever shown make a count that is out of range. -/
theorem ofWire_leastUnshown (room : Nat) :
    ofWire (room + 1) .wire (.int Text.leastUnshown) = .error (.unshown .longInteger) := by
  apply ofWire_of_unshown
  · rw [exists_ofWire_iff]
    rintro ⟨count, heq, -, hgreatest⟩
    obtain rfl := Json.int.inj heq
    have hleast : 100000000000000000000 ≤ Text.leastUnshown :=
      Text.pow_le_leastUnshown (show 20 ≤ Text.longestNumeral by decide)
    simp only [SpanUnit.wire, SpanUnit.microseconds, greatestMicroseconds] at hgreatest
    omega
  · rw [unshown?_int, Int.natAbs_natCast, if_pos (Nat.le_refl _)]

/-- An empty array inside a number of others. -/
def nestedArray : Nat → Json
  | 0 => .arr []
  | depth + 1 => .arr [nestedArray depth]

theorem unshown?_nestedArray {depth : Nat} (hdepth : room ≤ depth) :
    (nestedArray depth).unshown? (some room) = some .deepNesting := by
  induction room generalizing depth with
  | zero => cases depth <;> rfl
  | succ room ih =>
      obtain ⟨inner, rfl⟩ : ∃ inner, depth = inner + 1 := ⟨depth - 1, by omega⟩
      have hinner : (nestedArray inner).unshown? (some room) = some .deepNesting :=
        ih (by omega)
      change ((nestedArray inner).unshown? (some room)).or none = _
      rw [hinner]
      rfl

/-- Arrays are no count, however many stand inside each other. -/
theorem ofWire_nestedArray {depth : Nat} (hdepth : room ≤ depth) :
    ofWire room .wire (nestedArray depth) = .error (.unshown .deepNesting) := by
  apply ofWire_of_unshown
  · rw [exists_ofWire_iff]
    rintro ⟨count, heq, -⟩
    cases depth <;> cases heq
  · exact unshown?_nestedArray hdepth

/-- The least integer of 4301 digits is out of range, and an array inside 991 others
is no count.  Neither is refused where 991 values have room inside each other. -/
theorem unshown_values_escape_refusal :
    ofWire 991 .wire (.int Text.leastUnshown) = .error (.unshown .longInteger) ∧
      ofWire 991 .wire (nestedArray 991) = .error (.unshown .deepNesting) ∧
      ¬ ∀ value, (∃ duration, ofWire 991 .wire value = .ok duration) ∨
        ∃ violation, ofWire 991 .wire value = .error (.violation violation) := by
  refine ⟨ofWire_leastUnshown 990, ofWire_nestedArray (Nat.le_refl 991), ?_⟩
  intro hrefused
  have hlong := ofWire_leastUnshown 990
  rcases hrefused (.int Text.leastUnshown) with ⟨duration, hmade⟩ | ⟨violation, hviolation⟩
  · cases hlong.symm.trans hmade
  · cases hlong.symm.trans hviolation

end BucketAccess.Duration
