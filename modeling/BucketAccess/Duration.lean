import BucketAccess.Fault

/-!
# Durations

A duration is a span that is a whole number of milliseconds, the finest that
the service can represent.  A span is never rounded into a duration: it is one
or it is refused.  On the wire a duration is an integer count of a unit.  What
is refused is shown to the caller, and a value that cannot be shown fails in
another way than by being refused.
-/

namespace BucketAccess

/-- A span of whole milliseconds. -/
structure Duration where
  span : Span
  whole : span.microseconds % 1000 = 0
deriving DecidableEq, Repr

/-- Why a value stands for no duration. -/
inductive DurationFlaw where
  /-- It breaks a rule. -/
  | violation (violation : Violation)
  /-- It breaks a rule, and what would be said of it cannot show it. -/
  | unshown (why : Json.Unshown)
deriving Repr

namespace DurationFlaw

/-- The flaw of a value that breaks a rule, which shows the value. -/
def showing (room : Nat) (value : Json) (violation : Violation) : DurationFlaw :=
  match value.unshown? (some room) with
  | none => .violation violation
  | some why => .unshown why

/-- The fault of handing in such a value. -/
def fault : DurationFlaw → Fault
  | .violation rule => .violation rule
  | .unshown .longInteger => .badValue
  | .unshown .deepNesting => .tooDeep

/-- The flaw of a field that holds such a value. -/
def flaw : DurationFlaw → Flaw
  | .violation rule => .broken rule
  | .unshown why => .unshown why

end DurationFlaw

namespace Duration

/-- The duration that a span is. -/
def ofSpan (span : Span) : Except Violation Duration :=
  if whole : span.microseconds % 1000 = 0 then .ok ⟨span, whole⟩
  else .error (.subMillisecond span)

/-- One second. -/
def second : Duration := ⟨⟨1000000, by decide, by decide⟩, by decide⟩

/-- The duration of an integer count of a unit.  The room is what is left for
showing a count that is refused. -/
def ofCount (room : Nat) (unit : SpanUnit) (count : Int) : Except DurationFlaw Duration :=
  match Span.ofMicroseconds? (count * unit.microseconds) with
  | some span => (ofSpan span).mapError .violation
  | none => .error (.showing room (.int count) (.countOutOfRange unit count))

/-- The duration that a value on the wire stands for.  Only an integer counts;
a truth value is none. -/
def ofWire (room : Nat) (unit : SpanUnit) : Json → Except DurationFlaw Duration
  | .int count => ofCount room unit count
  | value => .error (.showing room value (.notACount unit value))

/-- The count of a unit in a duration, if it is a whole number of it. -/
def toWire (unit : SpanUnit) (duration : Duration) : Except Violation Int :=
  if duration.span.microseconds % unit.microseconds = 0 then
    .ok (duration.span.microseconds / unit.microseconds)
  else .error (.notWhole unit duration.span)

/-- The count of milliseconds in a duration. -/
def milliseconds (duration : Duration) : Int := duration.span.microseconds / 1000

/-- A duration on the wire. -/
def toJson (duration : Duration) : Json := .int duration.milliseconds

/-- Every duration is a whole number of milliseconds. -/
theorem toWire_milliseconds (duration : Duration) :
    duration.toWire .milliseconds = .ok duration.milliseconds := by
  simp [toWire, SpanUnit.microseconds, duration.whole, milliseconds]

/-- JSON can write every duration. -/
theorem isWritable_toJson (duration : Duration) : duration.toJson.isWritable = true := by
  have hleast := duration.span.least_le
  have hgreatest := duration.span.le_greatest
  unfold leastMicroseconds at hleast
  unfold greatestMicroseconds at hgreatest
  refine decide_eq_true (Text.lt_leastUnshown ?_)
  rw [milliseconds]
  omega

instance : LE Duration where
  le left right := left.span.microseconds ≤ right.span.microseconds

instance : LT Duration where
  lt left right := left.span.microseconds < right.span.microseconds

instance (left right : Duration) : Decidable (left ≤ right) :=
  inferInstanceAs (Decidable (left.span.microseconds ≤ right.span.microseconds))

instance (left right : Duration) : Decidable (left < right) :=
  inferInstanceAs (Decidable (left.span.microseconds < right.span.microseconds))

/-- Durations from the shortest to the longest. -/
def sort (durations : List Duration) : List Duration :=
  durations.mergeSort fun left right => left ≤ right

end Duration

/-- What may be given where a record holds a duration. -/
inductive DurationInput where
  | duration (value : Duration)
  | span (value : Span)
  | wire (value : Json)

/-- A duration in a record: one already made, a span that is one, or a count on
the wire. -/
def Duration.ofInput (room : Nat) : DurationInput → Except DurationFlaw Duration
  | .duration value => .ok value
  | .span value => (Duration.ofSpan value).mapError .violation
  | .wire value => Duration.ofWire room .wire value

end BucketAccess
