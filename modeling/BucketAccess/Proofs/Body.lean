import BucketAccess.Proofs.Answer
import BucketAccess.Proofs.Download.Body
import BucketAccess.Proofs.Key.Body

/-!
# Bodies lose nothing

What is sent for a request is read back as the same request, so a service that
reads what clients write sees every request as it was made.  The body holds one
entry for each field that is set and nothing else, and it is the same for two
requests only if they are the same.
-/

namespace BucketAccess

namespace RecordKind

variable {α κ : Type}

theorem ofValue_eq_ok_iff {kind : RecordKind α} {payload : Json} {record : α} :
    kind.ofValue payload = .ok record ↔ kind.reading payload = .sound record :=
  Checked.orIllFormed_eq_ok_iff

/-- A kind of record is written so that nothing is lost. -/
structure LosesNothing (kind : RecordKind α) (body : α → Json) (layout : Json.Layout κ)
    (said : α → κ → Option Json) : Prop where
  /-- What is written is read back. -/
  read_back : ∀ record, kind.ofValue (body record) = .ok record
  /-- There is one entry for each field that is set, and no other. -/
  entries : ∀ record, layout.Carries (said record) (body record)
  no_null : ∀ record, ¬ Json.Occurs .null (body record)
  /-- Records are told apart by what is written, even in another order. -/
  body_inj : ∀ left right, body left = body right ↔ left = right
  body_equal : ∀ left right, (body left).equal (body right) = true ↔ left = right
  /-- Whatever a record was read from, writing it is final. -/
  rewritten : ∀ payload record, kind.ofValue payload = .ok record →
    ∃ copy, kind.ofValue (body record) = .ok copy ∧ body copy = body record

/-- It is enough that reading undoes writing and that the entries are those of a
table of written values. -/
theorem losesNothing {kind : RecordKind α} {body : α → Json} {layout : Json.Layout κ}
    {said : α → κ → Option Json} (hread : ∀ record, kind.reading (body record) = .sound record)
    (hbody : ∀ record, body record = .obj (layout.entries (said record)))
    (hwritten : ∀ record field value, said record field = some value → value.IsWritten) :
    kind.LosesNothing body layout said := by
  have hcarries : ∀ record, layout.Carries (said record) (body record) := by
    intro record
    rw [hbody]
    exact layout.carries_entries _
  have hinjective : Function.Injective body := by
    intro left right heq
    have hleft := hread left
    rw [heq, hread] at hleft
    exact (Checked.sound.inj hleft).symm
  have hread' : ∀ record, kind.ofValue (body record) = .ok record :=
    fun record => ofValue_eq_ok_iff.mpr (hread record)
  refine ⟨hread', hcarries, fun record => (hcarries record).not_occurs_null (hwritten record),
    fun left right => hinjective.eq_iff, ?_, fun _ record _ => ⟨record, hread' record, rfl⟩⟩
  intro left right
  rw [(hcarries left).equal_iff (hcarries right) (hwritten left) (hwritten right)]
  constructor
  · intro hsaid
    apply hinjective
    rw [hbody, hbody, hsaid]
  · rintro rfl
    rfl

end RecordKind

/-- Neither kind of request loses anything by being written. -/
theorem requests_lose_nothing (room : Nat) :
    (KeyRequest.kind room).LosesNothing KeyRequest.body KeyField.layout KeyRequest.said ∧
      (DownloadRequest.kind room).LosesNothing DownloadRequest.body DownloadField.layout
        DownloadRequest.said := by
  constructor
  · exact RecordKind.losesNothing (KeyRequest.reading_body room) KeyRequest.body_eq
      fun _ _ _ => KeyRequest.isWritten_said
  · exact RecordKind.losesNothing (DownloadRequest.reading_body room) DownloadRequest.body_eq
      fun _ _ _ => DownloadRequest.isWritten_said

end BucketAccess
