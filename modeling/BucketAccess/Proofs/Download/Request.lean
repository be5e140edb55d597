import BucketAccess.Download.Request
import BucketAccess.Proofs.Answer

/-!
# What is sent and answered for a download authorization

The body of a request holds texts and a whole number, so JSON can carry it.  What is
wrong with an answer can always be said.
-/

namespace BucketAccess

theorem DownloadRequest.isWritable_body (request : DownloadRequest) :
    request.body.isWritable = true := by
  rw [body, Json.isWritable, Json.every_obj_iff]
  simp only [List.forall_mem_append, List.forall_mem_cons]
  refine ⟨⟨⟨⟨⟨⟨⟨rfl, rfl, request.duration.isWritable_toJson, List.forall_mem_nil _⟩,
    ?_⟩, ?_⟩, ?_⟩, ?_⟩, ?_⟩, ?_⟩
  all_goals exact Json.every_entry_iff.mpr fun _ _ => rfl

/-- Whatever is wrong with a download authorization can be said. -/
theorem DownloadAuthorization.isShallow_kind : DownloadAuthorization.kind.IsShallow := by
  refine Json.isShallow_readObject fun fields => ?_
  simp [DownloadAuthorization.ofFields, Json.isTooDeep_required, Json.isShallow_readText]

end BucketAccess
