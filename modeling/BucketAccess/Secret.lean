import BucketAccess.Text.Loose

/-!
# Secrets

A secret is carried like any other text but never shown: what is shown tells
only whether there is one.
-/

namespace BucketAccess

/-- A text that is not shown. -/
structure Secret where
  value : Loose
deriving DecidableEq

/-- What is shown in place of a secret. -/
def Secret.shown (secret : Secret) : String :=
  if secret.value.isEmpty then "" else "**********"

end BucketAccess
