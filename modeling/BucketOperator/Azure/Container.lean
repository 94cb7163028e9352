import BucketOperator.Azure.Api
import BucketOperator.Azure.Naming

/-!
# Blob containers

The container holds the bucket's objects and carries its tags as metadata.
-/

namespace BucketOperator.Azure.Container

/-- The body of a container. -/
def body (metadata : StringMap String) : Json :=
  .object [
    ("properties", .object [
      ("metadata", .ofStringMap metadata),
      ("publicAccess", .string "None")])]

/-- Whether the container exists. -/
def doesExist (ids : ResourceIds) : Steps Bool :=
  Steps.orAbsent ((fun _ => true) <$> Steps.get ids.container storageVersion) false

/-- Create the container or replace its properties. -/
def upsert (ids : ResourceIds) (metadata : StringMap String) : Steps Unit := do
  let _ ← Steps.put ids.container storageVersion (body metadata)

end BucketOperator.Azure.Container
