import CrmYnov.Auth.Principal
import CrmYnov.Platform.Runtime

/-!
# Collaborators

The users of the application. A collaborator is active or not, holds roles, and
may be attached to a campus and to a team.
-/

namespace CrmYnov.Users

/-- A row of `collaborators`. -/
structure CollaboratorRow where
  (id professionalEmail : String)
  secondaryEmail : Option String := none
  roles : List Role
  campusId : Option String := none
  teamId : Option String := none
  active : Bool := true
  firstLoginRequired : Bool := true
  authenticationVersion : ℤ := 1

/-- The unique indexes of `collaborators`. -/
inductive CollaboratorRow.Key
  | id (value : String)
  | professionalEmail (value : String)
deriving DecidableEq

def CollaboratorRow.keys (c : CollaboratorRow) : List CollaboratorRow.Key :=
  [.id c.id, .professionalEmail c.professionalEmail]

theorem CollaboratorRow.mem_keys_id {c : CollaboratorRow} {id : String} :
    CollaboratorRow.Key.id id ∈ c.keys ↔ c.id = id := by
  simp [CollaboratorRow.keys, eq_comm]

/-- The session of a principal, as the database keeps it. -/
structure LocalSession where
  collaboratorId : String
  authenticationVersion : ℤ
  active : Bool
  expiresAt : Instant

end CrmYnov.Users
