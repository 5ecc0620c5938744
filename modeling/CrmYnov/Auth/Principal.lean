import CrmYnov.Platform.Failure

/-!
# Who makes a request

The roles, the scopes and the principal every service receives, with the role
checks that most of them begin with.
-/

namespace CrmYnov

inductive Role
  | SUPER_ADMIN | ADMIN | MANAGER | ADMISSIONS | AUDITOR
deriving DecidableEq

def Role.text : Role → String
  | SUPER_ADMIN => "SUPER_ADMIN"
  | ADMIN => "ADMIN"
  | MANAGER => "MANAGER"
  | ADMISSIONS => "ADMISSIONS"
  | AUDITOR => "AUDITOR"

/-- Where a principal may act. -/
inductive Scope
  | GLOBAL : Scope
  | CAMPUS (id : String) : Scope
  | TEAM (id : String) : Scope
deriving DecidableEq

structure Principal where
  userId : String
  roles : List Role
  scopes : List Scope
  sessionId : String

namespace Principal

/-- `principal.roles.some((role) => roles.includes(role))` -/
def hasSome (p : Principal) (roles : List Role) : Prop := ∃ role ∈ p.roles, role ∈ roles
deriving Decidable

/-- The roles that decide about the leads of others. -/
def managers : List Role := [.MANAGER, .ADMIN, .SUPER_ADMIN]

def covers (p : Principal) (campus : String) : Prop :=
  ∃ scope ∈ p.scopes, scope = .GLOBAL ∨ scope = .CAMPUS campus
deriving Decidable

end Principal

end CrmYnov
