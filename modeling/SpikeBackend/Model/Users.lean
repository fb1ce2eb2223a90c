import SpikeBackend.Model.Subscriptions

/-!
# Users and businesses

The columns of a user account (`app/models/user.py`) that its sign-in, security and
billing services read and write, and the rows that tie a business to its owner
(`app/models/business.py`).
-/

namespace SpikeBackend

open Relational Text

inductive UserRole
  | user
  | superAdmin
  | customerService
  deriving DecidableEq, Repr

structure User where
  id : Uuid
  email : Str
  passwordHash : Str
  role : UserRole := .user
  authSessionVersion : Int := 0
  isActive : Bool := true
  isVerified : Bool := false
  emailTwoStepEnabled : Bool := false
  emailTwoStepEnabledAt : Option Datetime := none
  lastLoginAt : Option Datetime := none
  deletedAt : Option Datetime := none

/-- One account per address. -/
instance : Schema User Uuid where
  key := User.id
  clash a b := a.email == b.email
  checks r :=
    decide (0 ≤ r.authSessionVersion) && (r.emailTwoStepEnabled == r.emailTwoStepEnabledAt.isSome)
  clash_comm a b := by
    rw [Bool.eq_iff_iff, beq_iff_eq, beq_iff_eq]
    exact eq_comm

/-- `normalize_email`, over the standard library's `str.lower`. -/
def normalizeEmail (lower : Str → Str) (email : Str) : Str := lower (strip email)

structure Business where
  id : Uuid
  ownerUserId : Uuid

/-- One business per owner. -/
instance : Schema Business Uuid where
  key := Business.id
  clash a b := a.ownerUserId == b.ownerUserId
  checks _ := true
  clash_comm _ _ := BEq.comm

structure RoleAssignment where
  id : Uuid
  businessId : Uuid
  userId : Uuid
  isActive : Bool := true

/-- One assignment per user, which makes the pair with the business unique too. -/
instance : Schema RoleAssignment Uuid where
  key := RoleAssignment.id
  clash a b := a.userId == b.userId
  checks _ := true
  clash_comm _ _ := BEq.comm

end SpikeBackend
