import BillingConsole.Proofs.Json.Record
import BillingConsole.Wire.Account

/-!
# Accounts come back

A role is written as its code.  Two roles are read from more than one code, and any other code is
kept; a role that was read comes back all the same, and with it the right to open the billing
pages.  A role that was made up — a code kept under which another role is known — would not.

## What is here

* `Role.ofCode_code_ofCode` — a role that was read is the role its code stands for.
* `User.Sound`, `SignInAnswer.Sound` — what is read.
* `User.yields`, `SignInAnswer.yields` — **whatever is read is sound.**
* `User.survives`, `SignInAnswer.survives` — **whatever is sound comes back.**
-/

set_option autoImplicit false

namespace BillingConsole

open Json

/-! ## Roles -/

namespace Role

/-- The role is the one its code stands for. -/
def Sound (role : Role) : Prop := ofCode role.code = role

theorem ofCode_code_ofCode (code : String) : (ofCode code).Sound := by
  by_cases hadmin : code = "proxy_admin" ∨ code = "Admin"
  · rw [ofCode, if_pos hadmin]
    rfl
  by_cases hviewer : code = "proxy_admin_viewer" ∨ code = "Admin Viewer"
  · rw [ofCode, if_neg hadmin, if_pos hviewer]
    rfl
  by_cases horg : code = "org_admin"
  · rw [horg]
    rfl
  by_cases hinternal : code = "internal_user"
  · rw [hinternal]
    rfl
  by_cases hinternalViewer : code = "internal_user_viewer"
  · rw [hinternalViewer]
    rfl
  have hother : ofCode code = other code := by
    rw [ofCode, if_neg hadmin, if_neg hviewer, if_neg horg, if_neg hinternal,
      if_neg hinternalViewer]
  rw [hother]
  exact hother

theorem yields : Yields decoder Sound := by
  intro tree role h
  obtain ⟨code, -, heq⟩ := exists_of_map h
  exact heq ▸ ofCode_code_ofCode code

theorem survives {role : Role} (h : role.Sound) : Survives decoder encode role := by
  intro hreads
  have hcode : text (encode role).tree = .ok role.code := survives_text role.code hreads
  rw [decoder, hcode]
  exact congrArg Except.ok h

end Role

/-! ## Users -/

namespace User

/-- The role is the one its code stands for. -/
structure Sound (user : User) : Prop where
  role : user.role.Sound

theorem yields : Yields decoder Sound := by
  intro tree user h
  obtain ⟨found, hbuild⟩ := exists_build_of_record h
  obtain ⟨id, -, hbuild⟩ := exists_of_bind hbuild
  obtain ⟨username, -, hbuild⟩ := exists_of_bind hbuild
  obtain ⟨fullName, -, hbuild⟩ := exists_of_bind hbuild
  obtain ⟨email, -, hbuild⟩ := exists_of_bind hbuild
  obtain ⟨role, hrole, hbuild⟩ := exists_of_bind hbuild
  cases hbuild
  have hyields : Yields roleField.decoder Role.Sound := Role.yields
  have hdefault : Role.Sound default := rfl
  exact ⟨hyields.withDefault hdefault hrole⟩

/-- What is written for a user. -/
def slots (user : User) : List Slot :=
  [⟨idField, .text, user.id⟩,
    ⟨usernameField, .text, user.username⟩,
    ⟨fullNameField, .ofOption .text, user.fullName⟩,
    ⟨emailField, .ofOption .text, user.email⟩,
    ⟨roleField, Role.encode, user.role⟩]

theorem survives {user : User} (h : user.Sound) : Survives decoder encode user := by
  have hapart : FieldCheck.Apart fields := by decide
  refine survives_record hapart user.slots (.refl _) ?_ ?_ ?_ _
  · rfl
  · exact ⟨survives_text _,
      survives_text _,
      survives_nullable refusesNull_text fun s _ => survives_text s,
      survives_nullable refusesNull_text fun s _ => survives_text s,
      Role.survives h.role⟩
  · rintro found ⟨hid, husername, hfullName, hemail, hrole⟩ - -
    rw [build, required_of_found hid, required_of_found husername, withDefault_of_found hfullName,
      withDefault_of_found hemail, withDefault_of_found hrole]
    rfl

end User

/-! ## Answers to a user who signed in -/

namespace SignInAnswer

/-- The role of the user is the one its code stands for. -/
structure Sound (answer : SignInAnswer) : Prop where
  user : answer.user.Sound

theorem yields : Yields decoder Sound := by
  intro tree answer h
  obtain ⟨found, hbuild⟩ := exists_build_of_record h
  obtain ⟨accessToken, -, hbuild⟩ := exists_of_bind hbuild
  obtain ⟨refreshToken, -, hbuild⟩ := exists_of_bind hbuild
  obtain ⟨user, huser, hbuild⟩ := exists_of_bind hbuild
  cases hbuild
  have hyields : Yields userField.decoder User.Sound := User.yields
  exact ⟨hyields.required huser⟩

/-- What is written for an answer. -/
def slots (answer : SignInAnswer) : List Slot :=
  [⟨accessTokenField, .text, answer.accessToken⟩,
    ⟨refreshTokenField, .text, answer.refreshToken⟩,
    ⟨userField, User.encode, answer.user⟩]

theorem survives {answer : SignInAnswer} (h : answer.Sound) : Survives decoder encode answer := by
  have hapart : FieldCheck.Apart fields := by decide
  refine survives_record hapart answer.slots (.refl _) ?_ ?_ ?_ _
  · rfl
  · exact ⟨survives_text _, survives_text _, User.survives h.user⟩
  · rintro found ⟨haccessToken, hrefreshToken, huser⟩ - -
    rw [required_of_found haccessToken, required_of_found hrefreshToken, required_of_found huser]
    rfl

end SignInAnswer

end BillingConsole
