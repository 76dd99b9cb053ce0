import BillingConsole.Account
import BillingConsole.Json.Decoder
import BillingConsole.Json.Printer

/-!
# Accounts on the wire

## What is here

* Decoders and encoders for `Role`, `User`, `SignInRequest`, `SignInAnswer`, `RefreshRequest` and
  `RefreshAnswer`.  A role is written as its code.
-/

set_option autoImplicit false

namespace BillingConsole

open Json

namespace Role

/-- Reads a role from its code. -/
def decoder : Decoder Role := fun tree => (text tree).map ofCode

/-- Writes a role as its code. -/
def encode (role : Role) : Value := .text role.code

end Role

namespace User

/-- The id. -/
def idField : RecordField String := ⟨"id", text, []⟩

/-- The name used to sign in. -/
def usernameField : RecordField String := ⟨"username", text, []⟩

/-- The name in full. -/
def fullNameField : RecordField (Option String) := ⟨"full_name", nullable text, []⟩

/-- The mail address. -/
def emailField : RecordField (Option String) := ⟨"email", nullable text, []⟩

/-- The role. -/
def roleField : RecordField Role := ⟨"role", Role.decoder, []⟩

/-- The fields in their order. -/
def fields : List FieldCheck :=
  [idField.toCheck, usernameField.toCheck, fullNameField.toCheck, emailField.toCheck,
    roleField.toCheck]

/-- A user from the values of its fields. -/
def build (found : FieldValues) : Except DecodeError User := do
  let id ← found.required idField
  let username ← found.required usernameField
  let fullName ← found.withDefault fullNameField none
  let email ← found.withDefault emailField none
  let role ← found.withDefault roleField default
  .ok ⟨id, username, fullName, email, role⟩

/-- Reads a user. -/
def decoder : Decoder User := record "UserInfo" fields build

/-- Writes a user. -/
def encode (user : User) : Value :=
  .record [
    (idField.name, .text user.id),
    (usernameField.name, .text user.username),
    (fullNameField.name, .ofOption .text user.fullName),
    (emailField.name, .ofOption .text user.email),
    (roleField.name, user.role.encode)]

end User

namespace SignInRequest

/-- The name. -/
def usernameField : RecordField String := ⟨"username", text, []⟩

/-- The password. -/
def passwordField : RecordField String := ⟨"password", text, []⟩

/-- The fields in their order. -/
def fields : List FieldCheck := [usernameField.toCheck, passwordField.toCheck]

/-- Reads what a user entered. -/
def decoder : Decoder SignInRequest := record "LoginRequest" fields fun found => do
  let username ← found.required usernameField
  let password ← found.required passwordField
  .ok ⟨username, password⟩

/-- Writes what a user entered. -/
def encode (request : SignInRequest) : Value :=
  .record [
    (usernameField.name, .text request.username),
    (passwordField.name, .text request.password)]

end SignInRequest

namespace SignInAnswer

/-- The access token. -/
def accessTokenField : RecordField String := ⟨"access_token", text, []⟩

/-- The refresh token. -/
def refreshTokenField : RecordField String := ⟨"refresh_token", text, []⟩

/-- The user. -/
def userField : RecordField User := ⟨"user", User.decoder, []⟩

/-- The fields in their order. -/
def fields : List FieldCheck :=
  [accessTokenField.toCheck, refreshTokenField.toCheck, userField.toCheck]

/-- Reads the answer to a user who signed in. -/
def decoder : Decoder SignInAnswer := record "LoginResponse" fields fun found => do
  let accessToken ← found.required accessTokenField
  let refreshToken ← found.required refreshTokenField
  let user ← found.required userField
  .ok ⟨accessToken, refreshToken, user⟩

/-- Writes the answer to a user who signed in. -/
def encode (answer : SignInAnswer) : Value :=
  .record [
    (accessTokenField.name, .text answer.accessToken),
    (refreshTokenField.name, .text answer.refreshToken),
    (userField.name, answer.user.encode)]

end SignInAnswer

namespace RefreshRequest

/-- The refresh token. -/
def refreshTokenField : RecordField String := ⟨"refresh_token", text, []⟩

/-- Reads a request with a refresh token. -/
def decoder : Decoder RefreshRequest :=
  record "RefreshRequest" [refreshTokenField.toCheck] fun found => do
    let refreshToken ← found.required refreshTokenField
    .ok ⟨refreshToken⟩

/-- Writes a request with a refresh token. -/
def encode (request : RefreshRequest) : Value :=
  .record [(refreshTokenField.name, .text request.refreshToken)]

end RefreshRequest

namespace RefreshAnswer

/-- The access token. -/
def accessTokenField : RecordField String := ⟨"access_token", text, []⟩

/-- Reads a new access token. -/
def decoder : Decoder RefreshAnswer :=
  record "RefreshResponse" [accessTokenField.toCheck] fun found => do
    let accessToken ← found.required accessTokenField
    .ok ⟨accessToken⟩

/-- Writes a new access token. -/
def encode (answer : RefreshAnswer) : Value :=
  .record [(accessTokenField.name, .text answer.accessToken)]

end RefreshAnswer

end BillingConsole
