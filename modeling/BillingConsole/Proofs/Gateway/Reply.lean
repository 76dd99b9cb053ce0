import BillingConsole.Gateway.Request

/-!
# What the gateway may answer

A value comes from the body of an answer that is no failure.  The gateway is free in what it
answers, so whatever the console holds there is an answer that brings something else.

## What is here

* `Reply.answered_of_decode`, `Reply.decode_eq_ok_iff` — where a value comes from.
* `Reply.exists_ok_ne` — of two answers one brings another value than a given one.
* `Reply.exists_user_ne`, `Reply.exists_signedIn_ne`, `Reply.exists_refreshed_ne` — another user,
  another user who signs in, another access token.
-/

set_option autoImplicit false

namespace BillingConsole.Reply

theorem statusError?_eq_none {status : Nat} (h : statusError? status = none) :
    200 ≤ status ∧ status ≤ 299 := by
  rw [statusError?] at h
  split at h
  · assumption
  · split at h <;> cases h

/-- A value is read from the body of an answer that is no failure. -/
theorem answered_of_decode {α : Type} {reply : Reply} {decoder : Json.Decoder α} {value : α}
    (h : reply.decode decoder = .ok value) : ∃ status body, reply = .answered status body ∧
      (200 ≤ status ∧ status ≤ 299) ∧ Json.decode decoder body = .ok value := by
  cases reply with
  | lost reason => cases h
  | answered status body =>
    rw [decode, Reply.body] at h
    cases hstatus : statusError? status with
    | some error => rw [hstatus] at h; cases h
    | none =>
      rw [hstatus] at h
      refine ⟨status, body, rfl, statusError?_eq_none hstatus, ?_⟩
      cases hread : Json.decode decoder body with
      | ok found =>
        have hfound : found = value := by simpa [hread, bind, Except.bind] using h
        rw [hfound]
      | error error => simp [hread, bind, Except.bind] at h

/-- Exactly such a body has a value. -/
theorem decode_eq_ok_iff {α : Type} {reply : Reply} {decoder : Json.Decoder α} {value : α} :
    reply.decode decoder = .ok value ↔ ∃ status body, reply = .answered status body ∧
      (200 ≤ status ∧ status ≤ 299) ∧ Json.decode decoder body = .ok value := by
  refine ⟨answered_of_decode, ?_⟩
  rintro ⟨status, body, rfl, hstatus, hread⟩
  rw [decode, Reply.body, statusError?, if_pos hstatus]
  simp only [bind, Except.bind, hread]

theorem eq_ok_of_toOption {α ε : Type} {result : Except ε α} {value : α}
    (h : result.toOption = some value) : result = .ok value := by
  cases result with
  | ok found => exact congrArg Except.ok (Option.some_inj.1 h)
  | error => cases h

/-- Of two answers with different values, one brings another value than a given one. -/
theorem exists_ok_ne {α β ε : Type} {read : Reply → Except ε α} {first second : Reply} {a b : α}
    (key : α → β) (ha : (read first).toOption = some a) (hb : (read second).toOption = some b)
    (hne : key a ≠ key b) (other : Option β) :
    ∃ reply value, read reply = .ok value ∧ (value = a ∨ value = b) ∧ some (key value) ≠ other := by
  by_cases h : some (key a) = other
  · refine ⟨second, b, eq_ok_of_toOption hb, .inr rfl, fun heq => hne ?_⟩
    exact Option.some_inj.1 (h.trans heq.symm)
  · exact ⟨first, a, eq_ok_of_toOption ha, .inl rfl, h⟩

/-- The gateway may name another user than a given one. -/
theorem exists_user_ne (other : Option User) :
    ∃ (reply : Reply) (user : User), reply.user = .ok user ∧ some user ≠ other := by
  have hann : (answered 200
      "\x7b\"id\":\"1\",\"username\":\"ann\",\"role\":\"internal_user\"\x7d").user.toOption =
      some ⟨"1", "ann", none, none, .internalUser⟩ := by decide +kernel
  have hbob : (answered 200
      "\x7b\"id\":\"2\",\"username\":\"bob\",\"role\":\"internal_user\"\x7d").user.toOption =
      some ⟨"2", "bob", none, none, .internalUser⟩ := by decide +kernel
  have hne : id (⟨"1", "ann", none, none, .internalUser⟩ : User) ≠
      id ⟨"2", "bob", none, none, .internalUser⟩ := by decide
  obtain ⟨reply, user, hread, -, hother⟩ := exists_ok_ne id hann hbob hne other
  exact ⟨reply, user, hread, hother⟩

/-- The gateway may sign in another user than a given one, without access to billing. -/
theorem exists_signedIn_ne (other : Option User) :
    ∃ (reply : Reply) (answer : SignInAnswer), reply.signedIn = .ok answer ∧
      answer.user.role.isAdmin = false ∧ some answer.user ≠ other := by
  have hann : (answered 200 ("\x7b\"access_token\":\"a\",\"refresh_token\":\"r\",\"user\":\x7b" ++
      "\"id\":\"1\",\"username\":\"ann\",\"role\":\"internal_user\"\x7d\x7d")).signedIn.toOption =
      some ⟨"a", "r", ⟨"1", "ann", none, none, .internalUser⟩⟩ := by decide +kernel
  have hbob : (answered 200 ("\x7b\"access_token\":\"a\",\"refresh_token\":\"r\",\"user\":\x7b" ++
      "\"id\":\"2\",\"username\":\"bob\",\"role\":\"internal_user\"\x7d\x7d")).signedIn.toOption =
      some ⟨"a", "r", ⟨"2", "bob", none, none, .internalUser⟩⟩ := by decide +kernel
  have hne : (⟨"a", "r", ⟨"1", "ann", none, none, .internalUser⟩⟩ : SignInAnswer).user ≠
      (⟨"a", "r", ⟨"2", "bob", none, none, .internalUser⟩⟩ : SignInAnswer).user := by decide
  obtain ⟨reply, answer, hread, hanswer, hother⟩ :=
    exists_ok_ne SignInAnswer.user hann hbob hne other
  refine ⟨reply, answer, hread, ?_, hother⟩
  rcases hanswer with rfl | rfl <;> rfl

/-- The gateway may issue another access token than a given one. -/
theorem exists_refreshed_ne (other : Option String) :
    ∃ (reply : Reply) (answer : RefreshAnswer), reply.refreshed = .ok answer ∧
      some answer.accessToken ≠ other := by
  have ha : (answered 200 "\x7b\"access_token\":\"a\"\x7d").refreshed.toOption = some ⟨"a"⟩ := by
    decide +kernel
  have hb : (answered 200 "\x7b\"access_token\":\"b\"\x7d").refreshed.toOption = some ⟨"b"⟩ := by
    decide +kernel
  have hne : (⟨"a"⟩ : RefreshAnswer).accessToken ≠ (⟨"b"⟩ : RefreshAnswer).accessToken := by decide
  obtain ⟨reply, answer, hread, -, hother⟩ :=
    exists_ok_ne RefreshAnswer.accessToken ha hb hne other
  exact ⟨reply, answer, hread, hother⟩

end BillingConsole.Reply
