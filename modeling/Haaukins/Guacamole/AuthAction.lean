import Haaukins.Lib.Retry

/-!
# `Haaukins.Guacamole.AuthAction`: requests with a login (`svcs/guacamole/guacamole.go`)

`authAction` performs a request and tries it again at most three times. What Guacamole answers
to the requests and to the logins is an argument, `Calls`, and so are the two uses of
`json.Unmarshal`.

* `shouldTryAgain` judges the last answer. It logs in again when the answer is about the login.
* The answer to the fourth request is not judged, only its connection error is seen.
  `authAction_tellsFailure_iff` says in which calls this hides a failure.
-/

set_option autoImplicit false

namespace Haaukins.Guacamole

/-- How a performed request ends. -/
inductive Outcome where
  | connErr (err : String)
  | response (status : Int) (body : List UInt8)
  deriving DecidableEq, Repr

/-- What Guacamole answers: the outcome of each request, and the outcome of the login that
follows that many requests. -/
structure Calls where
  request : Nat → Outcome
  login : Nat → Except String String

/-- `isExpectedStatus`. -/
def isExpectedStatus (s : Int) : Option String :=
  if s ≥ 200 ∧ s ≤ 302 ∨ s = 403 then none else some s!"unexpected response {s}"

/-- `GuacError.Error`. -/
def guacError (action err : String) : String :=
  s!"guacamole: trying to {action}. failed: {err}"

/-- The variables of `authAction` and the token of the client. `sent` has the token of each
request that was performed. -/
structure Attempt where
  token : String
  sent : List String
  content : List UInt8
  status : Int
  err : Option String
  deriving DecidableEq, Repr

section
-- `message` is the message that `json.Unmarshal` finds in a body, when it does not fail.
variable (message : List UInt8 → Option String) (calls : Calls) (action : String)

/-- `perform`. -/
def perform (s : Attempt) : Attempt :=
  match calls.request s.sent.length with
  | .connErr err =>
    { s with sent := s.sent ++ [s.token], content := [], status := 0, err := some err }
  | .response status body =>
    { s with sent := s.sent ++ [s.token], content := body, status := status, err := none }

/-- The login of `shouldTryAgain`. -/
def loginAgain (s : Attempt) : Bool × Attempt :=
  match calls.login s.sent.length with
  | .error err => (false, { s with err := some err })
  | .ok token => (true, { s with token := token, err := none })

/-- `shouldTryAgain`, with the assignment of its error to `err`. -/
def shouldTryAgain (s : Attempt) : Bool × Attempt :=
  match s.err with
  | some _ => (true, s)
  | none =>
    match isExpectedStatus s.status with
    | some err => (true, { s with err := some err })
    | none =>
      if s.status = 403 then loginAgain calls s
      else if message s.content = some "Permission Denied." then loginAgain calls s
      else
        match message s.content with
        | some msg =>
          if msg = "" then (false, s)
          else (false, { s with err := some (guacError action s!"unexpected message: {msg}") })
        | none => (false, s)

/-- `authAction`. `i` is `json.Unmarshal` into the value of the caller, when there is one. -/
def authAction (token : String) (i : Option (List UInt8 → Option String)) : Attempt :=
  let start : Attempt := { token := token, sent := [], content := [], status := 0, err := none }
  let s := retryLoop (shouldTryAgain message calls action) (perform calls) 3 (perform calls start)
  match s.err, i with
  | none, some unmarshal => { s with err := unmarshal s.content }
  | _, _ => s

/-- No connection error, an expected status other than 403, and no error message. -/
def Succeeded : Outcome → Prop
  | .connErr _ => False
  | .response status body =>
    isExpectedStatus status = none ∧ status ≠ 403 ∧ (message body).getD "" = ""

/-- The outcomes after which another request follows, by the outcome of the login. -/
def Retried : Outcome → Except String String → Prop
  | .connErr _, _ => True
  | .response status body, login =>
    isExpectedStatus status ≠ none ∨
      (status = 403 ∨ message body = some "Permission Denied.") ∧ ∃ token, login = .ok token

/-- There is a response, and it can be read into the value of the caller, if there is one. -/
def Accepted (i : Option (List UInt8 → Option String)) : Outcome → Prop
  | .connErr _ => False
  | .response _ body => ∀ unmarshal ∈ i, unmarshal body = none

/-- `authAction` performs at most four requests, and the last one succeeded when there is no
error. -/
structure TellsFailure (s : Attempt) : Prop where
  atMostFour : s.sent.length ≤ 4
  last : s.err = none → ∃ n, s.sent.length = n + 1 ∧ Succeeded message (calls.request n)

end

variable {message : List UInt8 → Option String} {calls : Calls} {action : String}

/-- The variables of `perform` say how the last request ended. -/
structure Performed (calls : Calls) (n : Nat) (s : Attempt) : Prop where
  sent : s.sent.length = n + 1
  connErr : ∀ err, calls.request n = .connErr err → s.err = some err
  response : ∀ status body, calls.request n = .response status body →
    s.err = none ∧ s.status = status ∧ s.content = body

/-- `perform` sends the next request. -/
theorem performed_perform {s : Attempt} {n : Nat} (h : s.sent.length = n) :
    Performed calls n (perform calls s) := by
  rw [perform, h]
  cases hreq : calls.request n with
  | connErr err =>
    refine ⟨by simp [h], fun e he => ?_, fun status body he => ?_⟩
    · rw [hreq] at he
      cases he
      rfl
    · rw [hreq] at he
      cases he
  | response status body =>
    refine ⟨by simp [h], fun e he => ?_, fun st b he => ?_⟩
    · rw [hreq] at he
      cases he
    · rw [hreq] at he
      cases he
      exact ⟨rfl, rfl, rfl⟩

/-- No request is performed while an answer is judged. -/
@[simp] theorem shouldTryAgain_sent (s : Attempt) :
    (shouldTryAgain message calls action s).2.sent = s.sent := by
  have hlogin : (loginAgain calls s).2.sent = s.sent := by
    rw [loginAgain]
    split <;> rfl
  rw [shouldTryAgain]
  repeat' split
  all_goals first | rfl | exact hlogin

/-- After `n` rounds the request with the number `n` was the last one. -/
theorem performed_rounds {s : Attempt} (h : Performed calls 0 s) (n : Nat) :
    Performed calls n (rounds (shouldTryAgain message calls action) (perform calls) n s) := by
  induction n with
  | zero => exact h
  | succ n ih =>
    rw [rounds_succ]
    exact performed_perform (by rw [shouldTryAgain_sent, ih.sent])

/-- A login asks for another try if and only if it succeeds. -/
theorem loginAgain_again {s : Attempt} {n : Nat} (h : s.sent.length = n) :
    (loginAgain calls s).1 = true ↔ ∃ token, calls.login n = .ok token := by
  rw [loginAgain, h]
  cases calls.login n <;> simp

/-- Without another try, the login left its error. -/
theorem loginAgain_err {s : Attempt} (h : (loginAgain calls s).1 = false) :
    (loginAgain calls s).2.err ≠ none := by
  rw [loginAgain] at h ⊢
  cases hlogin : calls.login s.sent.length with
  | error err => simp
  | ok token => simp [hlogin] at h

/-- Another try follows exactly the outcomes in `Retried`. -/
theorem shouldTryAgain_again (message : List UInt8 → Option String) (action : String)
    {s : Attempt} {n : Nat} (h : Performed calls n s) :
    (shouldTryAgain message calls action s).1 = true ↔
      Retried message (calls.request n) (calls.login (n + 1)) := by
  cases hreq : calls.request n with
  | connErr err =>
    rw [shouldTryAgain, h.connErr err hreq]
    simp [Retried]
  | response status body =>
    obtain ⟨herr, hstatus, hbody⟩ := h.response status body hreq
    have hlogin : (loginAgain calls s).1 = true ↔ ∃ token, calls.login (n + 1) = .ok token :=
      loginAgain_again h.sent
    rw [shouldTryAgain, herr, hstatus, hbody, Retried]
    cases hexp : isExpectedStatus status with
    | some e => simp
    | none =>
      by_cases h403 : status = 403
      · simp [h403, hlogin]
      · by_cases hdenied : message body = some "Permission Denied."
        · simp [h403, hdenied, hlogin]
        · simp only [if_neg h403, if_neg hdenied]
          split
          · split <;> simp [h403, hdenied]
          · simp [h403, hdenied]

/-- An answer that is not tried again and leaves no error is one that succeeded. -/
theorem shouldTryAgain_done {s : Attempt} {n : Nat} (h : Performed calls n s)
    (hagain : (shouldTryAgain message calls action s).1 = false)
    (hdone : (shouldTryAgain message calls action s).2.err = none) :
    Succeeded message (calls.request n) := by
  cases hreq : calls.request n with
  | connErr err =>
    rw [shouldTryAgain, h.connErr err hreq] at hagain
    simp at hagain
  | response status body =>
    obtain ⟨herr, hstatus, hbody⟩ := h.response status body hreq
    rw [shouldTryAgain, herr, hstatus, hbody] at hagain hdone
    cases hexp : isExpectedStatus status with
    | some e => simp [hexp] at hagain
    | none =>
      simp only [hexp] at hagain hdone
      by_cases h403 : status = 403
      · rw [if_pos h403] at hagain hdone
        exact absurd hdone (loginAgain_err hagain)
      · by_cases hdenied : message body = some "Permission Denied."
        · rw [if_neg h403, if_pos hdenied] at hagain hdone
          exact absurd hdone (loginAgain_err hagain)
        · rw [if_neg h403, if_neg hdenied] at hdone
          refine ⟨hexp, h403, ?_⟩
          cases hmsg : message body with
          | none => rfl
          | some msg =>
            by_cases hempty : msg = ""
            · simp [hempty]
            · simp [hmsg, hempty] at hdone

section
variable (message) (calls) (action)

/-- The state of `authAction` after its first request and `n` further ones. -/
def authRounds (token : String) (n : Nat) : Attempt :=
  rounds (shouldTryAgain message calls action) (perform calls) n
    (perform calls { token := token, sent := [], content := [], status := 0, err := none })

end

/-- The request with the number `n` is the last one after `n` rounds. -/
theorem performed_authRounds (token : String) (n : Nat) :
    Performed calls n (authRounds message calls action token n) :=
  performed_rounds (performed_perform rfl) n

/-- How `authAction` ends: with an answer that is not tried again, or with the fourth one. -/
theorem authAction_cases (message : List UInt8 → Option String) (calls : Calls)
    (action token : String) (i : Option (List UInt8 → Option String)) :
    (∃ n < 3, ¬ Retried message (calls.request n) (calls.login (n + 1)) ∧
      (authAction message calls action token i).sent.length = n + 1 ∧
      ((authAction message calls action token i).err = none →
        Succeeded message (calls.request n))) ∨
    ((∀ n < 3, Retried message (calls.request n) (calls.login (n + 1))) ∧
      (authAction message calls action token i).sent.length = 4 ∧
      ((authAction message calls action token i).err = none ↔ Accepted i (calls.request 3))) := by
  obtain ⟨loop, hloop⟩ : ∃ loop, loop = retryLoop (shouldTryAgain message calls action)
    (perform calls) 3 (authRounds message calls action token 0) := ⟨_, rfl⟩
  have hround (n : Nat) : Performed calls n (authRounds message calls action token n) :=
    performed_authRounds token n
  have hresult : authAction message calls action token i =
      match loop.err, i with
      | none, some unmarshal => { loop with err := unmarshal loop.content }
      | _, _ => loop := by
    rw [hloop]
    rfl
  -- The result is parsed only where the loop had no error.
  have hsent : (authAction message calls action token i).sent = loop.sent := by
    rw [hresult]
    split <;> rfl
  have herr : (authAction message calls action token i).err = none ↔
      loop.err = none ∧ ∀ unmarshal ∈ i, unmarshal loop.content = none := by
    rw [hresult]
    cases hl : loop.err with
    | some e => simp [hl]
    | none =>
      cases i with
      | none => simp [hl]
      | some unmarshal => simp
  rw [hsent, herr]
  rcases retryLoop_cases (shouldTryAgain message calls action) (perform calls) 3
    (authRounds message calls action token 0) with ⟨n, hn, -, hstop, heq⟩ | ⟨hall, heq⟩
  · -- The answer to request `n` was judged last.
    have hlast : loop = (shouldTryAgain message calls action
        (authRounds message calls action token n)).2 := hloop.trans heq
    have hstopped : (shouldTryAgain message calls action
        (authRounds message calls action token n)).1 = false := hstop
    refine .inl ⟨n, hn, ?_, ?_, fun hnone => ?_⟩
    · rw [← shouldTryAgain_again message action (hround n), hstopped]
      exact Bool.false_ne_true
    · rw [hlast, shouldTryAgain_sent, (hround n).sent]
    · exact shouldTryAgain_done (hround n) hstopped (hlast ▸ hnone.1)
  · -- The fourth answer is the one that the loop leaves behind.
    have hlast : loop = authRounds message calls action token 3 := hloop.trans heq
    refine .inr ⟨fun n hn => ?_, by rw [hlast, (hround 3).sent], ?_⟩
    · exact (shouldTryAgain_again message action (hround n)).mp (hall n hn)
    · rw [hlast]
      cases hreq : calls.request 3 with
      | connErr e => simp [(hround 3).connErr e hreq, Accepted]
      | response status body =>
        obtain ⟨hnone, -, hbody⟩ := (hround 3).response status body hreq
        simp [hnone, hbody, Accepted]

/-- `authAction` tells the failure of the last request, unless it is the fourth one and a
response: that one is only read, not judged. -/
theorem authAction_tellsFailure_iff (message : List UInt8 → Option String) (calls : Calls)
    (action token : String) (i : Option (List UInt8 → Option String)) :
    TellsFailure message calls (authAction message calls action token i) ↔
      ¬ ((∀ n < 3, Retried message (calls.request n) (calls.login (n + 1))) ∧
        Accepted i (calls.request 3) ∧ ¬ Succeeded message (calls.request 3)) := by
  rcases authAction_cases message calls action token i with
    ⟨n, hn, hstop, hsent, hdone⟩ | ⟨hall, hsent, herr⟩
  · have hreports : TellsFailure message calls (authAction message calls action token i) :=
      { atMostFour := by omega
        last := fun hnone => ⟨n, hsent, hdone hnone⟩ }
    simp only [hreports, true_iff]
    intro hlast
    exact hstop (hlast.1 n hn)
  · have hlast (n : Nat) :
        (authAction message calls action token i).sent.length = n + 1 ↔ n = 3 := by
      rw [hsent]
      omega
    constructor
    · intro hreports hbad
      obtain ⟨n, hn, hsucc⟩ := hreports.last (herr.mpr hbad.2.1)
      rw [(hlast n).mp hn] at hsucc
      exact hbad.2.2 hsucc
    · intro hgood
      refine { atMostFour := by omega, last := fun hnone => ⟨3, hsent, ?_⟩ }
      by_contra hfailed
      exact hgood ⟨hall, herr.mp hnone, hfailed⟩

/-- Four responses with the status 500 and an empty body are no error. -/
theorem authAction_fourth_unseen :
    let calls : Calls := { request := fun _ => .response 500 [], login := fun _ => .ok "t" }
    let s := authAction (fun _ => none) calls "add user to connection" "t" none
    s.err = none ∧ s.sent.length = 4 ∧
      ¬ TellsFailure (fun _ => none) calls s := by
  intro calls s
  have herr : s.err = none := by decide
  have hsent : s.sent.length = 4 := by decide
  refine ⟨herr, hsent, fun hreports => ?_⟩
  obtain ⟨n, -, hsucc⟩ := hreports.last herr
  exact absurd hsucc.1 (by decide)

end Haaukins.Guacamole
