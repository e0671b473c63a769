import Haaukins.Amigo.InitChallenges
import Haaukins.Amigo.ManageChallenge
import Haaukins.Amigo.StartStop
import Haaukins.Lib.GoBytes

/-!
# `Haaukins.Amigo.ClientInput`: requests with texts of a client (`svcs/amigo/amigo.go`)

The four handlers that slice, split and convert what a client sends: `handleFlagVerify`,
`handleResetChallenge`, `handleStartStopChallenge` and `handleVPNFiles`. A handler leaves the
replies that it wrote, the way in which it ended, and the tags of the exercises that it acted on.
Tags are bytes here, because a slice can end inside a character.

* What changes in the team is in `Haaukins.Amigo.ManageChallenge` and `Haaukins.Amigo.StartStop`.
* The hooks, the middlewares' two headers and the answer of the store service are arguments.
  `none` stands for a hook that panics.
* `handle_answeredOnce_iff` says which requests are answered exactly once. `child_actsOn_iff` says
  which children challenges lead back to their exercise.
-/

set_option autoImplicit false

namespace Haaukins.Amigo

open Store (TeamExercises VerifyErr newTeam newTeamExercises validateTag)

/-- `getParentChallengeTag` on the bytes of a text. The result is `none` when the slice is out of
range. -/
def getParentChallengeBytes (isDigit : Char → Bool) (child : String) : Option ByteArray :=
  if (GoBytes.runes child.toByteArray).any isDigit then GoBytes.dropLast child.toByteArray 2
  else some child.toByteArray

/-- The bytes are those of the text that `getParentChallengeTag` gives, when it gives one. -/
theorem getParentChallengeBytes_of_tag {isDigit : Char → Bool} {child chalTag : String}
    (h : getParentChallengeTag isDigit child = some chalTag) :
    getParentChallengeBytes isDigit child = some chalTag.toByteArray := by
  rw [getParentChallengeBytes, GoBytes.runes_toByteArray]
  rw [getParentChallengeTag] at h
  split at h
  · next hany =>
    obtain ⟨suffix, rfl, hsize⟩ := GoStrings.dropLastBytes_eq_some h
    have htwo : suffix.toByteArray.size = 2 := hsize
    rw [if_pos hany, String.toByteArray_append, ← htwo, GoBytes.dropLast_append]
  · next hany =>
    cases h
    rw [if_neg hany]

/-- What a handler writes to its client. -/
inductive HandlerReply where
  /-- `http.NotFound`. -/
  | notFound
  /-- `replyMsg{"ok"}`. -/
  | ok
  | errReply (status : Nat) (err : String)
  | config (filename conf : String)
  deriving DecidableEq, Repr

/-- How a handler ends. -/
inductive HandlerEnd where
  | returned
  /-- An index or a slice is out of range. -/
  | outOfRange
  /-- A hook panics, or `VerifyFlag` unlocks twice. -/
  | crashed
  deriving DecidableEq, Repr

/-- The replies of a handler, how it ended, and the tags of the exercises that it acted on. -/
structure Handled where
  replies : List HandlerReply
  ending : HandlerEnd
  acted : List ByteArray

/-- `replyJsonRequestErr(w, err); return`. -/
def requestErr (err : String) : Handled :=
  { replies := [.errReply 400 err], ending := .returned, acted := [] }

/-- The team of a request. -/
structure RequestTeam extends TeamView where
  vpnConf : List String

/-- A request: what the middlewares look at, the results of `getTeamFromRequest` and of
`safeReadJson`. -/
structure TeamRequest (α : Type) where
  method : String
  contentType : String
  team : Except String RequestTeam
  body : Except String α

/-- `POSTEndpoint` around `JSONEndpoint` around a handler that reads the team and the message
first. -/
def TeamRequest.jsonPost {α : Type} (r : TeamRequest α) (endpoint : RequestTeam → α → Handled) :
    Handled :=
  if r.method ≠ "POST" then { replies := [.notFound], ending := .returned, acted := [] }
  else if r.contentType ≠ "application/json" then
    { replies := [.notFound], ending := .returned, acted := [] }
  else
    match r.team with
    | .error err => requestErr err
    | .ok team =>
      match r.body with
      | .error err => requestErr err
      | .ok msg => endpoint team msg

/-- `verifyFlagMsg`. -/
structure VerifyFlagMsg where
  tag : String
  flag : String

/-- The hooks of an event for the team of a request, and what the handlers depend on. -/
structure HandlerConf where
  /-- `am.recaptcha.secret` is not empty. -/
  recaptcha : Bool
  /-- `am.TeamStore.Tag`. -/
  eventTag : String
  /-- `unicode.IsDigit`. -/
  isDigit : Char → Bool
  /-- `strconv.Quote`. -/
  quote : String → String
  startStop (challengeTag : ByteArray) (stopped : Bool) : Option (Option String)
  resetExercise (challengeTag : ByteArray) : Option (Option String)

/-- The text of bytes, when they are one. -/
def text? (b : ByteArray) : Option String := String.fromUTF8? b

/-- The bytes of a text are read back. -/
theorem text?_toByteArray (s : String) : text? s.toByteArray = some s := by
  rw [text?, String.fromUTF8?, dif_pos (by exact s.isValidUTF8)]
  rfl

/-- `_, ok := t.disabledChallenges[chalTag]`. -/
def isDisabled (t : TeamExercises) (chalTag : ByteArray) : Bool :=
  (text? chalTag).any fun tag => decide (tag ∈ t.disabledChallenges)

/-- The test of the goroutine of `handleFlagVerify`. -/
def allChildrenSolved (t : TeamExercises) (parentTag : ByteArray) : Bool :=
  (text? parentTag).all fun tag => decide (AllSolved t tag)

/-- The end of `handleResetChallenge` and `handleStartStopChallenge`, after their hook. -/
def replyHook (chalTag : ByteArray) : Option (Option String) → Handled
  | none => { replies := [], ending := .crashed, acted := [chalTag] }
  | some (some err) =>
    { replies := [.errReply 400 err], ending := .returned, acted := [chalTag] }
  | some none => { replies := [.ok], ending := .returned, acted := [chalTag] }

namespace HandlerConf

variable (c : HandlerConf)

/-- `handleFlagVerify`, where `db` is the error of `UpdateTeamSolvedChallenge`. The goroutine runs
at the end. -/
def handleFlagVerify (r : TeamRequest VerifyFlagMsg) (now : Time) (db : Option String) :
    Handled :=
  r.jsonPost fun team msg =>
    match getParentChallengeBytes c.isDigit msg.tag with
    | none => { replies := [], ending := .outOfRange, acted := [] }
    | some parentTag =>
      match team.exercises.challenges.verifyFlag msg.tag (GoStrings.trimSpace msg.flag) now db with
      | (_, some (.failed err)) =>
        { replies := [.errReply 200 err], ending := .returned, acted := [] }
      | (_, some .fatal) => { replies := [], ending := .crashed, acted := [] }
      | (challenges, none) =>
        { replies := [.ok]
          ending := .returned
          acted :=
            if c.recaptcha && allChildrenSolved { team.exercises with challenges := challenges }
                parentTag
            then [parentTag] else [] }

/-- The two handlers that call a hook on the parent of a tag. -/
def handleParent (hook : RequestTeam → ByteArray → Option (Option String))
    (r : TeamRequest String) : Handled :=
  r.jsonPost fun team tag =>
    match getParentChallengeBytes c.isDigit tag with
    | none => { replies := [], ending := .outOfRange, acted := [] }
    | some chalTag =>
      if !team.team.isLabAssigned then requestErr (labNotAssignedErr team.team.name c.eventTag)
      else replyHook chalTag (hook team chalTag)

/-- `handleResetChallenge`. -/
def handleResetChallenge : TeamRequest String → Handled :=
  c.handleParent fun _ chalTag => c.resetExercise chalTag

/-- `handleStartStopChallenge`. The hook gets what `ManageDisabledChals` returns. -/
def handleStartStopChallenge : TeamRequest String → Handled :=
  c.handleParent fun team chalTag => c.startStop chalTag (isDisabled team.exercises chalTag)

end HandlerConf

/-! ### `handleVPNFiles` -/

/-- `strconv.ErrSyntax` and `strconv.ErrRange`. -/
inductive NumErr where
  | badSyntax
  | tooLarge
  deriving DecidableEq, Repr

/-- The text of `NumError`. -/
def numErr (quote : String → String) (s : String) : NumErr → String
  | .badSyntax => "strconv.Atoi: parsing " ++ quote s ++ ": invalid syntax"
  | .tooLarge => "strconv.Atoi: parsing " ++ quote s ++ ": value out of range"

/-- The loop of `strconv.ParseUint`. A number that gets too large ends it before the rest is
read. -/
def parseUint : Nat → List Char → Except NumErr Nat
  | n, [] => .ok n
  | n, c :: cs =>
    if !c.isDigit then .error .badSyntax
    else if 10 * n + (c.toNat - '0'.toNat) ≥ 2 ^ 64 then .error .tooLarge
    else parseUint (10 * n + (c.toNat - '0'.toNat)) cs

/-- `strconv.ParseInt` of the digits after the sign: the number, and the error. -/
def parseInt (neg : Bool) (cs : List Char) : Int × Option NumErr :=
  let limit : Int := if neg then -2 ^ 63 else 2 ^ 63 - 1
  if cs = [] then (0, some .badSyntax)
  else
    match parseUint 0 cs with
    | .error .badSyntax => (0, some .badSyntax)
    | .error .tooLarge => (limit, some .tooLarge)
    | .ok n =>
      let i : Int := if neg then -n else n
      if i < -2 ^ 63 ∨ i > 2 ^ 63 - 1 then (limit, some .tooLarge) else (i, none)

/-- `strconv.Atoi`. -/
def atoi (s : String) : Int × Option NumErr :=
  match s.toList with
  | '-' :: cs => parseInt true cs
  | '+' :: cs => parseInt false cs
  | cs => parseInt false cs

example : atoi "3" = (3, none) ∧ atoi "x" = (0, some .badSyntax) ∧
    atoi "99999999999999999999x" = (2 ^ 63 - 1, some .tooLarge) := by decide

/-- The error of `handleVPNFiles` for a team without configurations. -/
def noVPNErr : String := "Error, no vpn information found on on team err <nil>"

/-- A configuration that `switch confID` writes. -/
def Switched (confID : Int) : Prop := 0 ≤ confID ∧ confID ≤ 3

instance (confID : Int) : Decidable (Switched confID) := inferInstanceAs (Decidable (_ ∧ _))

/-- `if len(vpnConfig) == 0`. The handler goes on after this reply. -/
def noConn (vpnConf : List String) : List HandlerReply :=
  if vpnConf = [] then [.errReply 400 noVPNErr] else []

/-- The rest of `handleVPNFiles`, after the text of the number. It goes on after an error of
`Atoi`, too. -/
def fileHandled (quote : String → String) (vpnConf : List String) (part : String) : Handled :=
  let (confID, err) := atoi part
  let replies := noConn vpnConf ++
    (err.map fun e => HandlerReply.errReply 400 (numErr quote part e)).toList
  if Switched confID then
    match vpnConf[confID.toNat]? with
    | none => { replies := replies, ending := .outOfRange, acted := [] }
    | some conf =>
      { replies := replies ++ [.config ("conn_" ++ toString confID ++ ".conf") conf]
        ending := .returned
        acted := [] }
  else { replies := replies, ending := .returned, acted := [] }

/-- `handleVPNFiles`, where the body is the field `vpnConnID`. -/
def HandlerConf.handleVPNFiles (c : HandlerConf) (r : TeamRequest String) : Handled :=
  match r.team with
  | .error err => requestErr err
  | .ok team =>
    match r.body with
    | .error err =>
      { replies := noConn team.vpnConf ++ [.errReply 400 err], ending := .returned, acted := [] }
    | .ok vpnConfID =>
      match (GoStrings.split vpnConfID '_')[1]? with
      | none => { replies := noConn team.vpnConf, ending := .outOfRange, acted := [] }
      | some part => fileHandled c.quote team.vpnConf part

/-! ### Every request -/

/-- A request to one of the handlers. -/
inductive ClientRequest where
  | flagVerify (r : TeamRequest VerifyFlagMsg) (now : Time) (db : Option String)
  | resetChallenge (r : TeamRequest String)
  | startStopChallenge (r : TeamRequest String)
  | vpnFiles (r : TeamRequest String)

/-- The handler of a request. -/
def HandlerConf.handle (c : HandlerConf) : ClientRequest → Handled
  | .flagVerify r now db => c.handleFlagVerify r now db
  | .resetChallenge r => c.handleResetChallenge r
  | .startStopChallenge r => c.handleStartStopChallenge r
  | .vpnFiles r => c.handleVPNFiles r

/-- No index and no slice is out of range, and there is one reply. -/
structure Handled.AnsweredOnce (h : Handled) : Prop where
  inRange : h.ending ≠ .outOfRange
  once : h.replies.length = 1

/-- The request comes to the tag of its body. -/
def TeamRequest.Reads {α : Type} (r : TeamRequest α) (team : RequestTeam) (msg : α) : Prop :=
  r.method = "POST" ∧ r.contentType = "application/json" ∧ r.team = .ok team ∧ r.body = .ok msg

/-- The tag is one character, of one byte, and a digit. -/
def OneDigit (isDigit : Char → Bool) (tag : String) : Prop :=
  ∃ d, tag = String.singleton d ∧ d.utf8Size = 1 ∧ isDigit d = true

/-- A number that leads to one reply: a configuration that is there, an error that leads to no
configuration, or no configuration for a team without any. -/
def OneFile (vpnConf : List String) (part : String) : Prop :=
  if vpnConf = [] then (atoi part).2 = none ∧ ¬ Switched (atoi part).1
  else if (atoi part).2 = none then
    Switched (atoi part).1 ∧ (atoi part).1 < vpnConf.length
  else ¬ Switched (atoi part).1

/-- What a request has to meet, so that it is answered once. -/
def HandlerConf.Answerable (c : HandlerConf) : ClientRequest → Prop
  | .flagVerify r _ db => ∀ team msg, r.Reads team msg →
      ¬ OneDigit c.isDigit msg.tag ∧
        (team.exercises.challenges.challenges.get? (GoStrings.trimSpace msg.flag) =
          some ⟨msg.tag, none⟩ → db = none)
  | .resetChallenge r => ∀ team tag, r.Reads team tag →
      ¬ OneDigit c.isDigit tag ∧
        ∀ chalTag ∈ getParentChallengeBytes c.isDigit tag, team.team.isLabAssigned = true →
          c.resetExercise chalTag ≠ none
  | .startStopChallenge r => ∀ team tag, r.Reads team tag →
      ¬ OneDigit c.isDigit tag ∧
        ∀ chalTag ∈ getParentChallengeBytes c.isDigit tag, team.team.isLabAssigned = true →
          c.startStop chalTag (isDisabled team.exercises chalTag) ≠ none
  | .vpnFiles r => ∀ team, r.team = .ok team →
      match r.body with
      | .error _ => team.vpnConf ≠ []
      | .ok vpnConfID =>
        ∃ part, (GoStrings.split vpnConfID '_')[1]? = some part ∧ OneFile team.vpnConf part

/-- A refused request is answered once. -/
theorem answeredOnce_requestErr (err : String) : (requestErr err).AnsweredOnce :=
  ⟨by simp [requestErr], rfl⟩

/-- A request is answered once when its message is, if it comes to it. -/
theorem answeredOnce_jsonPost {α : Type} {r : TeamRequest α}
    {endpoint : RequestTeam → α → Handled} :
    (r.jsonPost endpoint).AnsweredOnce ↔
      ∀ team msg, r.Reads team msg → (endpoint team msg).AnsweredOnce := by
  rw [TeamRequest.jsonPost]
  -- The checks of the handlers come first, and each of them replies by itself.
  by_cases hmethod : r.method = "POST"
  · by_cases htype : r.contentType = "application/json"
    · rw [if_neg (not_not.mpr hmethod), if_neg (not_not.mpr htype)]
      cases hteam : r.team with
      | error err =>
        exact iff_of_true (answeredOnce_requestErr err) fun _ _ hreads =>
          nomatch hteam.symm.trans hreads.2.2.1
      | ok team =>
        cases hbody : r.body with
        | error err =>
          exact iff_of_true (answeredOnce_requestErr err) fun _ _ hreads =>
            nomatch hbody.symm.trans hreads.2.2.2
        | ok msg =>
          constructor
          · intro h team' msg' hreads
            cases hteam.symm.trans hreads.2.2.1
            -- The message is read once, so that the team and the text are these.
            cases hbody.symm.trans hreads.2.2.2
            exact h
          · exact fun h => h team msg ⟨hmethod, htype, hteam, hbody⟩
    · rw [if_neg (not_not.mpr hmethod), if_pos htype]
      exact iff_of_true ⟨by simp, rfl⟩ fun _ _ hreads => absurd hreads.2.1 htype
  · rw [if_pos hmethod]
    exact iff_of_true ⟨by simp, rfl⟩ fun _ _ hreads => absurd hreads.1 hmethod

/-- The slice is out of range for a single digit of one byte, and for no other tag. -/
theorem getParentChallengeBytes_eq_none {isDigit : Char → Bool} {child : String} :
    getParentChallengeBytes isDigit child = none ↔ OneDigit isDigit child := by
  have hsize : child.toByteArray.size = child.toList.utf8Encode.size := by
    rw [String.utf8Encode_toList]
  rw [getParentChallengeBytes, GoBytes.runes_toByteArray]
  constructor
  · intro h
    split at h
    · next hany =>
      have hlt := GoBytes.dropLast_eq_none.mp h
      have hle := GoBytes.le_size_utf8Encode child.toList
      -- Two characters have two bytes at least, so that there is only one.
      obtain ⟨d, hd⟩ : ∃ d, child.toList = [d] := by
        cases hlist : child.toList with
        | nil => simp [hlist] at hany
        | cons d ds =>
          cases ds with
          | nil => exact ⟨d, rfl⟩
          | cons d' ds =>
            rw [hlist, List.length_cons, List.length_cons] at hle
            rw [hsize, hlist] at hlt
            omega
      have hpos : 0 < d.utf8Size := d.utf8Size_pos
      refine ⟨d, ?_, ?_, by simpa [hd] using hany⟩
      · rw [← String.ofList_toList (s := child), hd, String.singleton_eq_ofList]
      · rw [hsize, hd, GoBytes.size_utf8Encode_singleton] at hlt
        omega
    · cases h
  · rintro ⟨d, rfl, hone, hdigit⟩
    have hlist : (String.singleton d).toList = [d] := String.toList_singleton d
    rw [hlist, if_pos (by simp [hdigit]), GoBytes.dropLast_eq_none, hsize, hlist,
      GoBytes.size_utf8Encode_singleton, hone]
    decide

variable {c : HandlerConf}

/-- A handler with a hook answers once when its slice is in range and the hook returns. -/
theorem handleParent_answeredOnce_iff
    {hook : RequestTeam → ByteArray → Option (Option String)} {r : TeamRequest String} :
    (c.handleParent hook r).AnsweredOnce ↔ ∀ team tag, r.Reads team tag →
      ¬ OneDigit c.isDigit tag ∧
        ∀ chalTag ∈ getParentChallengeBytes c.isDigit tag, team.team.isLabAssigned = true →
          hook team chalTag ≠ none := by
  rw [HandlerConf.handleParent, answeredOnce_jsonPost]
  refine forall₃_congr fun team tag _ => ?_
  rw [← getParentChallengeBytes_eq_none]
  cases getParentChallengeBytes c.isDigit tag with
  | none => exact iff_of_false (fun h => h.inRange rfl) fun h => h.1 rfl
  | some chalTag =>
    simp only [reduceCtorEq, not_false_eq_true, true_and, Option.mem_def, Option.some.injEq,
      forall_eq']
    by_cases hlab : team.team.isLabAssigned = true
    · simp only [hlab, Bool.not_true, Bool.false_eq_true, if_false, forall_const]
      cases hook team chalTag with
      | none => exact iff_of_false (fun h => by simpa [replyHook] using h.once) (by simp)
      | some result =>
        refine iff_of_true ?_ (by simp)
        cases result <;> exact ⟨by simp [replyHook], rfl⟩
    · have hnot : team.team.isLabAssigned = false := Bool.eq_false_iff.mpr hlab
      simp only [hnot, Bool.not_false, if_true]
      exact iff_of_true (answeredOnce_requestErr _) (by simp)

/-- `VerifyFlag` ends the process exactly when the service refuses the right flag. -/
theorem verifyFlag_fatal_iff (t : Store.TeamChallenges) (tag f : String) (now : Time)
    (db : Option String) :
    (t.verifyFlag tag f now db).2 = some .fatal ↔
      t.challenges.get? f = some ⟨tag, none⟩ ∧ db ≠ none := by
  rw [Store.TeamChallenges.verifyFlag]
  cases hget : t.challenges.get? f with
  | none => simp
  | some chal =>
    obtain ⟨tag', completedAt⟩ := chal
    by_cases htag : tag' = tag
    · cases completedAt with
      | none => cases db <;> simp [htag]
      | some time => simp [htag]
    · simp [htag]

/-- `handleFlagVerify` answers once when its slice is in range and the service takes the flag. -/
theorem handleFlagVerify_answeredOnce_iff {r : TeamRequest VerifyFlagMsg} {now : Time}
    {db : Option String} :
    (c.handleFlagVerify r now db).AnsweredOnce ↔ ∀ team msg, r.Reads team msg →
      ¬ OneDigit c.isDigit msg.tag ∧
        (team.exercises.challenges.challenges.get? (GoStrings.trimSpace msg.flag) =
          some ⟨msg.tag, none⟩ → db = none) := by
  rw [HandlerConf.handleFlagVerify, answeredOnce_jsonPost]
  refine forall₃_congr fun team msg _ => ?_
  have hfatal := verifyFlag_fatal_iff team.exercises.challenges msg.tag
    (GoStrings.trimSpace msg.flag) now db
  rw [← getParentChallengeBytes_eq_none]
  cases getParentChallengeBytes c.isDigit msg.tag with
  | none => exact iff_of_false (fun h => h.inRange rfl) fun h => h.1 rfl
  | some parentTag =>
    have hcond : (some parentTag ≠ none ∧
        (team.exercises.challenges.challenges.get? (GoStrings.trimSpace msg.flag) =
          some ⟨msg.tag, none⟩ → db = none)) ↔
        (team.exercises.challenges.verifyFlag msg.tag (GoStrings.trimSpace msg.flag) now db).2 ≠
          some .fatal := by
      refine Iff.trans ?_ (not_congr hfatal).symm
      simp
    rw [hcond]
    cases hverify : team.exercises.challenges.verifyFlag msg.tag (GoStrings.trimSpace msg.flag)
        now db with
    | mk challenges result =>
      cases result with
      | none => exact iff_of_true ⟨by simp, rfl⟩ (by simp)
      | some err =>
        cases err with
        | failed err => exact iff_of_true ⟨by simp, rfl⟩ (by simp)
        | fatal => exact iff_of_false (fun h => by simpa using h.once) (by simp)

/-- The replies for a number are one when `OneFile` holds. -/
theorem fileHandled_answeredOnce_iff (quote : String → String) (vpnConf : List String)
    (part : String) :
    (fileHandled quote vpnConf part).AnsweredOnce ↔ OneFile vpnConf part := by
  rw [fileHandled, OneFile]
  cases atoi part with
  | mk confID err =>
    by_cases hempty : vpnConf = []
    · -- The first reply is that there is no configuration.
      subst hempty
      have hno : noConn [] = [.errReply 400 noVPNErr] := rfl
      simp only [hno, List.getElem?_nil, if_true]
      -- `Switched` is the test of the `switch` over the number.
      by_cases hswitch : Switched confID
      · simp only [hswitch, if_true]
        exact iff_of_false (fun h => h.inRange rfl) (by simp)
      · simp only [hswitch, if_false]
        cases err with
        | none => exact iff_of_true ⟨by simp, rfl⟩ (by simp)
        | some e => exact iff_of_false (fun h => by simpa using h.once) (by simp)
    · have hno : noConn vpnConf = [] := if_neg hempty
      simp only [hno, hempty, if_false]
      -- The index is in range, or the handler panics before its reply.
      by_cases hswitch : Switched confID
      · simp only [hswitch, if_true]
        have hindex : vpnConf[confID.toNat]? = none ↔ ¬ confID < vpnConf.length := by
          have hpos : 0 ≤ confID := hswitch.1
          rw [List.getElem?_eq_none_iff]
          omega
        cases hconf : vpnConf[confID.toNat]? with
        | none =>
          refine iff_of_false (fun h => h.inRange rfl) ?_
          cases err with
          | none => simpa using hindex.mp hconf
          | some e => simp
        | some conf =>
          have hlt : confID < vpnConf.length := by
            by_contra hnot
            exact Option.some_ne_none conf (hconf ▸ hindex.mpr hnot)
          cases err with
          | none => exact iff_of_true ⟨by simp, by simp⟩ (by simpa using hlt)
          | some e => exact iff_of_false (fun h => by simpa using h.once) (by simp)
      · simp only [hswitch, if_false]
        cases err with
        | none => exact iff_of_false (fun h => by simpa using h.once) (by simp)
        | some e => exact iff_of_true ⟨by simp, by simp⟩ (by simp)

/-- `handleVPNFiles` answers once when there is something to read and the number leads to one
reply. -/
theorem handleVPNFiles_answeredOnce_iff {r : TeamRequest String} :
    (c.handleVPNFiles r).AnsweredOnce ↔ ∀ team, r.team = .ok team →
      match r.body with
      | .error _ => team.vpnConf ≠ []
      | .ok vpnConfID =>
        ∃ part, (GoStrings.split vpnConfID '_')[1]? = some part ∧ OneFile team.vpnConf part := by
  rw [HandlerConf.handleVPNFiles]
  cases r.team with
  | error err => exact iff_of_true (answeredOnce_requestErr err) fun team h => nomatch h
  | ok team =>
    simp only [Except.ok.injEq, forall_eq']
    cases r.body with
    | error err =>
      by_cases hempty : team.vpnConf = []
      · have hno : noConn team.vpnConf = [.errReply 400 noVPNErr] := if_pos hempty
        simp only [hno]
        exact iff_of_false (fun h => by simpa using h.once) fun h => h hempty
      · have hno : noConn team.vpnConf = [] := if_neg hempty
        simp only [hno]
        exact iff_of_true ⟨by simp, rfl⟩ hempty
    | ok vpnConfID =>
      dsimp only
      cases (GoStrings.split vpnConfID '_')[1]? with
      | none => exact iff_of_false (fun h => h.inRange rfl) (by simp)
      | some part => simpa using fileHandled_answeredOnce_iff c.quote team.vpnConf part

/-- A request is answered exactly once if and only if it is answerable. -/
theorem handle_answeredOnce_iff (c : HandlerConf) (req : ClientRequest) :
    (c.handle req).AnsweredOnce ↔ c.Answerable req := by
  cases req with
  | flagVerify r now db => exact handleFlagVerify_answeredOnce_iff
  | resetChallenge r => exact handleParent_answeredOnce_iff
  | startStopChallenge r => exact handleParent_answeredOnce_iff
  | vpnFiles r => exact handleVPNFiles_answeredOnce_iff

/-- A team with a lab. -/
def labTeam : RequestTeam where
  team := { newTeam "1f" "team" with isLabAssigned := true }
  exercises := newTeamExercises [] ∅ ∅
  vpnConf := ["wg0", "wg1"]

/-- Handlers whose hooks always succeed. -/
def fineHooks : HandlerConf where
  recaptcha := false
  eventTag := "ctf"
  isDigit := Char.isDigit
  quote s := "\"" ++ s ++ "\""
  startStop _ _ := some none
  resetExercise _ := some none

/-- A request that gets to its handler. -/
def jsonRequest {α : Type} (msg : α) : TeamRequest α where
  method := "POST"
  contentType := "application/json"
  team := .ok labTeam
  body := .ok msg

/-- A reset of the tag `7` slices out of range, a file without an underscore is an index out of
range, and a file whose number is no number is answered twice. -/
theorem handle_digit_outOfRange :
    ¬ (fineHooks.handle (.resetChallenge (jsonRequest "7"))).AnsweredOnce ∧
      ¬ (fineHooks.handle (.vpnFiles (jsonRequest "conn"))).AnsweredOnce ∧
      (fineHooks.handle (.vpnFiles (jsonRequest "conn_x"))).replies.length = 2 := by
  refine ⟨?_, fun h => h.inRange (by decide), by decide⟩
  rw [handle_answeredOnce_iff]
  intro h
  exact (h labTeam "7" ⟨rfl, rfl, rfl, rfl⟩).1 ⟨'7', rfl, rfl, rfl⟩

/-! ### The parents of children challenges -/

/-- A character of the decimal digits is one byte. -/
theorem size_repr_of_lt {k : Nat} (h : k < 10) : k.repr.toByteArray.size = 1 := by
  interval_cases k <;> rfl

/-- Larger numbers have more digits. -/
theorem two_le_size_repr {k : Nat} (h : 10 ≤ k) : 2 ≤ k.repr.toByteArray.size := by
  have hlength : ¬ (Nat.toDigits 10 k).length ≤ 1 := by
    rw [Nat.length_toDigits_le_iff (by decide) (by decide)]
    omega
  have hle := GoBytes.le_size_utf8Encode k.repr.toList
  rw [String.utf8Encode_toList, Nat.toList_repr] at hle
  omega

/-- The tag of the request. -/
def ClientRequest.HasTag (tag : String) : ClientRequest → Prop
  | .flagVerify r _ _ => ∃ flag, r.body = .ok ⟨tag, flag⟩
  | .resetChallenge r => r.body = .ok tag
  | .startStopChallenge r => r.body = .ok tag
  | .vpnFiles _ => False

/-- The tag leads to its exercise, and its requests act on no other one. -/
structure ActsOn (c : HandlerConf) (parentTag tag : String) : Prop where
  parent : getParentChallengeBytes c.isDigit tag = some parentTag.toByteArray
  acted : ∀ req : ClientRequest, req.HasTag tag →
    ∀ b ∈ (c.handle req).acted, b = parentTag.toByteArray

/-- What a request acts on is in its message. -/
theorem acted_jsonPost {α : Type} {r : TeamRequest α} {endpoint : RequestTeam → α → Handled}
    {b : ByteArray} (hb : b ∈ (r.jsonPost endpoint).acted) :
    ∃ team msg, r.body = .ok msg ∧ b ∈ (endpoint team msg).acted := by
  rw [TeamRequest.jsonPost] at hb
  split at hb
  · exact absurd hb List.not_mem_nil
  · split at hb
    · exact absurd hb List.not_mem_nil
    · split at hb
      · exact absurd hb List.not_mem_nil
      · next team _ =>
        split at hb
        · exact absurd hb List.not_mem_nil
        · next msg hbody => exact ⟨team, msg, hbody, hb⟩

/-- The hook acts on the tag of the challenge. -/
theorem acted_replyHook {chalTag b : ByteArray} {result : Option (Option String)}
    (hb : b ∈ (replyHook chalTag result).acted) : b = chalTag := by
  have hacted : (replyHook chalTag result).acted = [chalTag] := by
    rw [replyHook.eq_def]
    split <;> rfl
  rw [hacted] at hb
  exact List.mem_singleton.mp hb

/-- A handler with a hook acts on what the slice leaves of its tag. -/
theorem acted_handleParent {hook : RequestTeam → ByteArray → Option (Option String)}
    {r : TeamRequest String} {tag : String} (htag : r.body = .ok tag) {b : ByteArray}
    (hb : b ∈ (c.handleParent hook r).acted) : getParentChallengeBytes c.isDigit tag = some b := by
  obtain ⟨team, msg, hmsg, hb⟩ := acted_jsonPost hb
  cases hmsg.symm.trans htag
  cases hparent : getParentChallengeBytes c.isDigit tag with
  | none => simp [hparent] at hb
  | some chalTag =>
    simp only [hparent] at hb
    split at hb
    · exact absurd hb List.not_mem_nil
    · rw [acted_replyHook hb]

/-- A handler acts on what the slice leaves of its tag. -/
theorem acted_eq {req : ClientRequest} {tag : String} (htag : req.HasTag tag) {b : ByteArray}
    (hb : b ∈ (c.handle req).acted) : getParentChallengeBytes c.isDigit tag = some b := by
  cases req with
  | flagVerify r now db =>
    obtain ⟨flag, hflag⟩ := htag
    obtain ⟨team, msg, hmsg, hb⟩ := acted_jsonPost hb
    cases hmsg.symm.trans hflag
    cases hparent : getParentChallengeBytes c.isDigit tag with
    | none => simp [hparent] at hb
    | some parentTag =>
      simp only [hparent] at hb
      split at hb
      · exact absurd hb List.not_mem_nil
      · exact absurd hb List.not_mem_nil
      · -- The goroutine acts on the parent or does nothing.
        split at hb
        · rw [List.mem_singleton.mp hb]
        · exact absurd hb List.not_mem_nil
  | resetChallenge r => exact acted_handleParent htag hb
  | startStopChallenge r => exact acted_handleParent htag hb
  | vpnFiles r => exact htag.elim

/-- A child leads back to its exercise if and only if its number has one digit. -/
theorem child_actsOn_iff (c : HandlerConf) (hdigit : ∀ d, d.isDigit = true → c.isDigit d = true)
    (parentTag : String) (k : Nat) :
    ActsOn c parentTag (parentTag ++ "-" ++ k.repr) ↔ k ≤ 9 := by
  -- The last digit of `k` makes the handler cut two bytes off.
  have hany : (GoBytes.runes (parentTag ++ "-" ++ k.repr).toByteArray).any c.isDigit = true := by
    obtain ⟨d, hd⟩ := List.exists_mem_of_ne_nil _ (Nat.toDigits_ne_nil (n := k) (b := 10))
    have hmem : d ∈ (parentTag ++ "-" ++ k.repr).toList := by
      rw [String.toList_append, Nat.toList_repr]
      exact List.mem_append_right _ hd
    rw [GoBytes.runes_toByteArray, List.any_eq_true]
    exact ⟨d, hmem, hdigit d (Nat.isDigit_of_mem_toDigits (by decide) (by decide) hd)⟩
  have hbytes : (parentTag ++ "-" ++ k.repr).toByteArray =
      parentTag.toByteArray ++ ("-" ++ k.repr).toByteArray := by
    rw [String.append_assoc, String.toByteArray_append]
  have hsuffix : ("-" ++ k.repr).toByteArray.size = 1 + k.repr.toByteArray.size := by
    rw [String.toByteArray_append, ByteArray.size_append]
    rfl
  have hparent : getParentChallengeBytes c.isDigit (parentTag ++ "-" ++ k.repr) =
      GoBytes.dropLast (parentTag.toByteArray ++ ("-" ++ k.repr).toByteArray) 2 := by
    rw [getParentChallengeBytes, if_pos hany, hbytes]
  constructor
  · intro h
    by_contra hk
    have hlarge := two_le_size_repr (Nat.lt_of_not_le hk)
    have hsize := GoBytes.size_of_dropLast (hparent.symm.trans h.parent)
    rw [ByteArray.size_append] at hsize
    omega
  · intro hk
    have hsize := size_repr_of_lt (Nat.lt_succ_of_le hk)
    have hown : getParentChallengeBytes c.isDigit (parentTag ++ "-" ++ k.repr) =
        some parentTag.toByteArray := by
      have htwo : ("-" ++ k.repr).toByteArray.size = 2 := by omega
      rw [hparent, ← htwo, GoBytes.dropLast_append]
    refine ⟨hown, fun req htag b hb => ?_⟩
    have heq := (acted_eq htag hb).symm.trans hown
    exact Option.some.inj heq

/-- The first child of `sql`. -/
theorem child_actsOn_first : ActsOn fineHooks "sql" ("sql" ++ "-" ++ Nat.repr 1) :=
  (child_actsOn_iff fineHooks (fun _ h => h) "sql" 1).mpr (by decide)

/-- The child 100 of `sql` leads to `sql-1`. -/
theorem child_hundred :
    validateTag "sql" = none ∧
      getParentChallengeBytes fineHooks.isDigit ("sql" ++ "-" ++ Nat.repr 100) =
        some "sql-1".toByteArray ∧
      ¬ ActsOn fineHooks "sql" ("sql" ++ "-" ++ Nat.repr 100) := by
  refine ⟨by decide, getParentChallengeBytes_of_tag (by decide), ?_⟩
  rw [child_actsOn_iff fineHooks fun _ h => h]
  decide

/-- `handleStartStopChallenge` replies what it answers for the text of the parent. -/
theorem handleStartStopChallenge_replies {team : RequestTeam} {tag chalTag : String}
    (hparent : getParentChallengeTag c.isDigit tag = some chalTag) {r : TeamRequest String}
    (hreads : r.Reads team tag) :
    (c.handleStartStopChallenge r).replies =
      match (handleStartStopChallenge c.isDigit c.eventTag
        (fun challengeTag => c.startStop challengeTag.toByteArray) team.toTeamView (.ok tag)).2 with
      | .ok => [.ok]
      | .error err => [.errReply 400 err]
      | .panicked => [] := by
  obtain ⟨hmethod, htype, hteam, hbody⟩ := hreads
  have hbytes := getParentChallengeBytes_of_tag hparent
  have hdisabled : isDisabled team.exercises chalTag.toByteArray =
      (team.exercises.manageDisabledChals chalTag).2 := by
    rw [isDisabled, text?_toByteArray, TeamExercises.manageDisabledChals_snd, Option.any_some]
  rw [HandlerConf.handleStartStopChallenge, HandlerConf.handleParent, TeamRequest.jsonPost,
    if_neg (not_not.mpr hmethod), if_neg (not_not.mpr htype), hteam, hbody]
  simp only [hbytes, hdisabled, handleStartStopChallenge, hparent]
  by_cases hlab : team.team.isLabAssigned = true
  · simp only [hlab, Bool.not_true, Bool.false_eq_true, if_false]
    cases c.startStop chalTag.toByteArray (team.exercises.manageDisabledChals chalTag).2 with
    | none => rfl
    | some result => cases result <;> rfl
  · have hnot : team.team.isLabAssigned = false := Bool.eq_false_iff.mpr hlab
    simp only [hnot, Bool.not_false, if_true, requestErr]

end Haaukins.Amigo
