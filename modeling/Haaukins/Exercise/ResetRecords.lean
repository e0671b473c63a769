import Haaukins.Exercise.DNSRecords

/-!
# `Haaukins.Exercise.ResetRecords`: the DNS records of an exercise that is reset
(`exercise/exercise.go`)

`Reset` runs `Create` again on the same exercise. The containers keep their numbers, but
`dnsRecords` is a field that `Create` appends to, so each `Reset` adds the records once more.
`resets_same_iff` says when a sequence of resets leaves the records as they were after the first
`Create`.
-/

set_option autoImplicit false

namespace Haaukins.Exercise

namespace DNSExercise

variable {format : Int → String} {digit : Nat → Nat} {e e' : DNSExercise}

/-- Calls of `Reset` one after another, with the numbers that `Connect` would give in each. -/
def resets (format : Int → String) (digits : List (Nat → Nat)) (e : DNSExercise) :
    Option DNSExercise :=
  digits.foldlM (fun e digit => e.reset format digit) e

/-- `e'` has the records of `e`, and `refreshDNS` makes the same zone of them. The containers are
connected at the same numbers. -/
structure SameRecords (e e' : DNSExercise) : Prop where
  dnsRecords : e'.dnsRecords = e.dnsRecords
  zone : ∀ (s : DNSEnvironment) (before after : List DNSExercise),
    ({ s with exercises := before ++ e' :: after } : DNSEnvironment).refreshDNS.dnsServer =
      ({ s with exercises := before ++ e :: after } : DNSEnvironment).refreshDNS.dnsServer
  ips : e'.ips = e.ips
  connected : e'.connected = e'.ips

/-- A creation that ends well gives the created exercise. -/
theorem create_eq_some (h : e.create format digit = some e') : e' = e.created format digit := by
  unfold create at h
  split at h
  · cases h
  · exact (Option.some.inj h).symm

/-- After the first `Create` the records are those of the containers. -/
theorem wf_create {conf : RecordExercise} (h : conf.newExercise.create format digit = some e) :
    e.WF format := by
  have heq := create_eq_some h
  subst heq
  refine ⟨rfl, fun hstatic => ?_, fun _ => conf.newExercise.length_lastDigits digit, fun r => ?_⟩
  · -- Without a network there is no container.
    have hempty : conf.containerOpts = [] := by
      have hstatic : conf.newExercise.static = true := hstatic
      have hopts : conf.newExercise.containerOpts = conf.containerOpts := rfl
      simpa [create, hstatic, hopts] using h
    show (List.range conf.containerOpts.length).map digit = []
    rw [hempty]
    rfl
  · show r ∈ [] ++ _ ↔ _
    rw [List.nil_append]
    rfl

/-- Each `Reset` appends the records of the containers. -/
theorem WF.resets (h : e.WF format) {digits : List (Nat → Nat)}
    (hresets : e.resets format digits = some e') :
    e'.WF format ∧ e'.ips = e.ips ∧ e'.containerOpts = e.containerOpts ∧
      e'.dnsRecords =
        e.dnsRecords ++ (List.replicate digits.length (e.filled format e.ips)).flatten := by
  induction digits generalizing e with
  | nil =>
    obtain rfl := Option.some.inj hresets
    exact ⟨h, rfl, rfl, by simp⟩
  | cons digit digits ih =>
    obtain ⟨e₁, hreset, hrest⟩ := Option.bind_eq_some_iff.mp hresets
    obtain rfl := h.reset hreset
    obtain ⟨hwf, hips, hopts, hrecords⟩ := ih h.renewed hrest
    refine ⟨hwf, hips, hopts, ?_⟩
    rw [hrecords, List.length_cons, List.replicate_succ, List.flatten_cons, ← List.append_assoc]
    rfl

/-- Nothing is filled in if and only if no container has records. -/
theorem filled_eq_nil_iff {lastDigits : List Nat}
    (hlength : lastDigits.length = e.containerOpts.length) :
    e.filled format lastDigits = [] ↔ ∀ c ∈ e.containerOpts, c.records = [] := by
  rw [filled, List.flatMap_eq_nil_iff]
  constructor
  · intro h c hc
    have hzip : (e.containerOpts.zip lastDigits).map Prod.fst = e.containerOpts :=
      List.map_fst_zip hlength.ge
    rw [← hzip] at hc
    obtain ⟨p, hp, rfl⟩ := List.mem_map.mp hc
    exact List.map_eq_nil_iff.mp (h p hp)
  · intro h p hp
    rw [h p.1 (List.of_mem_zip hp).1, List.map_nil]

end DNSExercise

open DNSExercise in
/-- Resets leave the records of an exercise as they were after its first `Create` exactly when
there is no reset, or no container has a record. -/
theorem resets_same_iff (format : Int → String) (conf : RecordExercise) (digit : Nat → Nat)
    (digits : List (Nat → Nat)) {e e' : DNSExercise}
    (hcreate : conf.newExercise.create format digit = some e)
    (hresets : e.resets format digits = some e') :
    e.SameRecords e' ↔ digits = [] ∨ ∀ c ∈ conf.containerOpts, c.records = [] := by
  obtain ⟨hwf, hips, -, hrecords⟩ := (wf_create hcreate).resets hresets
  have heq := create_eq_some hcreate
  have hnil : e.filled format e.ips = [] ↔ ∀ c ∈ conf.containerOpts, c.records = [] := by
    subst heq
    exact filled_eq_nil_iff (conf.newExercise.length_lastDigits digit)
  have hsame : e'.dnsRecords = e.dnsRecords ↔
      digits = [] ∨ ∀ c ∈ conf.containerOpts, c.records = [] := by
    rw [hrecords, List.append_right_eq_self, List.flatten_eq_nil_iff, ← hnil]
    simp only [List.mem_replicate, and_imp]
    constructor
    · intro h
      refine or_iff_not_imp_left.mpr fun hne => h _ ?_ rfl
      exact mt List.eq_nil_of_length_eq_zero hne
    · rintro (rfl | h) l hlength rfl
      · exact absurd rfl hlength
      · exact h
  constructor
  · exact fun h => hsame.mp h.dnsRecords
  · intro h
    have hdns := hsame.mpr h
    refine ⟨hdns, fun s before after => ?_, hips, hwf.connected⟩
    simp only [DNSEnvironment.refreshDNS, List.flatMap_append, List.flatMap_cons, hdns]

/-- An exercise whose container has a record. -/
def ftpConf : RecordExercise := ⟨"ftp", false, [⟨"ftp", [⟨"A", "ftp.com", ""⟩]⟩]⟩

/-- A container without records is reset twice, and one with a record is not reset. -/
theorem resets_same_web :
    let conf : RecordExercise := ⟨"web", false, [⟨"web", []⟩]⟩
    (∃ e e', conf.newExercise.create (DNSEnvironment.new 77 1 2).network.formatIP (fun _ => 30) =
        some e ∧
      e.resets (DNSEnvironment.new 77 1 2).network.formatIP [fun _ => 31, fun _ => 32] = some e' ∧
      e.SameRecords e') ∧
    ∃ e e', ftpConf.newExercise.create (DNSEnvironment.new 77 1 2).network.formatIP
        (fun _ => 30) = some e ∧
      e.resets (DNSEnvironment.new 77 1 2).network.formatIP [] = some e' ∧
      e.dnsRecords.length = 1 ∧ e.SameRecords e' := by
  refine ⟨⟨_, _, rfl, rfl, ?_⟩, _, _, rfl, rfl, rfl, ?_⟩
  · exact (resets_same_iff (DNSEnvironment.new 77 1 2).network.formatIP
      ⟨"web", false, [⟨"web", []⟩]⟩ (fun _ => 30) [fun _ => 31, fun _ => 32] rfl rfl).mpr
      (.inr (by decide))
  · exact (resets_same_iff (DNSEnvironment.new 77 1 2).network.formatIP ftpConf (fun _ => 30) []
      rfl rfl).mpr (.inl rfl)

/-- A container with one record is reset once, and has the record twice. -/
theorem resets_not_same :
    ∃ e e', ftpConf.newExercise.create (DNSEnvironment.new 77 1 2).network.formatIP
        (fun _ => 30) = some e ∧
      e.resets (DNSEnvironment.new 77 1 2).network.formatIP [fun _ => 31] = some e' ∧
      ¬ e.SameRecords e' := by
  refine ⟨_, _, rfl, rfl, fun h => ?_⟩
  have hlength := congrArg List.length h.dnsRecords
  exact absurd hlength (by decide)

end Haaukins.Exercise
