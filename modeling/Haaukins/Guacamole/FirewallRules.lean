import Haaukins.Guacamole.Event
import Haaukins.Lib.Machine
import Haaukins.Lib.Overlay

/-!
# `Haaukins.Guacamole.FirewallRules`: the chain of all events (`svcs/guacamole/event.go`)

All VPN events of the daemon insert into the one chain `DOCKER-USER`, and delete from it. The
machine `firewall` runs their calls of `CreateVPNConn` and of `Close` side by side, one `iptables`
command at a time, and each command succeeds.

* A `VPNEvent` has its `ipRules`, its calls of `CreateVPNConn` that have made their peers, and
  where its `Close` is. Nothing in the source keeps the two apart.
* The entries that an event owns in the chain are `VPNEvent.owned`. `step_owned` says that each
  command inserts or deletes what the event owns more or less after it.
* `Orderly` says that a call of `CreateVPNConn` is over before the event gets to
  `removeIPTableRules`, and that none comes later. `firewall_restored` is about the runs of such
  steps.
* `run_createCalls` and `run_loopCalls` are the calls that no other call interrupts. They are
  `createRules` and `removeIPTableRules`.
-/

set_option autoImplicit false

namespace Haaukins.Guacamole

/-- The three rules of a team, in the order in which they are inserted. -/
def IPRules.rules (r : IPRules) : List Rule :=
  [.reject r.labsubnet, .state r.labsubnet, .accept r.labsubnet r.vpnIps]

/-- An `iptables` command of a step. -/
inductive Command where
  | none
  | insert (r : Rule)
  | delete (r : Rule)
  deriving DecidableEq

/-- The command, which succeeds. -/
def Command.run : Command → Chain → Chain
  | .none, chain => chain
  | .insert r, chain => chain.insertRule r true
  | .delete r, chain => chain.deleteRule r true

/-- A call of `CreateVPNConn` that has made the peers of its team. -/
structure ConnCall where
  team : String
  ipRules : IPRules
  /-- The rules that it has inserted. -/
  inserted : List Rule
  /-- The rules that it has still to insert. -/
  left : List Rule
  deriving DecidableEq

/-- Where `Close` is. -/
inductive ClosePhase where
  | opened
  /-- In the loop of `removeIPTableRules`, with the entries to visit and the rules of the visited
  entry that are still to be deleted. -/
  | closing (unvisited : List IPRules) (left : List Rule)
  | closed
  deriving DecidableEq

/-- What `CreateVPNConn` and `Close` of one event share. -/
structure VPNEvent where
  ipRules : GoMap String IPRules
  calls : List ConnCall
  phase : ClosePhase

/-- The next step of one event. -/
inductive RuleAction where
  /-- A call of `CreateVPNConn` gets to `createRejectRule`. -/
  | create (tid : String) (ipRules : IPRules)
  /-- The next command of a call. -/
  | insert (call : Nat)
  /-- The assignment to `ev.ipRules`. A loop that is running visits the new entry or not. -/
  | record (call : Nat) (visit : Bool)
  /-- `Close` gets to `removeIPTableRules`. -/
  | close
  /-- The loop takes one more entry of the map, in any order. -/
  | visit (entry : Nat)
  /-- The next command for the entry. -/
  | delete
  /-- `Close` returns. -/
  | closed

namespace VPNEvent

/-- The event of `NewEvent`. -/
def new : VPNEvent := { ipRules := ∅, calls := [], phase := .opened }

variable (ev : VPNEvent)

/-- The entries that `removeIPTableRules` has still to visit. -/
def unvisited : List IPRules :=
  match ev.phase with
  | .opened => ev.ipRules.values
  | .closing unvisited _ => unvisited
  | .closed => []

/-- The rules of the visited entry that are still in the chain. -/
def visited : List Rule :=
  match ev.phase with
  | .closing _ left => left
  | _ => []

/-- The rules that the event has in the chain and is going to delete, or has still to record. -/
def owned : List Rule :=
  ev.unvisited.flatMap IPRules.rules ++ (ev.visited ++ ev.calls.flatMap ConnCall.inserted)

/-- The step of an event, and its command. -/
def step : RuleAction → Option (VPNEvent × Command)
  | .create tid ipRules =>
    -- Each team is configured once.
    if tid ∈ ev.ipRules ∨ ∃ call ∈ ev.calls, call.team = tid then none
    else
      let call : ConnCall :=
        { team := tid, ipRules := ipRules, inserted := [], left := ipRules.rules }
      some ({ ev with calls := call :: ev.calls }, .none)
  | .insert i =>
    match ev.calls[i]? with
    | some { team, ipRules, inserted, left := r :: left } =>
      let call : ConnCall :=
        { team := team, ipRules := ipRules, inserted := r :: inserted, left := left }
      some ({ ev with calls := ev.calls.set i call }, .insert r)
    | _ => none
  | .record i visit =>
    match ev.calls[i]? with
    | some { team, ipRules, left := [], .. } =>
      let phase : ClosePhase :=
        match ev.phase with
        | .closing unvisited left =>
          .closing (if visit then ipRules :: unvisited else unvisited) left
        | phase => phase
      some ({ ipRules := ev.ipRules.set team ipRules, calls := ev.calls.eraseIdx i
              phase := phase }, .none)
    | _ => none
  | .close =>
    match ev.phase with
    | .opened => some ({ ev with phase := .closing ev.ipRules.values [] }, .none)
    | _ => none
  | .visit i =>
    match ev.phase with
    | .closing unvisited [] =>
      (unvisited[i]?).map fun ipRules =>
        ({ ev with phase := .closing (unvisited.eraseIdx i) ipRules.rules }, .none)
    | _ => none
  | .delete =>
    match ev.phase with
    | .closing unvisited (r :: left) =>
      some ({ ev with phase := .closing unvisited left }, .delete r)
    | _ => none
  | .closed =>
    match ev.phase with
    | .closing [] [] => some ({ ev with phase := .closed }, .none)
    | _ => none

end VPNEvent

/-- The chain and the VPN events of the daemon. -/
structure Firewall where
  chain : Chain
  events : List VPNEvent

/-- The events have not begun, and the chain has other rules. -/
def Firewall.new (init : Chain) (n : Nat) : Firewall :=
  { chain := init, events := List.replicate n .new }

/-- The calls of the events, in any order. An action is the step of one event. -/
def firewall : Machine Firewall (Nat × RuleAction) where
  init s := ∃ init n, s = .new init n
  step s a :=
    (s.events[a.1]?).bind fun ev =>
      (ev.step a.2).map fun (ev, command) =>
        { chain := command.run s.chain, events := s.events.set a.1 ev }

namespace VPNEvent

variable {ev ev' : VPNEvent} {command : Command}

/-- The call of `CreateVPNConn` comes while the event is open, and `Close` gets to the rules when
no call is left. -/
def Orderly (ev : VPNEvent) : RuleAction → Prop
  | .create _ _ => ev.phase = .opened
  | .close => ev.calls = []
  | _ => True

instance (ev : VPNEvent) (a : RuleAction) : Decidable (ev.Orderly a) := by
  cases a <;> unfold Orderly <;> infer_instance

/-- What holds of an event between orderly steps. -/
structure Inv (ev : VPNEvent) : Prop where
  /-- A call has inserted the first of its rules. -/
  inserted : ∀ call ∈ ev.calls, call.inserted.reverse ++ call.left = call.ipRules.rules
  /-- The team of a call is not configured yet. -/
  teams : ∀ call ∈ ev.calls, call.team ∉ ev.ipRules
  nodup : (ev.calls.map ConnCall.team).Nodup
  /-- No call is left when the event is not open. -/
  separate : ev.phase ≠ .opened → ev.calls = []

/-- A new event has no rules. -/
theorem inv_new : new.Inv where
  inserted := fun _ h => absurd h List.not_mem_nil
  teams := fun _ h => absurd h List.not_mem_nil
  nodup := List.nodup_nil
  separate := fun _ => rfl

/-- What a command inserts, its event owns from then on, and what it deletes was its own. -/
def Owns (owned owned' : List Rule) : Command → Prop
  | .none => owned.Perm owned'
  | .insert r => (r :: owned).Perm owned'
  | .delete r => owned.Perm (r :: owned')

/-- The rules of an open event are those of its teams and of its calls. -/
theorem owned_opened (ev : VPNEvent) (h : ev.phase = .opened) :
    ev.owned = ev.ipRules.values.flatMap IPRules.rules ++
      ev.calls.flatMap ConnCall.inserted := by
  simp only [owned, unvisited, visited, h, List.nil_append]

/-- The rules of an event whose `Close` is in the loop. -/
theorem owned_closing (ev : VPNEvent) {unvisited : List IPRules} {left : List Rule}
    (h : ev.phase = .closing unvisited left) :
    ev.owned = unvisited.flatMap IPRules.rules ++
      (left ++ ev.calls.flatMap ConnCall.inserted) := by
  simp only [owned, VPNEvent.unvisited, visited, h]

/-- A closed event has none either. -/
theorem owned_closed (h : ev.phase = .closed) (hinv : ev.Inv) : ev.owned = [] := by
  have hcalls : ev.calls = [] := hinv.separate (by rw [h]; decide)
  simp only [owned, unvisited, visited, h, hcalls, List.flatMap_nil, List.append_nil]

/-- A call gives its rules to the map of an open event. -/
theorem record_owned {i : Nat} {call : ConnCall} (hinv : ev.Inv) (hopened : ev.phase = .opened)
    (hcall : ev.calls[i]? = some call) (hleft : call.left = []) :
    ev.owned.Perm (VPNEvent.owned { ipRules := ev.ipRules.set call.team call.ipRules
                                    calls := ev.calls.eraseIdx i, phase := .opened }) := by
  have hmem : call ∈ ev.calls := List.mem_of_getElem? hcall
  have hrules : call.inserted.reverse = call.ipRules.rules := by
    have hinserted := hinv.inserted call hmem
    rwa [hleft, List.append_nil] at hinserted
  obtain ⟨others, hperm, -, herase⟩ := flatMap_set_perm hcall ConnCall.inserted
  rw [owned_opened ev hopened, owned_opened _ rfl,
    GoMap.values_set_of_notMem (hinv.teams call hmem), List.flatMap_cons, ← hrules]
  have hcalls : (ev.ipRules.values.flatMap IPRules.rules ++
      ev.calls.flatMap ConnCall.inserted).Perm
        (ev.ipRules.values.flatMap IPRules.rules ++ (call.inserted ++ others)) :=
    hperm.append_left _
  have hfront : (ev.ipRules.values.flatMap IPRules.rules ++ (call.inserted ++ others)).Perm
      (call.inserted ++ (ev.ipRules.values.flatMap IPRules.rules ++ others)) := by
    rw [← List.append_assoc, ← List.append_assoc]
    exact List.perm_append_comm.append_right others
  refine hcalls.trans (hfront.trans ?_)
  rw [List.append_assoc]
  exact (List.reverse_perm _).symm.append (herase.symm.append_left _)

/-- A call is in flight, so the event is open. -/
theorem Inv.opened_of_call (hinv : ev.Inv) {call : ConnCall} (hmem : call ∈ ev.calls) :
    ev.phase = .opened := by
  by_contra hphase
  rw [hinv.separate hphase] at hmem
  cases hmem

/-- A change of the phase, when no call is left. -/
theorem Inv.set_phase (hinv : ev.Inv) (hcalls : ev.calls = []) (phase : ClosePhase) :
    VPNEvent.Inv { ev with phase := phase } where
  inserted := hinv.inserted
  teams := hinv.teams
  nodup := hinv.nodup
  separate := fun _ => hcalls

/-- What an orderly step can do to an event that meets the invariant. -/
inductive Change (ev : VPNEvent) : RuleAction → VPNEvent → Command → Prop where
  | create (tid : String) (ipRules : IPRules) (hopened : ev.phase = .opened)
      (hmap : tid ∉ ev.ipRules) (hcalls : ∀ call ∈ ev.calls, call.team ≠ tid) :
      Change ev (.create tid ipRules)
        { ev with
          calls := { team := tid, ipRules := ipRules, inserted := [], left := ipRules.rules } ::
            ev.calls } .none
  | insert (i : Nat) (call : ConnCall) (r : Rule) (left : List Rule)
      (hcall : ev.calls[i]? = some call) (hleft : call.left = r :: left) :
      Change ev (.insert i)
        { ev with
          calls := ev.calls.set i { call with inserted := r :: call.inserted, left := left } }
        (.insert r)
  | record (i : Nat) (visit : Bool) (call : ConnCall) (hopened : ev.phase = .opened)
      (hcall : ev.calls[i]? = some call) (hleft : call.left = []) :
      Change ev (.record i visit)
        { ipRules := ev.ipRules.set call.team call.ipRules, calls := ev.calls.eraseIdx i
          phase := .opened } .none
  | close (hopened : ev.phase = .opened) (hcalls : ev.calls = []) :
      Change ev .close { ev with phase := .closing ev.ipRules.values [] } .none
  | visit (i : Nat) (unvisited : List IPRules) (ipRules : IPRules)
      (hclosing : ev.phase = .closing unvisited []) (hentry : unvisited[i]? = some ipRules)
      (hcalls : ev.calls = []) :
      Change ev (.visit i)
        { ev with phase := .closing (unvisited.eraseIdx i) ipRules.rules } .none
  | delete (unvisited : List IPRules) (r : Rule) (left : List Rule)
      (hclosing : ev.phase = .closing unvisited (r :: left)) (hcalls : ev.calls = []) :
      Change ev .delete { ev with phase := .closing unvisited left } (.delete r)
  | closed (hclosing : ev.phase = .closing [] []) (hcalls : ev.calls = []) :
      Change ev .closed { ev with phase := .closed } .none

/-- Each orderly step is one of the changes. -/
theorem step_change {a : RuleAction} (hinv : ev.Inv) (hok : ev.Orderly a)
    (h : ev.step a = some (ev', command)) : ev.Change a ev' command := by
  cases a with
  | create tid ipRules =>
    -- Each action has its guard in front; with it the change is the one of its name.
    rw [step] at h
    split at h
    · cases h
    · next hnew =>
      cases h
      obtain ⟨hmap, hcalls⟩ := not_or.mp hnew
      exact .create tid ipRules hok hmap fun call hcall hteam => hcalls ⟨call, hcall, hteam⟩
  | insert i =>
    rw [step] at h
    split at h
    · next team ipRules inserted r left hcall =>
      cases h
      exact .insert i _ r left hcall rfl
    · cases h
  | record i visit =>
    rw [step] at h
    split at h
    · next team ipRules inserted hcall =>
      -- A call that is at work keeps the event open.
      have hopened := hinv.opened_of_call (List.mem_of_getElem? hcall)
      simp only [hopened] at h
      cases h
      exact .record i visit _ hopened hcall rfl
    · cases h
  | close =>
    rw [step] at h
    split at h
    · next hopened =>
      cases h
      exact .close hopened hok
    · cases h
  | visit i =>
    rw [step] at h
    split at h
    · next unvisited hclosing =>
      obtain ⟨ipRules, hentry, heq⟩ := Option.map_eq_some_iff.mp h
      cases heq
      exact .visit i unvisited ipRules hclosing hentry (hinv.separate (by simp [hclosing]))
    · cases h
  | delete =>
    rw [step] at h
    split at h
    · next unvisited r left hclosing =>
      cases h
      exact .delete unvisited r left hclosing (hinv.separate (by simp [hclosing]))
    · cases h
  | closed =>
    rw [step] at h
    split at h
    · next hclosing =>
      cases h
      exact .closed hclosing (hinv.separate (by simp [hclosing]))
    · cases h

/-- An orderly step changes what the event owns by the rule of its command. -/
theorem Change.owned {a : RuleAction} (h : ev.Change a ev' command) (hinv : ev.Inv) :
    Owns ev.owned ev'.owned command := by
  cases h with
  | create tid ipRules hopened =>
    -- The call has inserted nothing.
    show ev.owned.Perm (VPNEvent.owned { ev with calls := _ :: ev.calls })
    rw [owned_opened ev hopened, owned_opened { ev with calls := _ :: ev.calls } hopened]
    exact .refl _
  | insert i call r left hcall =>
    have hopened := hinv.opened_of_call (List.mem_of_getElem? hcall)
    obtain ⟨others, hperm, hset, -⟩ := flatMap_set_perm hcall ConnCall.inserted
    show (r :: ev.owned).Perm (VPNEvent.owned { ev with calls := ev.calls.set i _ })
    rw [owned_opened ev hopened, owned_opened { ev with calls := ev.calls.set i _ } hopened]
    have hnew : (r :: ev.calls.flatMap ConnCall.inserted).Perm
        ((ev.calls.set i { call with inserted := r :: call.inserted
                                     left := left }).flatMap ConnCall.inserted) :=
      (hperm.cons r).trans (hset { call with inserted := r :: call.inserted, left := left }).symm
    exact List.perm_middle.symm.trans (hnew.append_left _)
  | record i visit call hopened hcall hleft => exact record_owned hinv hopened hcall hleft
  | close hopened =>
    show ev.owned.Perm (VPNEvent.owned { ev with phase := .closing ev.ipRules.values [] })
    rw [owned_opened ev hopened, owned_closing _ rfl]
    exact .refl _
  | visit i unvisited ipRules hclosing hentry =>
    obtain ⟨others, hperm, -, herase⟩ := flatMap_set_perm hentry IPRules.rules
    show ev.owned.Perm
      (VPNEvent.owned { ev with phase := .closing (unvisited.eraseIdx i) ipRules.rules })
    rw [owned_closing ev hclosing, owned_closing _ rfl, List.nil_append, ← List.append_assoc]
    have hentries : (unvisited.flatMap IPRules.rules).Perm
        ((unvisited.eraseIdx i).flatMap IPRules.rules ++ ipRules.rules) :=
      (hperm.trans List.perm_append_comm).trans (herase.symm.append_right _)
    exact hentries.append_right _
  | delete unvisited r left hclosing =>
    show ev.owned.Perm (r :: VPNEvent.owned { ev with phase := .closing unvisited left })
    rw [owned_closing ev hclosing, owned_closing _ rfl]
    exact List.perm_middle
  | closed hclosing hcalls =>
    show ev.owned.Perm (VPNEvent.owned { ev with phase := .closed })
    rw [owned_closing ev hclosing, owned_closed rfl (hinv.set_phase hcalls _), hcalls]
    exact .refl _

/-- The calls of an open event, after a change of one of them. -/
theorem Inv.set_call (hinv : ev.Inv) {i : Nat} {call call' : ConnCall}
    (hcall : ev.calls[i]? = some call) (hteam : call'.team = call.team)
    (hinserted : call'.inserted.reverse ++ call'.left = call'.ipRules.rules) :
    VPNEvent.Inv { ev with calls := ev.calls.set i call' } := by
  have hmem : call ∈ ev.calls := List.mem_of_getElem? hcall
  have hteams : (ev.calls.set i call').map ConnCall.team = ev.calls.map ConnCall.team := by
    obtain ⟨hi, rfl⟩ := List.getElem?_eq_some_iff.mp hcall
    have hi' : i < (ev.calls.map ConnCall.team).length := by rwa [List.length_map]
    have hget : ev.calls[i].team = (ev.calls.map ConnCall.team)[i] :=
      (List.getElem_map ConnCall.team).symm
    rw [List.map_set, hteam, hget, List.set_getElem_self]
  refine ⟨fun call₁ hcall₁ => ?_, fun call₁ hcall₁ => ?_, ?_, fun hphase => ?_⟩
  · rcases List.mem_or_eq_of_mem_set hcall₁ with hold | rfl
    · exact hinv.inserted call₁ hold
    · exact hinserted
  · rcases List.mem_or_eq_of_mem_set hcall₁ with hold | rfl
    · exact hinv.teams call₁ hold
    · rw [hteam]
      exact hinv.teams call hmem
  · show ((ev.calls.set i call').map ConnCall.team).Nodup
    rw [hteams]
    exact hinv.nodup
  · exact absurd (hinv.opened_of_call hmem) hphase

/-- Each change keeps the invariant. -/
theorem Change.inv {a : RuleAction} (h : ev.Change a ev' command) (hinv : ev.Inv) :
    ev'.Inv := by
  cases h with
  | create tid ipRules hopened hmap hcalls =>
    refine ⟨fun call hcall => ?_, fun call hcall => ?_, ?_, fun hphase => absurd hopened hphase⟩
    · rcases List.mem_cons.mp hcall with rfl | hold
      · rfl
      · exact hinv.inserted call hold
    · rcases List.mem_cons.mp hcall with rfl | hold
      · exact hmap
      · exact hinv.teams call hold
    · refine List.nodup_cons.mpr ⟨fun hmem => ?_, hinv.nodup⟩
      obtain ⟨call, hcall, hteam⟩ := List.mem_map.mp hmem
      exact hcalls call hcall hteam
  | insert i call r left hcall hleft =>
    have hinserted := hinv.inserted _ (List.mem_of_getElem? hcall)
    refine hinv.set_call hcall rfl ?_
    rw [← hinserted, hleft, List.reverse_cons, List.append_assoc]
    rfl
  | record i visit call hopened hcall hleft =>
    have hsub := List.eraseIdx_sublist ev.calls i
    -- Two calls for one team are not in flight together.
    have hothers : call.team ∉ (ev.calls.eraseIdx i).map ConnCall.team := by
      obtain ⟨hi, hget⟩ := List.getElem?_eq_some_iff.mp hcall
      have hperm := (List.getElem_cons_eraseIdx_perm hi).map ConnCall.team
      rw [List.map_cons, hget] at hperm
      exact (List.nodup_cons.mp (hperm.nodup_iff.mpr hinv.nodup)).1
    refine ⟨fun call' hcall' => hinv.inserted call' (hsub.subset hcall'), fun call' hcall' => ?_,
      (hsub.map _).nodup hinv.nodup, fun hphase => absurd rfl hphase⟩
    intro hin
    rcases GoMap.mem_set.mp hin with heq | hin
    · have hteam : call'.team ∈ (ev.calls.eraseIdx i).map ConnCall.team :=
        List.mem_map_of_mem hcall'
      rw [heq] at hteam
      exact absurd hteam hothers
    · exact hinv.teams call' (hsub.subset hcall') hin
  | close _ hcalls => exact hinv.set_phase hcalls _
  | visit _ _ _ _ _ hcalls => exact hinv.set_phase hcalls _
  | delete _ _ _ _ hcalls => exact hinv.set_phase hcalls _
  | closed _ hcalls => exact hinv.set_phase hcalls _

end VPNEvent

namespace Firewall

/-- All events are closed, and then the chain is the one from before. -/
def Restored (init : Chain) (s : Firewall) : Prop :=
  (∀ ev ∈ s.events, ev.phase = .closed) → s.chain = init

/-- The three rules of each configured team of an open event are in the chain. -/
def Guarded (s : Firewall) : Prop :=
  ∀ ev ∈ s.events, ev.phase = .opened → ∀ tid r, ev.ipRules.get? tid = some r →
    ∀ rule ∈ r.rules, rule ∈ s.chain

/-- The step is an orderly one of its event. -/
def Orderly (s : Firewall) (a : Nat × RuleAction) : Prop :=
  ∀ ev ∈ s.events[a.1]?, ev.Orderly a.2

instance (s : Firewall) (a : Nat × RuleAction) : Decidable (s.Orderly a) := by
  unfold Orderly
  infer_instance

/-- The chain is the one from before with the rules on top that the events own. -/
structure Inv (init : Chain) (s : Firewall) : Prop where
  events : ∀ ev ∈ s.events, ev.Inv
  chain : Overlay init s.chain (s.events.flatMap VPNEvent.owned)

variable {init : Chain} {s s' : Firewall}

/-- New events on a chain that is there. -/
theorem inv_new (init : Chain) (n : Nat) : Inv init (.new init n) where
  events := fun ev hev => by
    rw [List.eq_of_mem_replicate hev]
    exact VPNEvent.inv_new
  chain := by
    have hnothing : (List.replicate n VPNEvent.new).flatMap VPNEvent.owned = [] :=
      List.flatMap_eq_nil_iff.mpr fun ev hev => by
        rw [List.eq_of_mem_replicate hev]
        rfl
    show Overlay init init ((List.replicate n VPNEvent.new).flatMap VPNEvent.owned)
    rw [hnothing]
    exact .refl init

/-- The command of an event keeps the rules of all events on top. -/
theorem overlay_run {owned owned' others : List Rule} {command : Command} {chain : Chain}
    (hown : VPNEvent.Owns owned owned' command) (h : Overlay init chain (owned ++ others)) :
    Overlay init (command.run chain) (owned' ++ others) := by
  cases command with
  | none => exact h.perm (hown.append_right others)
  | insert r => exact (h.insert r).perm (hown.append_right others)
  | delete r => exact (h.perm (hown.append_right others)).delete

/-- Each step of an event keeps the rules of all. -/
theorem Inv.step {a : Nat × RuleAction} (hinv : Inv init s) (hok : s.Orderly a)
    (h : firewall.step s a = some s') : Inv init s' := by
  obtain ⟨ev, hev, hs'⟩ := Option.bind_eq_some_iff.mp h
  obtain ⟨⟨ev', command⟩, hstep, heq⟩ := Option.map_eq_some_iff.mp hs'
  cases heq
  have hev_inv := hinv.events ev (List.mem_of_getElem? hev)
  have hchange := VPNEvent.step_change hev_inv (hok ev hev) hstep
  constructor
  · intro ev₁ hev₁
    rcases List.mem_or_eq_of_mem_set hev₁ with hold | rfl
    · exact hinv.events ev₁ hold
    · exact hchange.inv hev_inv
  · -- The other events own what they owned.
    obtain ⟨others, hperm, hset, -⟩ := flatMap_set_perm hev VPNEvent.owned
    exact (overlay_run (hchange.owned hev_inv) (hinv.chain.perm hperm)).perm (hset ev').symm

/-- When all events are closed, none owns a rule. -/
theorem Inv.restored (hinv : Inv init s) : Restored init s := by
  intro hclosed
  have hnothing : s.events.flatMap VPNEvent.owned = [] :=
    List.flatMap_eq_nil_iff.mpr fun ev hev =>
      VPNEvent.owned_closed (hclosed ev hev) (hinv.events ev hev)
  have hchain := hinv.chain
  rw [hnothing] at hchain
  exact hchain.eq_of_nil

/-- An open event owns the rules of its teams. -/
theorem Inv.guarded (hinv : Inv init s) : Guarded s := by
  intro ev hev hopened tid r hr rule hrule
  have howned : rule ∈ ev.owned := by
    rw [VPNEvent.owned_opened ev hopened]
    exact List.mem_append_left _
      (List.mem_flatMap.mpr ⟨r, GoMap.mem_values.mpr ⟨tid, hr⟩, hrule⟩)
  exact hinv.chain.mem (List.mem_flatMap.mpr ⟨ev, hev, howned⟩)

/-! ### Calls that are not interrupted -/

/-- Steps of one event, with their commands. -/
def runEvent : VPNEvent → List RuleAction → Option (VPNEvent × List Command)
  | ev, [] => some (ev, [])
  | ev, a :: as =>
    (ev.step a).bind fun (ev, command) =>
      (runEvent ev as).map fun (ev, commands) => (ev, command :: commands)

/-- Steps of one event in one piece run its commands on the chain. -/
theorem run_event {e : Nat} {ev ev' : VPNEvent} {as : List RuleAction} {commands : List Command}
    (hev : s.events[e]? = some ev) (h : runEvent ev as = some (ev', commands)) :
    firewall.run s (as.map fun a => (e, a)) =
      some { chain := commands.foldl (fun chain command => command.run chain) s.chain
             events := s.events.set e ev' } := by
  induction as generalizing s ev commands with
  | nil =>
    cases h
    obtain ⟨hi, rfl⟩ := List.getElem?_eq_some_iff.mp hev
    rw [List.set_getElem_self]
    rfl
  | cons a as ih =>
    obtain ⟨⟨ev₁, command⟩, hstep, hrest⟩ := Option.bind_eq_some_iff.mp h
    obtain ⟨⟨ev₂, commands⟩, hrun, heq⟩ := Option.map_eq_some_iff.mp hrest
    cases heq
    have hlt : e < s.events.length := (List.getElem?_eq_some_iff.mp hev).1
    have hstep' : firewall.step s (e, a) =
        some { chain := command.run s.chain, events := s.events.set e ev₁ } := by
      show (s.events[e]?).bind _ = _
      rw [hev, Option.bind_some, hstep]
      rfl
    rw [List.map_cons, Machine.run_cons, hstep', Option.bind_some,
      ih (List.getElem?_set_self hlt) hrun, List.set_set]
    rfl

/-- The steps of a call of `CreateVPNConn`, in one piece. -/
def createCalls (tid : String) (r : IPRules) : List RuleAction :=
  [.create tid r, .insert 0, .insert 0, .insert 0, .record 0 false]

/-- A call in one piece makes the rules of `createRules`, and enters them into `ev.ipRules`. -/
theorem run_createCalls {e : Nat} {ev : VPNEvent} {tid : String} {r : IPRules}
    (hev : s.events[e]? = some ev) (hcalls : ev.calls = []) (hnew : tid ∉ ev.ipRules)
    (hopened : ev.phase = .opened) :
    firewall.run s ((createCalls tid r).map fun a => (e, a)) =
      some { chain := ((s.chain.createRejectRule r.labsubnet true).createStateRule r.labsubnet
               true).createAcceptRule r.labsubnet r.vpnIps true
             events := s.events.set e { ev with ipRules := ev.ipRules.set tid r } } := by
  have hrun : runEvent ev (createCalls tid r) =
      some ({ ev with ipRules := ev.ipRules.set tid r },
        [.none, .insert (.reject r.labsubnet), .insert (.state r.labsubnet),
          .insert (.accept r.labsubnet r.vpnIps), .none]) := by
    obtain ⟨ipRules, calls, phase⟩ := ev
    simp only at hcalls hopened hnew
    subst hcalls hopened
    have hcreate : VPNEvent.step { ipRules, calls := [], phase := .opened } (.create tid r) =
        some ({ ipRules, calls := [{ team := tid, ipRules := r, inserted := [], left := r.rules }],
                phase := .opened }, .none) := by
      simp [VPNEvent.step, hnew]
    rw [createCalls, runEvent, hcreate]
    rfl
  rw [run_event hev hrun]
  rfl

/-- The steps of the loop of `removeIPTableRules` over some entries, in their order. -/
def loopCalls (unvisited : List IPRules) : List RuleAction :=
  unvisited.flatMap fun _ => [.visit 0, .delete, .delete, .delete]

/-- The commands of the loop. -/
def loopCommands (unvisited : List IPRules) : List Command :=
  unvisited.flatMap fun r => .none :: r.rules.map .delete

/-- The loop of `Close` goes over the rules that are left. -/
theorem runEvent_loopCalls (ev : VPNEvent) (unvisited : List IPRules) :
    runEvent { ev with phase := .closing unvisited [] } (loopCalls unvisited) =
      some ({ ev with phase := .closing [] [] }, loopCommands unvisited) := by
  induction unvisited with
  | nil => rfl
  | cons r unvisited ih =>
    -- One entry: its three rules go.
    show runEvent { ev with phase := .closing (r :: unvisited) [] }
      (.visit 0 :: .delete :: .delete :: .delete :: loopCalls unvisited) = _
    simp [runEvent, VPNEvent.step, IPRules.rules, ih, loopCommands]

/-- On an event alone the loop is `removeIPTableRules`, when each command succeeds. -/
theorem removeIPTableRules_chain (ev : Event) :
    (ev.removeIPTableRules fun _ => (true, true, true)).chain =
      (loopCommands ev.ipRules.values).foldl (fun chain command => command.run chain)
        ev.chain := by
  have hloop : ∀ (entries : List (Sigma fun _ : String => IPRules)) (ev : Event),
      (entries.foldl (fun ev r =>
        { ev with
            chain := ((ev.chain.removeRejectRule r.2.labsubnet true).removeStateRule
              r.2.labsubnet true).removeAcceptRule r.2.labsubnet r.2.vpnIps true }) ev).chain =
        (loopCommands (entries.map Sigma.snd)).foldl (fun chain command => command.run chain)
          ev.chain := by
    intro entries
    induction entries with
    | nil => exact fun ev => rfl
    | cons r entries ih => exact fun ev => ih _
  exact hloop ev.ipRules.entries ev

/-- The loop in one piece. -/
theorem run_loopCalls {e : Nat} {ev : VPNEvent} {unvisited : List IPRules}
    (hev : s.events[e]? = some ev) (hclosing : ev.phase = .closing unvisited []) :
    firewall.run s ((loopCalls unvisited).map fun a => (e, a)) =
      some { chain := (loopCommands unvisited).foldl (fun chain command => command.run chain)
               s.chain
             events := s.events.set e { ev with phase := .closing [] [] } } := by
  refine run_event hev ?_
  rw [← runEvent_loopCalls ev unvisited, ← hclosing]

/-! ### The chain along a run -/

/-- In each run of orderly steps, from any chain and with any events, the chain is the one from
before as soon as all events are closed, and it has the rules of the teams of each open event. -/
theorem firewall_restored (init : Chain) (n : Nat) (as : List (Nat × RuleAction))
    (h : firewall.AllSteps Orderly (.new init n) as) :
    firewall.AllStates (fun s => Restored init s ∧ Guarded s) (.new init n) as :=
  Machine.AllSteps.allStates (I := Inv init)
    (fun _ hinv => ⟨hinv.restored, hinv.guarded⟩)
    (fun _ _ _ hinv hok hs => hinv.step hok hs) (inv_new init n) h

/-- The rules of a team in a lab. -/
def labRules : IPRules := { labsubnet := "77.1.2.0/24", vpnIps := ["25.1.240.2/32"] }

/-- Two events configure teams in labs with one subnet, and close one after the other. -/
def twoEvents : List (Nat × RuleAction) :=
  ((createCalls "ab" labRules).map fun a => (0, a)) ++
    ((createCalls "cd" labRules).map fun a => (1, a)) ++
    ((.close :: (loopCalls [labRules] ++ [.closed])).map fun a => (0, a)) ++
    (.close :: (loopCalls [labRules] ++ [.closed])).map fun a => (1, a)

/-- Two events with their teams, over one foreign rule. -/
theorem firewall_restored_twoEvents :
    firewall.AllStates (fun s => Restored [.state "10.0.0.0/8"] s ∧ Guarded s)
      (.new [.state "10.0.0.0/8"] 2) twoEvents :=
  firewall_restored [.state "10.0.0.0/8"] 2 twoEvents (by decide)

/-- A call that is in flight when its event closes leaves its rules in the chain. -/
theorem firewall_not_restored :
    ¬ ∀ (init : Chain) (n : Nat) (as : List (Nat × RuleAction)),
      firewall.AllStates (fun s => Restored init s ∧ Guarded s) (.new init n) as := by
  intro h
  have hall := h [] 1 [(0, .create "ab" labRules), (0, .close), (0, .closed), (0, .insert 0),
    (0, .insert 0), (0, .insert 0), (0, .record 0 false)]
  obtain ⟨s, hrun, hrestored, -⟩ := hall.of_run
    (fun s => (decide (∀ ev ∈ s.events, ev.phase = .closed), s.chain.length)) (true, 3) (by decide)
  obtain ⟨hclosed, hlength⟩ := Prod.mk.inj hrun
  rw [hrestored (of_decide_eq_true hclosed)] at hlength
  cases hlength

end Firewall

end Haaukins.Guacamole
