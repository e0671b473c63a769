import Mathlib.Data.List.Perm.Subperm
import Mathlib.Data.List.Nodup
import Mathlib.Order.Nat

/-!
# `Haaukins.Lib.Resources`: what exists and what is held

A `World` has the resources that exist, each with its own number. `make` makes a new one and
`close` takes one away. What was made from one world to a later one is the list of `Grew`.

`makeAll` is a loop that makes a resource for each item and stops at the first error. It hands
over what it has made only at its end, so what it made before an error is lost. A step can itself
fail after its resource exists. `makeAll_spec` says what such a loop makes, and when it loses
nothing: it succeeds, or it fails at its first item before anything exists (`Lossless`).

A world is accounted for by a list of holders when each resource that exists is in the list. It
is `Owned` when the list holds nothing else, and each resource once. `Owned.ownedIff` is the
rule for a function that hands over a part of what it makes, and `Owned.closeAll` and
`Owned.not_accounted_closeAll` are those for a loop that closes resources. `Owned.closeAll_ownedIff`
is the rule for a function that closes what it has made.
-/

set_option autoImplicit false

/-- A resource with its number. -/
structure Resource (κ : Type*) where
  kind : κ
  id : Nat
  deriving DecidableEq

/-- The resources that exist, and the number of those made so far. -/
structure World (κ : Type*) where
  made : Nat
  live : List (Resource κ)

namespace World

variable {κ γ : Type*}

/-- A new resource. -/
def make (w : World κ) (kind : κ) : Resource κ × World κ :=
  (⟨kind, w.made⟩, { made := w.made + 1, live := ⟨kind, w.made⟩ :: w.live })

/-- The end of a resource, unless it fails. -/
def close [DecidableEq κ] (w : World κ) (r : Resource κ) : Option String → World κ
  | some _ => w
  | none => { w with live := w.live.filter fun r' => r' ≠ r }

/-- The loop over the items, with the resources that it has made. -/
def makeAll (step : World κ → γ → World κ × Except String (Resource κ)) :
    World κ → List (Resource κ) → List γ → World κ × Except String (List (Resource κ))
  | w, machines, [] => (w, .ok machines)
  | w, machines, c :: cs =>
    match step w c with
    | (w, .error err) => (w, .error err)
    | (w, .ok r) => makeAll step w (machines ++ [r]) cs

/-- From `w` to `w'` the resources of the list were made, and none was closed. -/
structure Grew (w w' : World κ) (new : List (Resource κ)) : Prop where
  live : ∀ r, r ∈ w'.live ↔ r ∈ new ∨ r ∈ w.live
  fresh : ∀ r ∈ new, w.made ≤ r.id ∧ r.id < w'.made
  nodup : new.Nodup
  made : w.made ≤ w'.made

/-- Each resource that exists has a holder. -/
def Accounted (w : World κ) (holders : List (Resource κ)) : Prop := ∀ r ∈ w.live, r ∈ holders

/-- The holders hold exactly what exists, each resource once. -/
structure Owned (w : World κ) (holders : List (Resource κ)) : Prop where
  live : ∀ r, r ∈ w.live ↔ r ∈ holders
  nodup : holders.Nodup
  known : ∀ r ∈ holders, r.id < w.made

/-- The holders hold what exists under the condition, and not all of it otherwise. -/
structure OwnedIff (w : World κ) (holders : List (Resource κ)) (cond : Prop) : Prop where
  owned : cond → w.Owned holders
  lost : ¬ cond → ¬ w.Accounted holders

/-- What a step does: it makes a resource and hands it over, or it fails, with its resource or
without one. -/
structure Steps (step : World κ → γ → World κ × Except String (Resource κ))
    (succeeds makesNothing : γ → Prop) : Prop where
  handsOver : ∀ c, succeeds c → ∀ w, ∃ kind, step w c = ((w.make kind).2, .ok (w.make kind).1)
  fails : ∀ c, makesNothing c → ∀ w, ∃ err, step w c = (w, .error err)
  loses : ∀ c, ¬ succeeds c → ¬ makesNothing c →
    ∀ w, ∃ kind err, step w c = ((w.make kind).2, .error err)

/-- All items succeed, or the first one fails before anything exists. -/
def Lossless (succeeds makesNothing : γ → Prop) (cs : List γ) : Prop :=
  (∀ c ∈ cs, succeeds c) ∨ ∃ c ∈ cs.head?, makesNothing c

variable {w w' w'' : World κ} {new new' holders : List (Resource κ)}

/-- Nothing was made. -/
theorem Grew.refl (w : World κ) : Grew w w [] where
  live r := by simp
  fresh := by simp
  nodup := List.nodup_nil
  made := le_rfl

/-- What was made in two steps. -/
theorem Grew.trans (h : Grew w w' new) (h' : Grew w' w'' new') : Grew w w'' (new ++ new') where
  live r := by rw [h'.live, h.live, List.mem_append]; tauto
  fresh r hr := by
    have hle := h.made
    have hle' := h'.made
    rcases List.mem_append.mp hr with hr | hr
    · have := h.fresh r hr
      omega
    · have := h'.fresh r hr
      omega
  nodup := by
    refine List.nodup_append.mpr ⟨h.nodup, h'.nodup, fun r hr r' hr' heq => ?_⟩
    -- The numbers of the first part are below those of the second.
    have hlt := (h.fresh r hr).2
    have hge := (h'.fresh r' hr').1
    rw [heq] at hlt
    omega
  made := h.made.trans h'.made

/-- One resource was made. -/
theorem grew_make (w : World κ) (kind : κ) : Grew w (w.make kind).2 [(w.make kind).1] where
  live r := by simp [make]
  fresh := by simp [make]
  nodup := by simp
  made := by simp [make]

/-- What has a holder is accounted for. -/
theorem Owned.accounted (h : w.Owned holders) : w.Accounted holders :=
  fun r hr => (h.live r).mp hr

/-- The order of the holders does not count. -/
theorem Owned.perm (h : w.Owned holders) {holders' : List (Resource κ)}
    (hperm : holders.Perm holders') : w.Owned holders' where
  live r := (h.live r).trans hperm.mem_iff
  nodup := hperm.nodup h.nodup
  known r hr := h.known r (hperm.mem_iff.mpr hr)

/-- An empty world has nothing to hold. -/
theorem owned_nil (h : w.live = []) : w.Owned [] where
  live r := by rw [h]
  nodup := List.nodup_nil
  known := by simp

/-- What is new was not held before. -/
theorem Owned.notMem_of_grew (h : w.Owned holders) (hgrew : Grew w w' new) {r : Resource κ}
    (hr : r ∈ new) : r ∉ holders := by
  intro hheld
  have hlt := h.known r hheld
  have hge := (hgrew.fresh r hr).1
  omega

/-- What was made can be handed over. -/
theorem Owned.append (h : w.Owned holders) (hgrew : Grew w w' new) :
    w'.Owned (holders ++ new) where
  live r := by rw [hgrew.live, h.live, List.mem_append, or_comm]
  nodup := by
    refine List.nodup_append.mpr ⟨h.nodup, hgrew.nodup, ?_⟩
    rintro r hr _ hnew rfl
    exact h.notMem_of_grew hgrew hnew hr
  known r hr := by
    rcases List.mem_append.mp hr with hr | hr
    · exact (h.known r hr).trans_le hgrew.made
    · exact (hgrew.fresh r hr).2

/-- When a part of what was made is handed over, all that exists has a holder exactly when there
is no other part. -/
theorem Owned.ownedIff {kept lost : List (Resource κ)} {cond : Prop} (h : w.Owned holders)
    (hgrew : Grew w w' (kept ++ lost)) (hlost : lost = [] ↔ cond) :
    w'.OwnedIff (holders ++ kept) cond where
  owned hcond := by
    rw [hlost.mpr hcond, List.append_nil] at hgrew
    exact h.append hgrew
  lost hcond h' := by
    refine hcond (hlost.mp (List.eq_nil_iff_forall_not_mem.mpr fun r hr => ?_))
    have hnew : r ∈ kept ++ lost := List.mem_append_right _ hr
    rcases List.mem_append.mp (h' r ((hgrew.live r).mpr (.inl hnew))) with hheld | hkept
    · exact h.notMem_of_grew hgrew hnew hheld
    · exact (List.nodup_append.mp hgrew.nodup).2.2 r hkept r hr rfl

/-- Nothing that was made is handed over. -/
theorem Owned.ownedIff_nil {lost : List (Resource κ)} {cond : Prop} (h : w.Owned holders)
    (hgrew : Grew w w' lost) (hlost : lost = [] ↔ cond) : w'.OwnedIff holders cond := by
  rw [← List.append_nil holders]
  rw [← List.nil_append lost] at hgrew
  exact h.ownedIff hgrew hlost

/-- There are more new resources than places for them. -/
theorem Owned.not_accounted_of_length {kept held : List (Resource κ)} (h : w.Owned holders)
    (hgrew : Grew w w' (kept ++ new)) (hlength : held.length < new.length) :
    ¬ w'.Accounted (holders ++ kept ++ held) := by
  intro h'
  have hsub : new ⊆ held := by
    intro r hr
    have hnew : r ∈ kept ++ new := List.mem_append_right _ hr
    rcases List.mem_append.mp (h' r ((hgrew.live r).mpr (.inl hnew))) with hold | hheld
    · rcases List.mem_append.mp hold with hold | hkept
      · exact absurd hold (h.notMem_of_grew hgrew hnew)
      · exact absurd rfl ((List.nodup_append.mp hgrew.nodup).2.2 r hkept r hr)
    · exact hheld
  have hle : new.length ≤ held.length :=
    ((List.nodup_append.mp hgrew.nodup).2.1.subperm hsub).length_le
  omega

/-- Nor does it count under a condition. -/
theorem OwnedIff.perm {cond : Prop} {holders' : List (Resource κ)} (h : w.OwnedIff holders cond)
    (hperm : holders.Perm holders') : w.OwnedIff holders' cond where
  owned hcond := (h.owned hcond).perm hperm
  lost hcond h' := h.lost hcond fun r hr => hperm.mem_iff.mpr (h' r hr)

/-- An equivalent condition. -/
theorem OwnedIff.congr {cond cond' : Prop} (h : w.OwnedIff holders cond)
    (hcond : cond ↔ cond') : w.OwnedIff holders cond' :=
  ⟨fun h' => h.owned (hcond.mpr h'), fun h' => h.lost fun h'' => h' (hcond.mp h'')⟩

section Close

variable [DecidableEq κ] {closeErr : Resource κ → Option String} {rest ms : List (Resource κ)}

/-- Closing makes nothing. -/
@[simp] theorem made_close (w : World κ) (r : Resource κ) (err : Option String) :
    (w.close r err).made = w.made := by
  cases err <;> rfl

/-- What is left after a `close`. -/
@[simp] theorem mem_live_close (w : World κ) (r r' : Resource κ) (err : Option String) :
    r' ∈ (w.close r err).live ↔ r' ∈ w.live ∧ ¬ (r' = r ∧ err = none) := by
  cases err <;> simp [close]

/-- The resources are closed one after another. -/
def closeAll (w : World κ) (closeErr : Resource κ → Option String) (ms : List (Resource κ)) :
    World κ :=
  ms.foldl (fun w m => w.close m (closeErr m)) w

/-- Closing many makes nothing. -/
@[simp] theorem made_closeAll (w : World κ) : (w.closeAll closeErr ms).made = w.made := by
  induction ms generalizing w with
  | nil => rfl
  | cons m ms ih => exact (ih _).trans (made_close w m _)

/-- What is left after closing many. -/
theorem mem_live_closeAll (w : World κ) (r : Resource κ) :
    r ∈ (w.closeAll closeErr ms).live ↔ r ∈ w.live ∧ ¬ (r ∈ ms ∧ closeErr r = none) := by
  induction ms generalizing w with
  | nil => simp [closeAll]
  | cons m ms ih =>
    refine (ih _).trans ?_
    rw [mem_live_close, List.mem_cons]
    grind

/-- What is closed is held no more. -/
theorem Owned.closeAll (h : w.Owned (rest ++ ms)) (hclose : ∀ m ∈ ms, closeErr m = none) :
    (w.closeAll closeErr ms).Owned rest where
  live r := by
    have hdisjoint := (List.nodup_append.mp h.nodup).2.2
    rw [mem_live_closeAll, h.live, List.mem_append]
    grind
  nodup := (List.nodup_append.mp h.nodup).1
  known r hr := by
    rw [made_closeAll]
    exact h.known r (List.mem_append_left _ hr)

/-- A resource that could not be closed exists without a holder. -/
theorem Owned.not_accounted_closeAll {m : Resource κ} (h : w.Owned (rest ++ ms)) (hm : m ∈ ms)
    (hclose : closeErr m ≠ none) (hgrew : Grew (w.closeAll closeErr ms) w' new)
    {kept : List (Resource κ)} (hkept : kept ⊆ new) : ¬ w'.Accounted (rest ++ kept) := by
  intro h'
  have hheld : m ∈ rest ++ ms := List.mem_append_right _ hm
  have hlive : m ∈ (w.closeAll closeErr ms).live :=
    (mem_live_closeAll w m).mpr ⟨(h.live m).mpr hheld, fun hclosed => hclose hclosed.2⟩
  rcases List.mem_append.mp (h' m ((hgrew.live m).mpr (.inr hlive))) with hrest | hnew
  · exact (List.nodup_append.mp h.nodup).2.2 m hrest m hm rfl
  · have hlt := h.known m hheld
    have hge := (hgrew.fresh m (hkept hnew)).1
    rw [made_closeAll] at hge
    omega

/-- A part of what was made is closed again. Then all that exists has a holder exactly when there
was no other part and each resource of this one could be closed. -/
theorem Owned.closeAll_ownedIff (closeErr : Resource κ → Option String)
    {made lost : List (Resource κ)} (h : w.Owned holders) (hgrew : Grew w w' (made ++ lost)) :
    (w'.closeAll closeErr made).OwnedIff holders
      (lost = [] ∧ ∀ m ∈ made, closeErr m = none) where
  owned := by
    rintro ⟨rfl, hclose⟩
    rw [List.append_nil] at hgrew
    exact (h.append hgrew).closeAll hclose
  lost := by
    intro hcond h'
    cases lost with
    | nil =>
      have hopen : ¬ ∀ m ∈ made, closeErr m = none := fun hclose => hcond ⟨rfl, hclose⟩
      obtain ⟨m, hm, hne⟩ := not_forall₂.mp hopen
      rw [List.append_nil] at hgrew
      have hnot := (h.append hgrew).not_accounted_closeAll hm hne (Grew.refl _)
        (List.nil_subset [])
      rw [List.append_nil] at hnot
      exact hnot h'
    | cons r rest =>
      -- A resource of the other part still exists.
      have hnew : r ∈ made ++ r :: rest := List.mem_append_right made List.mem_cons_self
      have hnotMade : r ∉ made := fun hmade =>
        (List.nodup_append.mp hgrew.nodup).2.2 r hmade r List.mem_cons_self rfl
      have hlive : r ∈ (w'.closeAll closeErr made).live :=
        (mem_live_closeAll w' r).mpr ⟨(hgrew.live r).mpr (.inl hnew), fun hand => hnotMade hand.1⟩
      exact h.notMem_of_grew hgrew hnew (h' r hlive)

end Close

variable {step : World κ → γ → World κ × Except String (Resource κ)}
  {succeeds makesNothing : γ → Prop}

/-- The loop succeeds exactly when each item does, and hands over what it has made. After an
error it has made nothing exactly when the first item failed before anything existed. -/
theorem makeAll_spec (hstep : Steps step succeeds makesNothing) (machines : List (Resource κ))
    (cs : List γ) (w : World κ) :
    ∃ new, Grew w (makeAll step w machines cs).1 new ∧
      ((∀ c ∈ cs, succeeds c) → (makeAll step w machines cs).2 = .ok (machines ++ new)) ∧
      (¬ (∀ c ∈ cs, succeeds c) → (∃ err, (makeAll step w machines cs).2 = .error err) ∧
        (new = [] ↔ Lossless succeeds makesNothing cs)) := by
  -- Induction on the items. A loop that goes on after its first item has made something.
  induction cs generalizing w machines with
  | nil => exact ⟨[], Grew.refl w, fun _ => by simp [makeAll], fun h => absurd (by simp) h⟩
  | cons c cs ih =>
    rw [makeAll]
    by_cases hc : succeeds c
    · obtain ⟨kind, hmade⟩ := hstep.handsOver c hc w
      rw [hmade]
      obtain ⟨new, hgrew, hok, herr⟩ := ih (machines ++ [(w.make kind).1]) (w.make kind).2
      refine ⟨[(w.make kind).1] ++ new, (grew_make w kind).trans hgrew, fun h => ?_, fun h => ?_⟩
      · rw [← List.append_assoc]
        exact hok fun c' hc' => h c' (List.mem_cons_of_mem _ hc')
      · have hrest : ¬ ∀ c' ∈ cs, succeeds c' := fun hall => h (List.forall_mem_cons.mpr ⟨hc, hall⟩)
        refine ⟨(herr hrest).1, iff_of_false (by simp) ?_⟩
        rintro (hall | ⟨c', hhead, hnothing⟩)
        · exact h hall
        · cases hhead
          obtain ⟨err, hfailed⟩ := hstep.fails c hnothing w
          rw [hmade] at hfailed
          cases congrArg Prod.snd hfailed
    · have hnot : ¬ ∀ c' ∈ c :: cs, succeeds c' := fun h => hc (h c List.mem_cons_self)
      have hlossless : Lossless succeeds makesNothing (c :: cs) ↔ makesNothing c := by
        unfold Lossless
        simp [hc]
      by_cases hnothing : makesNothing c
      · obtain ⟨err, hfailed⟩ := hstep.fails c hnothing w
        rw [hfailed]
        exact ⟨[], Grew.refl w, fun h => absurd h hnot,
          fun _ => ⟨⟨err, rfl⟩, iff_of_true rfl (hlossless.mpr hnothing)⟩⟩
      · obtain ⟨kind, err, hfailed⟩ := hstep.loses c hc hnothing w
        rw [hfailed]
        exact ⟨[(w.make kind).1], grew_make w kind, fun h => absurd h hnot,
          fun _ => ⟨⟨err, rfl⟩, iff_of_false (by simp) fun h => hnothing (hlossless.mp h)⟩⟩

end World
