import Haaukins.Lib.GoMap
import Haaukins.Lib.Machine

/-!
# `Haaukins.Lib.SharedDir`: a directory with the files of many owners

Owners come and go. While an owner is there it writes files, one for each of its items. When it has
left it lists the files that its pattern matches, and removes them one after another. Other owners
go on meanwhile, and the same owner may come back.

* `Kept` says that each owner that is there has its files. `kept_iff` is the condition on the names
  under which this holds in every run: no owner's pattern matches a file of another one.
* `files_iff_live` says when there are no other files, at a moment at which nobody removes any.
-/

set_option autoImplicit false

/-- The names in a directory: the path of each file, and the pattern of each owner. -/
structure DirLayout (ι κ π : Type*) where
  path : ι → κ → π
  sweeps : ι → π → Bool

namespace DirLayout

variable {ι κ π : Type*}

/-- No two files of owners of the set have the same path. -/
def Injective (L : DirLayout ι κ π) (T : Set ι) : Prop :=
  ∀ i ∈ T, ∀ j ∈ T, ∀ k k', L.path i k = L.path j k' → i = j ∧ k = k'

/-- No owner of the set has a pattern that matches a file of another one. -/
def Apart (L : DirLayout ι κ π) (T : Set ι) : Prop :=
  ∀ i ∈ T, ∀ j ∈ T, i ≠ j → ∀ k, L.sweeps i (L.path j k) = false

end DirLayout

/-- An owner that has left, and the files that it still has to remove. It has not listed them while
these are `none`. -/
structure Leaver (ι π : Type*) where
  owner : ι
  pending : Option (List π)

/-- The directory, and the owners with what each of them wrote last. -/
structure SharedDir (ι κ π τ : Type*) where
  files : GoMap π τ
  owners : GoMap ι (GoMap κ τ)
  leaving : List (Leaver ι π)

/-- What of a text comes to its file. -/
inductive Written (τ : Type*) where
  | all
  /-- The file is cut off, and something is written. -/
  | part (t : τ)
  /-- The file is as before. -/
  | nothing

/-- What happens to the directory. -/
inductive DirAction (ι κ τ : Type*) where
  | enter (i : ι)
  | write (i : ι) (k : κ) (t : τ) (w : Written τ)
  | leave (i : ι)
  /-- The owner that left as the `n`-th lists its files. -/
  | list (n : Nat)
  /-- It removes the next one, unless that fails. -/
  | remove (n : Nat) (err : Option String)

namespace SharedDir

/-- An element of a list is the one that is replaced, or it is still there. -/
theorem mem_set_or_eq {α : Type*} {xs : List α} {n : Nat} {x y l : α} (hx : xs[n]? = some x)
    (hl : l ∈ xs) : l = x ∨ l ∈ xs.set n y := by
  obtain ⟨m, hm⟩ := List.mem_iff_getElem?.mp hl
  by_cases hnm : n = m
  · subst hnm
    exact .inl (Option.some.inj (hm.symm.trans hx))
  · exact .inr (List.mem_iff_getElem?.mpr ⟨m, by rw [List.getElem?_set_ne hnm, hm]⟩)

variable {ι κ π τ : Type*} [DecidableEq ι] [DecidableEq κ] [DecidableEq π]

/-- The files after a write. -/
def writeFile (files : GoMap π τ) (p : π) (t : τ) : Written τ → GoMap π τ
  | .all => files.set p t
  | .part t' => files.set p t'
  | .nothing => files

/-- The step of an action. -/
def step (L : DirLayout ι κ π) (s : SharedDir ι κ π τ) :
    DirAction ι κ τ → Option (SharedDir ι κ π τ)
  | .enter i => if i ∈ s.owners then none else some { s with owners := s.owners.set i ∅ }
  | .write i k t w =>
    match s.owners.get? i with
    | none => none
    | some items =>
      some { s with files := writeFile s.files (L.path i k) t w,
                    owners := s.owners.set i (items.set k t) }
  | .leave i =>
    if i ∈ s.owners then
      some { s with owners := s.owners.delete i, leaving := s.leaving ++ [⟨i, none⟩] }
    else none
  | .list n =>
    match s.leaving[n]? with
    | some ⟨i, none⟩ =>
      some { s with leaving := s.leaving.set n ⟨i, some (s.files.keyList.filter (L.sweeps i))⟩ }
    | _ => none
  | .remove n err =>
    match s.leaving[n]? with
    | some ⟨i, some (p :: ps)⟩ =>
      some { s with files := if err = none then s.files.delete p else s.files,
                    leaving := s.leaving.set n ⟨i, some ps⟩ }
    | _ => none

/-- The machine of the directory. It is empty at first, and nobody is there. -/
def machine (L : DirLayout ι κ π) : Machine (SharedDir ι κ π τ) (DirAction ι κ τ) where
  init s := s = ⟨∅, ∅, []⟩
  step := step L

/-- Each owner that is there has its files, with what it wrote last. -/
def Kept (L : DirLayout ι κ π) (s : SharedDir ι κ π τ) : Prop :=
  ∀ i items k t, s.owners.get? i = some items → items.get? k = some t →
    s.files.get? (L.path i k) = some t

/-- Nobody has files to remove. -/
def Quiet (s : SharedDir ι κ π τ) : Prop := ∀ l ∈ s.leaving, l.pending = some []

/-- The text is in the file after the write. -/
def Lands (files : GoMap π τ) (p : π) (t : τ) (w : Written τ) : Prop :=
  (writeFile files p t w).get? p = some t

/-- Owners are of the set, an owner comes back only when it has removed its files, and each write
comes to its file. -/
def Orderly (L : DirLayout ι κ π) (T : Set ι) (s : SharedDir ι κ π τ) : DirAction ι κ τ → Prop
  | .enter i => i ∈ T ∧ ∀ l ∈ s.leaving, l.owner = i → l.pending = some []
  | .write i k t w => Lands s.files (L.path i k) t w
  | .leave _ | .list _ | .remove _ _ => True

variable {L : DirLayout ι κ π} {T : Set ι} {s s' : SharedDir ι κ π τ}

/-- A write that lands is seen at its path alone. -/
theorem Lands.get? {files : GoMap π τ} {p : π} {t : τ} {w : Written τ} (h : Lands files p t w)
    (q : π) : (writeFile files p t w).get? q = if q = p then some t else files.get? q := by
  split
  next heq =>
    rw [heq]
    exact h
  next hne =>
    cases w with
    | all => exact (GoMap.get?_set files p q t).trans (if_neg hne)
    | part t' => exact (GoMap.get?_set files p q t').trans (if_neg hne)
    | nothing => rfl

/-! ### The files of those who are there -/

/-- What holds along an orderly run. -/
structure Inv (L : DirLayout ι κ π) (T : Set ι) (s : SharedDir ι κ π τ) : Prop where
  kept : Kept L s
  owners : ∀ i ∈ s.owners, i ∈ T
  leaving : ∀ l ∈ s.leaving, l.owner ∈ T
  swept : ∀ l ∈ s.leaving, ∀ ps, l.pending = some ps → ∀ p ∈ ps, L.sweeps l.owner p = true
  /-- An owner that is there has nothing left to remove. -/
  back : ∀ l ∈ s.leaving, l.owner ∈ s.owners → l.pending = some []

/-- The empty directory. -/
theorem Inv.init : Inv L T (⟨∅, ∅, []⟩ : SharedDir ι κ π τ) where
  kept i items k t h := by simp at h
  owners i hi := by simp at hi
  leaving := by simp
  swept := by simp
  back := by simp

/-- A file that is being removed is no file of an owner that is there. -/
theorem Inv.path_ne (h : Inv L T s) (hapart : L.Apart T) {l : Leaver ι π} (hl : l ∈ s.leaving)
    {p : π} {ps : List π} (hpending : l.pending = some (p :: ps)) {i : ι} (hi : i ∈ s.owners)
    (k : κ) : L.path i k ≠ p := by
  intro heq
  have hswept := h.swept l hl _ hpending p List.mem_cons_self
  by_cases hsame : l.owner = i
  · have hdone := h.back l hl (hsame ▸ hi)
    rw [hpending] at hdone
    cases hdone
  · rw [← heq, hapart l.owner (h.leaving l hl) i (h.owners i hi) hsame k] at hswept
    cases hswept

/-- An owner comes when its old files are removed. -/
theorem Inv.enter (h : Inv L T s) {i : ι} (hi : i ∈ T)
    (hdone : ∀ l ∈ s.leaving, l.owner = i → l.pending = some []) :
    Inv L T { s with owners := s.owners.set i ∅ } where
  kept j items k t hj hk := by
    change (s.owners.set i ∅).get? j = some items at hj
    rw [GoMap.get?_set] at hj
    split at hj
    · cases hj
      simp at hk
    · exact h.kept j items k t hj hk
  owners j hj := by
    rcases GoMap.mem_set.mp hj with rfl | hj
    · exact hi
    · exact h.owners j hj
  leaving := h.leaving
  swept := h.swept
  back l hl hmem := by
    rcases GoMap.mem_set.mp hmem with heq | hmem
    · exact hdone l hl heq
    · exact h.back l hl hmem

/-- An owner writes one of its files. -/
theorem Inv.write (h : Inv L T s) (hinj : L.Injective T) {i : ι} {items : GoMap κ τ} {k : κ} {t : τ}
    {w : Written τ} (hitems : s.owners.get? i = some items)
    (hlands : Lands s.files (L.path i k) t w) :
    Inv L T { s with files := writeFile s.files (L.path i k) t w,
                     owners := s.owners.set i (items.set k t) } where
  kept j items' k' t' hj hk := by
    have hmem : i ∈ s.owners := GoMap.mem_iff_get?.mpr ⟨items, hitems⟩
    change (s.owners.set i (items.set k t)).get? j = some items' at hj
    show (writeFile s.files (L.path i k) t w).get? (L.path j k') = some t'
    rw [hlands.get?]
    rw [GoMap.get?_set] at hj
    -- For the owner of the step it is its new item, or one that lies under another path.
    by_cases hji : j = i
    · rw [if_pos hji] at hj
      cases hj
      rw [GoMap.get?_set] at hk
      by_cases hkk : k' = k
      · rw [if_pos hkk] at hk
        rw [hji, hkk, if_pos rfl]
        exact hk
      · rw [if_neg hkk] at hk
        have hi : i ∈ T := h.owners i hmem
        rw [if_neg fun hpath => hkk (hinj j (hji ▸ hi) i hi k' k hpath).2]
        exact h.kept j items k' t' (hji ▸ hitems) hk
    -- The path of another owner is another path, by injectivity.
    · rw [if_neg hji] at hj
      have hj' : j ∈ T := h.owners j (GoMap.mem_iff_get?.mpr ⟨items', hj⟩)
      rw [if_neg fun hpath => hji (hinj j hj' i (h.owners i hmem) k' k hpath).1]
      exact h.kept j items' k' t' hj hk
  owners j hj := by
    rcases GoMap.mem_set.mp hj with rfl | hj
    · exact h.owners j (GoMap.mem_iff_get?.mpr ⟨items, hitems⟩)
    · exact h.owners j hj
  leaving := h.leaving
  swept := h.swept
  back l hl hmem := by
    rcases GoMap.mem_set.mp hmem with heq | hmem
    · exact h.back l hl (heq ▸ GoMap.mem_iff_get?.mpr ⟨items, hitems⟩)
    · exact h.back l hl hmem

/-- An owner goes, and its files are to be removed. -/
theorem Inv.leave (h : Inv L T s) {i : ι} (hi : i ∈ s.owners) :
    Inv L T { s with owners := s.owners.delete i, leaving := s.leaving ++ [⟨i, none⟩] } where
  kept j items k t hj hk := by
    change (s.owners.delete i).get? j = some items at hj
    rw [GoMap.get?_delete] at hj
    split at hj
    · cases hj
    · exact h.kept j items k t hj hk
  owners j hj := h.owners j (GoMap.mem_delete.mp hj).2
  leaving l hl := by
    rcases List.mem_append.mp hl with hl | hl
    · exact h.leaving l hl
    · rw [List.mem_singleton.mp hl]
      exact h.owners i hi
  swept l hl ps hpending := by
    rcases List.mem_append.mp hl with hl | hl
    · exact h.swept l hl ps hpending
    · rw [List.mem_singleton.mp hl] at hpending
      cases hpending
  back l hl hmem := by
    have hleft := GoMap.mem_delete.mp hmem
    rcases List.mem_append.mp hl with hl | hl
    · exact h.back l hl hleft.2
    · rw [List.mem_singleton.mp hl] at hleft
      exact absurd rfl hleft.1

/-- An owner that has left goes on. Files may go that are of no owner that is there. -/
theorem Inv.advance (h : Inv L T s) {n : Nat} {l : Leaver ι π} (hl : s.leaving[n]? = some l)
    (hbusy : l.pending ≠ some []) {ps : List π} (hps : ∀ p ∈ ps, L.sweeps l.owner p = true)
    {files : GoMap π τ}
    (hfiles : ∀ i ∈ s.owners, ∀ k, files.get? (L.path i k) = s.files.get? (L.path i k)) :
    Inv L T { s with files := files, leaving := s.leaving.set n ⟨l.owner, some ps⟩ } where
  kept i items k t hi hk := by
    show files.get? (L.path i k) = some t
    rw [hfiles i (GoMap.mem_iff_get?.mpr ⟨items, hi⟩) k]
    exact h.kept i items k t hi hk
  owners := h.owners
  leaving l' hl' := by
    rcases List.mem_or_eq_of_mem_set hl' with hl' | rfl
    · exact h.leaving l' hl'
    · exact h.leaving l (List.mem_of_getElem? hl)
  swept l' hl' ps' hpending := by
    rcases List.mem_or_eq_of_mem_set hl' with hl' | rfl
    · exact h.swept l' hl' ps' hpending
    · cases hpending
      exact hps
  back l' hl' hmem := by
    rcases List.mem_or_eq_of_mem_set hl' with hl' | rfl
    · exact h.back l' hl' hmem
    · exact absurd (h.back l (List.mem_of_getElem? hl) hmem) hbusy

/-- Each orderly step, when the names of the owners are apart. -/
theorem Inv.step (hinj : L.Injective T) (hapart : L.Apart T) {a : DirAction ι κ τ} (h : Inv L T s)
    (hok : Orderly L T s a) (hstep : SharedDir.step L s a = some s') : Inv L T s' := by
  cases a with
  | enter i =>
    rw [SharedDir.step] at hstep
    -- An owner comes only when nothing of its old files is being removed, by `Orderly`.
    split at hstep
    · cases hstep
    · cases hstep
      exact h.enter hok.1 hok.2
  | write i k t w =>
    rw [SharedDir.step] at hstep
    split at hstep
    · cases hstep
    next items hitems =>
      cases hstep
      exact h.write hinj hitems hok
  | leave i =>
    rw [SharedDir.step] at hstep
    split at hstep
    next hi =>
      cases hstep
      exact h.leave hi
    · cases hstep
  | list n =>
    rw [SharedDir.step] at hstep
    split at hstep
    next i hl =>
      cases hstep
      -- The list has what lies there and matches, so that it is right for its owner.
      refine h.advance hl (fun heq => by cases heq) (fun p hp => ?_) (fun _ _ _ => rfl)
      exact (List.mem_filter.mp hp).2
    · cases hstep
  | remove n err =>
    rw [SharedDir.step] at hstep
    split at hstep
    next i p ps hl =>
      cases hstep
      have hmem := List.mem_of_getElem? hl
      refine h.advance hl (fun heq => by cases heq) (fun q hq => ?_) (fun j hj k => ?_)
      · exact h.swept _ hmem _ rfl q (List.mem_cons_of_mem p hq)
      -- The file that goes matches the pattern of an owner that is gone, and of no other one.
      · have hne : L.path j k ≠ p := h.path_ne hapart hmem rfl hj k
        split
        · rw [GoMap.get?_delete, if_neg hne]
        · rfl
    · cases hstep

/-- The invariant over a run. -/
theorem Inv.of_reachable (hinj : L.Injective T) (hapart : L.Apart T)
    (h : (machine L).Reachable (Orderly L T) s) : Inv L T s := by
  refine h.invariant (Inv L T) (fun s hs => ?_) fun s a t hs hok hstep => ?_
  · rw [show s = ⟨∅, ∅, []⟩ from hs]
    exact .init
  · exact hs.step hinj hapart hok hstep

/-- An owner that is not there can come. -/
theorem step_enter {i : ι} (h : i ∉ s.owners) :
    (machine L).step s (.enter i) = some { s with owners := s.owners.set i ∅ } := by
  show step L s (.enter i) = _
  rw [step, if_neg h]

/-- An owner that is there can go. -/
theorem step_leave {i : ι} (h : i ∈ s.owners) : (machine L).step s (.leave i) =
    some { s with owners := s.owners.delete i, leaving := s.leaving ++ [⟨i, none⟩] } := by
  show step L s (.leave i) = _
  rw [step, if_pos h]

/-- Two owners come, and one of them writes a file. -/
theorem reachable_two {i j : ι} (k : κ) (t : τ) (hi : i ∈ T) (hj : j ∈ T) (hij : i ≠ j) :
    (machine L).Reachable (Orderly L T)
      (⟨GoMap.set ∅ (L.path j k) t, ((GoMap.set ∅ i ∅).set j ∅).set j (GoMap.set ∅ k t), []⟩ :
        SharedDir ι κ π τ) := by
  have hempty : (machine L).Reachable (Orderly L T) (⟨∅, ∅, []⟩ : SharedDir ι κ π τ) := .init rfl
  have hfirst : Orderly L T (⟨∅, ∅, []⟩ : SharedDir ι κ π τ) (.enter i) := ⟨hi, by simp⟩
  have henter := hempty.step hfirst (step_enter (s := ⟨∅, ∅, []⟩) (AList.notMem_empty i))
  have hnot : j ∉ (GoMap.set ∅ i ∅ : GoMap ι (GoMap κ τ)) := by
    intro hmem
    rcases GoMap.mem_set.mp hmem with heq | hmem
    · exact hij heq.symm
    · exact AList.notMem_empty j hmem
  have hsecond : Orderly L T (⟨∅, GoMap.set ∅ i ∅, []⟩ : SharedDir ι κ π τ) (.enter j) :=
    ⟨hj, by simp⟩
  have hboth := henter.step hsecond (step_enter (s := ⟨∅, GoMap.set ∅ i ∅, []⟩) hnot)
  have hlands : Orderly L T (⟨∅, (GoMap.set ∅ i ∅).set j ∅, []⟩ : SharedDir ι κ π τ)
      (.write j k t .all) := GoMap.get?_set_self _ _ _
  refine hboth.step hlands ?_
  show step L _ (.write j k t .all) = _
  rw [step, show ((GoMap.set ∅ i ∅).set j ∅ : GoMap ι (GoMap κ τ)).get? j = some ∅ from
    GoMap.get?_set_self _ _ _]
  rfl

/-- An owner has left, and removes the only file, which another one has written. -/
theorem exists_not_kept {i j : ι} {k : κ} (t : τ) (hi : i ∈ T) (hj : j ∈ T) (hij : i ≠ j)
    (hsweeps : L.sweeps i (L.path j k) = true) :
    ∃ s : SharedDir ι κ π τ, (machine L).Reachable (Orderly L T) s ∧ ¬ Kept L s := by
  have hthere := reachable_two (π := π) (L := L) k t hi hj hij
  generalize howners : (((GoMap.set ∅ i ∅).set j ∅).set j (GoMap.set ∅ k t) : GoMap ι (GoMap κ τ)) =
    owners at hthere
  have hmem : i ∈ owners := by
    rw [← howners]
    exact GoMap.mem_set.mpr (.inr (GoMap.mem_set.mpr (.inr (GoMap.mem_set.mpr (.inl rfl)))))
  let files : GoMap π τ := GoMap.set ∅ (L.path j k) t
  have hleft := hthere.step (show Orderly L T _ (.leave i) from trivial)
    (step_leave (s := ⟨files, owners, []⟩) hmem)
  have hlist : step L (⟨files, owners.delete i, [⟨i, none⟩]⟩ : SharedDir ι κ π τ) (.list 0) =
      some ⟨files, owners.delete i, [⟨i, some [L.path j k]⟩]⟩ := by
    have hkeys : files.keyList.filter (L.sweeps i) = [L.path j k] := by
      rw [show files.keyList = [L.path j k] from rfl, List.filter_singleton, hsweeps]
      rfl
    rw [← hkeys]
    rfl
  have hlisted := hleft.step (show Orderly L T _ (.list 0) from trivial) hlist
  refine ⟨_, hlisted.step (show Orderly L T _ (.remove 0 none) from trivial) rfl, fun hkept => ?_⟩
  have howner : (owners.delete i).get? j = some (GoMap.set ∅ k t) := by
    rw [GoMap.get?_delete, if_neg (Ne.symm hij), ← howners]
    exact GoMap.get?_set_self _ _ _
  have hfile : (files.delete (L.path j k)).get? (L.path j k) = some t :=
    hkept j _ k t howner (GoMap.get?_set_self _ _ _)
  rw [GoMap.get?_delete_self] at hfile
  cases hfile

/-- The files of those who are there are kept in all orderly runs if and only if no owner's pattern
matches a file of another one. -/
theorem kept_iff (hinj : L.Injective T) (t : τ) :
    (∀ s : SharedDir ι κ π τ, (machine L).Reachable (Orderly L T) s → Kept L s) ↔ L.Apart T := by
  constructor
  · intro h i hi j hj hij k
    by_contra hsweeps
    obtain ⟨s, hs, hnot⟩ := exists_not_kept t hi hj hij (by simpa using hsweeps)
    exact hnot (h s hs)
  · intro hapart s hs
    exact (Inv.of_reachable hinj hapart hs).kept

/-! ### The other files -/

/-- A step of an orderly run in which each file is one that its owner sweeps, and each removal
succeeds. -/
def Thorough (L : DirLayout ι κ π) (T : Set ι) (s : SharedDir ι κ π τ)
    (a : DirAction ι κ τ) : Prop :=
  Orderly L T s a ∧
    match a with
    | .write i k _ _ => L.sweeps i (L.path i k) = true
    | .remove _ err => err = none
    | .enter _ | .leave _ | .list _ => True

/-- Somebody who has left is going to remove the file. -/
def Doomed (L : DirLayout ι κ π) (s : SharedDir ι κ π τ) (p : π) : Prop :=
  ∃ l ∈ s.leaving, L.sweeps l.owner p = true ∧ ∀ ps, l.pending = some ps → p ∈ ps

/-- The file is of an owner that is there. -/
def Live (L : DirLayout ι κ π) (s : SharedDir ι κ π τ) (p : π) (t : τ) : Prop :=
  ∃ i items k, s.owners.get? i = some items ∧ items.get? k = some t ∧ L.path i k = p

/-- What holds along a thorough run. -/
structure Held (L : DirLayout ι κ π) (s : SharedDir ι κ π τ) : Prop where
  files : ∀ p t, s.files.get? p = some t → Live L s p t ∨ Doomed L s p
  swept : ∀ i items k, s.owners.get? i = some items → k ∈ items → L.sweeps i (L.path i k) = true

/-- The empty directory has no file without an owner. -/
theorem Held.init : Held L (⟨∅, ∅, []⟩ : SharedDir ι κ π τ) where
  files p t h := by simp at h
  swept i items k h := by simp at h

/-- An owner comes with no file. -/
theorem Held.enter (h : Held L s) {i : ι} (hi : i ∉ s.owners) :
    Held L { s with owners := s.owners.set i ∅ } where
  files p t hp := by
    rcases h.files p t hp with ⟨j, items, k, hj, hk, hpath⟩ | hdoomed
    · have hne : j ≠ i := fun heq => hi (heq ▸ GoMap.mem_iff_get?.mpr ⟨items, hj⟩)
      refine .inl ⟨j, items, k, ?_, hk, hpath⟩
      exact (GoMap.get?_set s.owners i j ∅).trans ((if_neg hne).trans hj)
    · exact .inr hdoomed
  swept j items k hj hk := by
    change (s.owners.set i ∅).get? j = some items at hj
    rw [GoMap.get?_set] at hj
    split at hj
    · cases hj
      exact absurd hk (AList.notMem_empty k)
    · exact h.swept j items k hj hk

omit [DecidableEq π] in
/-- The owner's file of another item, or another owner's file, is still live after a write. -/
theorem Live.write {i : ι} {items : GoMap κ τ} (hitems : s.owners.get? i = some items) {k : κ}
    {t t' : τ} {p : π} {files : GoMap π τ} (h : Live L s p t') (hne : L.path i k ≠ p) :
    Live L { s with files := files, owners := s.owners.set i (items.set k t) } p t' := by
  obtain ⟨j, items', k', hj, hk, hpath⟩ := h
  by_cases hji : j = i
  · subst hji
    rw [hitems] at hj
    cases hj
    refine ⟨j, items.set k t, k', GoMap.get?_set_self _ _ _, ?_, hpath⟩
    have hkk : k' ≠ k := fun heq => hne (heq ▸ hpath)
    exact (GoMap.get?_set items k k' t).trans ((if_neg hkk).trans hk)
  · refine ⟨j, items', k', ?_, hk, hpath⟩
    exact (GoMap.get?_set s.owners i j _).trans ((if_neg hji).trans hj)

/-- A new file has an owner that will find it. -/
theorem Held.write (h : Held L s) {i : ι} {items : GoMap κ τ} {k : κ} {t : τ} {w : Written τ}
    (hitems : s.owners.get? i = some items) (hlands : Lands s.files (L.path i k) t w)
    (hsweeps : L.sweeps i (L.path i k) = true) :
    Held L { s with files := writeFile s.files (L.path i k) t w,
                    owners := s.owners.set i (items.set k t) } where
  files p t' hp := by
    change (writeFile s.files (L.path i k) t w).get? p = some t' at hp
    rw [hlands.get?] at hp
    by_cases heq : p = L.path i k
    · rw [if_pos heq] at hp
      cases hp
      exact .inl ⟨i, _, k, GoMap.get?_set_self _ _ _, GoMap.get?_set_self _ _ _, heq.symm⟩
    · rw [if_neg heq] at hp
      rcases h.files p t' hp with hlive | hdoomed
      · exact .inl (hlive.write hitems (Ne.symm heq))
      · exact .inr hdoomed
  swept j items' k' hj hk := by
    change (s.owners.set i (items.set k t)).get? j = some items' at hj
    rw [GoMap.get?_set] at hj
    split at hj
    next hji =>
      cases hj
      subst hji
      rcases GoMap.mem_set.mp hk with rfl | hk
      · exact hsweeps
      · exact h.swept j items k' hitems hk
    · exact h.swept j items' k' hj hk

/-- The files of an owner that goes are in its list. -/
theorem Held.leave (h : Held L s) {i : ι} :
    Held L { s with owners := s.owners.delete i, leaving := s.leaving ++ [⟨i, none⟩] } where
  files p t hp := by
    rcases h.files p t hp with ⟨j, items, k, hj, hk, hpath⟩ | ⟨l, hl, hsweeps, hpending⟩
    · by_cases hji : j = i
      · subst hji
        have hmem : k ∈ items := GoMap.mem_iff_get?.mpr ⟨t, hk⟩
        refine .inr ⟨⟨j, none⟩, List.mem_append_right _ List.mem_cons_self, ?_, nofun⟩
        exact hpath ▸ h.swept j items k hj hmem
      · refine .inl ⟨j, items, k, ?_, hk, hpath⟩
        exact (GoMap.get?_delete s.owners i j).trans ((if_neg hji).trans hj)
    · exact .inr ⟨l, List.mem_append_left _ hl, hsweeps, hpending⟩
  swept j items k hj hk := by
    change (s.owners.delete i).get? j = some items at hj
    rw [GoMap.get?_delete] at hj
    split at hj
    · cases hj
    · exact h.swept j items k hj hk

/-- An owner that has left goes on. The files that are left are those from before, and what it is
no longer going to remove is not among them. -/
theorem Held.advance (h : Held L s) {n : Nat} {l : Leaver ι π} (hl : s.leaving[n]? = some l)
    {files : GoMap π τ} {ps : List π}
    (hfiles : ∀ p t, files.get? p = some t → s.files.get? p = some t)
    (hps : ∀ p ∈ files, L.sweeps l.owner p = true → (∀ ps, l.pending = some ps → p ∈ ps) → p ∈ ps) :
    Held L { s with files := files, leaving := s.leaving.set n ⟨l.owner, some ps⟩ } where
  files p t hp := by
    rcases h.files p t (hfiles p t hp) with hlive | ⟨l', hl', hsweeps, hpending⟩
    · exact .inl hlive
    · rcases mem_set_or_eq (y := ⟨l.owner, some ps⟩) hl hl' with rfl | hmem
      · have hset := List.mem_set (List.getElem?_eq_some_iff.mp hl).1
          (⟨l'.owner, some ps⟩ : Leaver ι π)
        refine .inr ⟨⟨l'.owner, some ps⟩, hset, hsweeps, fun qs hqs => ?_⟩
        cases hqs
        exact hps p (GoMap.mem_iff_get?.mpr ⟨t, hp⟩) hsweeps hpending
      · exact .inr ⟨l', hmem, hsweeps, hpending⟩
  swept := h.swept

/-- Each thorough step. -/
theorem Held.step {a : DirAction ι κ τ} (h : Held L s) (hok : Thorough L T s a)
    (hstep : SharedDir.step L s a = some s') : Held L s' := by
  cases a with
  | enter i =>
    rw [SharedDir.step] at hstep
    split at hstep
    · cases hstep
    next hi =>
      cases hstep
      exact h.enter hi
  | write i k t w =>
    rw [SharedDir.step] at hstep
    split at hstep
    · cases hstep
    next items hitems =>
      cases hstep
      exact h.write hitems hok.1 hok.2
  | leave i =>
    rw [SharedDir.step] at hstep
    split at hstep
    · cases hstep
      exact h.leave
    · cases hstep
  | list n =>
    rw [SharedDir.step] at hstep
    split at hstep
    next i hl =>
      cases hstep
      -- Each file of the owner that is there is in the list.
      refine h.advance hl (fun _ _ hp => hp) (fun p hp hsweeps _ => ?_)
      exact List.mem_filter.mpr ⟨GoMap.mem_keyList.mpr hp, hsweeps⟩
    · cases hstep
  | remove n err =>
    rw [SharedDir.step] at hstep
    split at hstep
    next i p ps hl =>
      cases hstep
      rw [if_pos (show err = none from hok.2)]
      refine h.advance hl (fun q t hq => ?_) (fun q hq _ hpending => ?_)
      · rw [GoMap.get?_delete] at hq
        split at hq
        · cases hq
        · exact hq
      -- What is left of the owner is still to be removed.
      · have hne : q ≠ p := (GoMap.mem_delete.mp hq).1
        exact (List.mem_cons.mp (hpending _ rfl)).resolve_left hne
    · cases hstep

/-- The invariant over a run. -/
theorem Held.of_reachable (h : (machine L).Reachable (Thorough L T) s) : Held L s := by
  refine h.invariant (Held L) (fun s hs => ?_) fun s a t hs hok hstep => hs.step hok hstep
  rw [show s = ⟨∅, ∅, []⟩ from hs]
  exact .init

/-- The files are those of the owners that are there, whenever nobody has files to remove. -/
theorem files_iff_live (hinj : L.Injective T) (hapart : L.Apart T)
    (h : (machine L).Reachable (Thorough L T) s) (hquiet : Quiet s) (p : π) (t : τ) :
    s.files.get? p = some t ↔ Live L s p t := by
  constructor
  · intro hp
    rcases (Held.of_reachable h).files p t hp with hlive | ⟨l, hl, -, hpending⟩
    · exact hlive
    · exact absurd (hpending [] (hquiet l hl)) List.not_mem_nil
  · rintro ⟨i, items, k, hi, hk, rfl⟩
    have horderly : (machine L).Reachable (Orderly L T) s :=
      h.strengthen (fun _ => True) (fun _ _ => trivial) fun _ _ _ _ hok _ => ⟨trivial, hok.1⟩
    exact (Inv.of_reachable hinj hapart horderly).kept i items k t hi hk

end SharedDir
