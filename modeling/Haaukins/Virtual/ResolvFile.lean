import Mathlib.Data.String.Basic
import Mathlib.Data.List.Sort
import Haaukins.Lib.SharedFile
import Haaukins.Lib.Threads

/-!
# `Haaukins.Virtual.ResolvFile`: the files with the name servers (`virtual/docker/docker.go`)

`getResolvFile` gives the containers with the same name servers the same file. The file's name is a
digest of the sorted list. When the file is there, it is taken as it is. Otherwise it is created,
and the lines are written one after another. Containers are created by many goroutines at once, so
two of them may create the same file, and a third one may find it before it is written.

`resolvFile_complete` says what a file has. While goroutines write it, each of its characters is
the right one or a gap. When they are done it is complete, unless a write has failed. What a failed
write leaves behind is never written again (`resolvFile_stays`).

* The digest is a parameter. The results are for lists that it tells apart.
* A file is the list of its characters. The addresses are ASCII.
* `Stat` finds a file exactly when it is there.
-/

set_option autoImplicit false

namespace Haaukins.Virtual

open SharedFile

/-- The files by their paths. -/
structure ResolvDir where
  files : String → Option (List Char)
  /-- The files to which a write has failed. -/
  failed : List String

/-- Where a call of `getResolvFile` is. The name servers are sorted. -/
inductive ResolvCall where
  /-- There is no call. The last one has answered this. -/
  | idle (answer : Except String String)
  | stat (ns : List String)
  | create (ns : List String)
  /-- The file is open, and has the first `k` lines. -/
  | write (ns : List String) (k : Nat)

/-- A goroutine makes a call, or goes on with it. A failed write may have written a part. -/
inductive ResolvAction where
  | call (ns : List String)
  | step (err : Option (String × Nat))

/-- `sort.Strings`. -/
def sortStrings (ns : List String) : List String := ns.insertionSort fun a b => a ≤ b

/-- The lines of a file. -/
def resolvLines (ns : List String) : List (List Char) :=
  ns.map fun nameserver => ("nameserver " ++ nameserver ++ "\n").toList

/-- The text of a file. -/
def resolvText (ns : List String) : List Char := (resolvLines ns).flatten

/-- The path of a file. `digest` is the MD5 sum in hexadecimal digits. -/
def resolvPath (digest : String → String) (tmpdir : String) (ns : List String) : String :=
  tmpdir ++ "/resolvconf-" ++ digest (",".intercalate ns)

section
variable (digest : String → String) (tmpdir : String)

/-- `getResolvFile`. -/
def resolvStep (d : ResolvDir) : ResolvCall → ResolvAction → Option (ResolvDir × ResolvCall)
  | .idle _, .call ns => some (d, .stat (sortStrings ns))
  | .stat ns, .step _ =>
    let path := resolvPath digest tmpdir ns
    if (d.files path).isSome then some (d, .idle (.ok path)) else some (d, .create ns)
  | .create ns, .step err =>
    match err with
    | some (err, _) => some (d, .idle (.error err))
    -- `os.Create` empties a file that another goroutine has created since.
    | none =>
      some ({ d with files := Function.update d.files (resolvPath digest tmpdir ns) (some []) },
        .write ns 0)
  | .write ns k, .step err =>
    let path := resolvPath digest tmpdir ns
    match (resolvLines ns)[k]? with
    | none => some (d, .idle (.ok path))
    | some line =>
      let written := match err with
        | some (_, n) => line.take n
        | none => line
      let file :=
        writeAt (Char.ofNat 0) ((d.files path).getD []) (offsetOf (resolvLines ns) k) written
      let d := { d with files := Function.update d.files path (some file) }
      match err with
      | some (err, _) => some ({ d with failed := path :: d.failed }, .idle (.error err))
      | none => some (d, .write ns (k + 1))
  | _, _ => none

/-- The goroutines that call `getResolvFile`. There is no file at first. -/
def resolvCalls : Program ResolvDir ResolvCall ResolvAction where
  init d := (d.files = fun _ => none) ∧ d.failed = []
  start := .idle (.ok "")
  step := resolvStep digest tmpdir

/-- The digest tells the requested lists apart. -/
def NoCollision (requested : List String → Prop) : Prop :=
  ∀ ns ns', requested ns → requested ns' →
    resolvPath digest tmpdir ns = resolvPath digest tmpdir ns' → ns = ns'

end

/-- The calls are for requested lists. -/
def ForRequested (requested : List String → Prop) (_ : Threads ResolvDir ResolvCall)
    (a : Nat × ResolvAction) : Prop :=
  ∀ ns, a.2 = .call ns → requested (sortStrings ns)

/-- The list of a call that writes, or is about to. -/
def ResolvCall.writes : ResolvCall → Option (List String)
  | .create ns | .write ns _ => some ns
  | .idle _ | .stat _ => none

/-- The list of a call. -/
def ResolvCall.servers : ResolvCall → Option (List String)
  | .stat ns | .create ns | .write ns _ => some ns
  | .idle _ => none

variable {digest : String → String} {tmpdir : String} {requested : List String → Prop}
  {s t : Threads ResolvDir ResolvCall}

/-- What holds between the steps of the calls. -/
structure ResolvInv (digest : String → String) (tmpdir : String) (requested : List String → Prop)
    (s : Threads ResolvDir ResolvCall) : Prop where
  servers : ∀ i ns, (s.thread i).servers = some ns → requested ns
  isOpen : ∀ i ns k, s.thread i = .write ns k →
    (s.shared.files (resolvPath digest tmpdir ns)).isSome = true
  within : ∀ ns file, requested ns → s.shared.files (resolvPath digest tmpdir ns) = some file →
    Within (Char.ofNat 0) (resolvText ns) file
  /-- A file that is not complete has a writer that will complete it. -/
  writer : ∀ ns file, requested ns → s.shared.files (resolvPath digest tmpdir ns) = some file →
    file = resolvText ns ∨ resolvPath digest tmpdir ns ∈ s.shared.failed ∨
      ∃ i k, s.thread i = .write ns k ∧
        Agrees (resolvText ns) file (offsetOf (resolvLines ns) k)

/-- What a step does, for each place from which it can be taken. -/
inductive ResolvStep (digest : String → String) (tmpdir : String) (d : ResolvDir) :
    ResolvCall → ResolvAction → ResolvDir → ResolvCall → Prop where
  | call {answer : Except String String} {ns : List String} :
      ResolvStep digest tmpdir d (.idle answer) (.call ns) d (.stat (sortStrings ns))
  | found {ns : List String} {err : Option (String × Nat)} {answer : Except String String} :
      ResolvStep digest tmpdir d (.stat ns) (.step err) d (.idle answer)
  | absent {ns : List String} {err : Option (String × Nat)}
      (h : d.files (resolvPath digest tmpdir ns) = none) :
      ResolvStep digest tmpdir d (.stat ns) (.step err) d (.create ns)
  | createFailed {ns : List String} {err : String × Nat} {answer : Except String String} :
      ResolvStep digest tmpdir d (.create ns) (.step (some err)) d (.idle answer)
  | created {ns : List String} :
      ResolvStep digest tmpdir d (.create ns) (.step none)
        { d with files := Function.update d.files (resolvPath digest tmpdir ns) (some []) }
        (.write ns 0)
  | ended {ns : List String} {k : Nat} {err : Option (String × Nat)}
      {answer : Except String String} (h : (resolvLines ns)[k]? = none) :
      ResolvStep digest tmpdir d (.write ns k) (.step err) d (.idle answer)
  | wrote {ns : List String} {k : Nat} {line : List Char} (h : (resolvLines ns)[k]? = some line) :
      ResolvStep digest tmpdir d (.write ns k) (.step none)
        { d with files := Function.update d.files (resolvPath digest tmpdir ns) (some
            (writeAt (Char.ofNat 0) ((d.files (resolvPath digest tmpdir ns)).getD [])
              (offsetOf (resolvLines ns) k) line)) }
        (.write ns (k + 1))
  | writeFailed {ns : List String} {k n : Nat} {line : List Char} {err : String}
      {answer : Except String String} (h : (resolvLines ns)[k]? = some line) :
      ResolvStep digest tmpdir d (.write ns k) (.step (some (err, n)))
        { files := Function.update d.files (resolvPath digest tmpdir ns) (some
            (writeAt (Char.ofNat 0) ((d.files (resolvPath digest tmpdir ns)).getD [])
              (offsetOf (resolvLines ns) k) (line.take n)))
          failed := resolvPath digest tmpdir ns :: d.failed }
        (.idle answer)

/-- What one step of a call does. -/
theorem resolvStep_cases {d d' : ResolvDir} {u u' : ResolvCall} {a : ResolvAction}
    (h : resolvStep digest tmpdir d u a = some (d', u')) :
    ResolvStep digest tmpdir d u a d' u' := by
  cases u <;> cases a <;> simp only [resolvStep, reduceCtorEq] at h
  case idle.call answer ns =>
    cases h
    exact .call
  case stat.step ns err =>
    split at h <;> cases h
    · exact .found
    · next habsent => exact .absent (Option.not_isSome_iff_eq_none.mp habsent)
  case create.step ns err =>
    split at h <;> cases h
    · exact .createFailed
    · exact .created
  case write.step ns k err =>
    split at h
    · next hline =>
      cases h
      exact .ended hline
    · next line hline =>
      cases err with
      | none =>
        cases h
        exact .wrote hline
      | some err =>
        cases h
        exact .writeFailed hline

/-- A step that leaves the files as they are. The goroutine is not about to write a file that is not
there, and a writer that leaves has written all. -/
theorem ResolvInv.quiet {k : Nat} {u u' : ResolvCall} (h : ResolvInv digest tmpdir requested s)
    (hothers : ∀ j, j ≠ k → t.thread j = s.thread j) (hu : s.thread k = u) (hu' : t.thread k = u')
    (hshared : t.shared = s.shared) (hservers : ∀ ns, u'.servers = some ns → requested ns)
    (hnew : ∀ ns n, u' ≠ .write ns n)
    (hold : ∀ ns n, u = .write ns n → (resolvLines ns)[n]? = none) :
    ResolvInv digest tmpdir requested t := by
  subst hu hu'
  constructor
  case servers =>
    intro i ns hi
    by_cases hik : i = k
    · exact hservers ns (hik ▸ hi)
    · exact h.servers i ns (hothers i hik ▸ hi)
  -- Only goroutine `k` moves, and it does not come to a write.
  case isOpen =>
    intro i ns n hi
    have hik : i ≠ k := fun heq => hnew ns n (heq ▸ hi)
    rw [hshared]
    exact h.isOpen i ns n (hothers i hik ▸ hi)
  case within =>
    rw [hshared]
    exact h.within
  case writer =>
    intro ns file hns hfile
    rw [hshared] at hfile ⊢
    obtain hfull | hfailed | ⟨i, n, hi, hagrees⟩ := h.writer ns file hns hfile
    · exact .inl hfull
    · exact .inr (.inl hfailed)
    · by_cases hik : i = k
      · -- The writer has come to the end of the lines.
        subst hik
        have hend : (resolvLines ns).length ≤ n := List.getElem?_eq_none_iff.mp (hold ns n hi)
        have hoffset : offsetOf (resolvLines ns) n = (resolvText ns).length := by
          rw [offsetOf, List.take_of_length_le hend, resolvText]
        rw [hoffset] at hagrees
        exact .inl ((h.within ns file hns hfile).eq_of_agrees hagrees)
      · exact .inr (.inr ⟨i, n, hothers i hik ▸ hi, hagrees⟩)

/-- A step that changes the file of its goroutine. -/
theorem ResolvInv.update {k : Nat} {u u' : ResolvCall} {ns : List String} {file : List Char}
    (hno : NoCollision digest tmpdir requested) (h : ResolvInv digest tmpdir requested s)
    (hothers : ∀ j, j ≠ k → t.thread j = s.thread j) (hu : s.thread k = u) (hu' : t.thread k = u')
    (hold : u.servers = some ns) (hnew : ∀ ns', u'.servers = some ns' → ns' = ns)
    (hfiles : t.shared.files =
      Function.update s.shared.files (resolvPath digest tmpdir ns) (some file))
    (hfailed : s.shared.failed ⊆ t.shared.failed)
    (hwithin : Within (Char.ofNat 0) (resolvText ns) file)
    (hwriter : file = resolvText ns ∨ resolvPath digest tmpdir ns ∈ t.shared.failed ∨
      ∃ i n, t.thread i = .write ns n ∧
        Agrees (resolvText ns) file (offsetOf (resolvLines ns) n)) :
    ResolvInv digest tmpdir requested t := by
  subst hu hu'
  have hns := h.servers k ns hold
  -- Another list has another file.
  have hother : ∀ ns', requested ns' → ns' ≠ ns →
      t.shared.files (resolvPath digest tmpdir ns') =
        s.shared.files (resolvPath digest tmpdir ns') := by
    intro ns' hns' hne
    rw [hfiles]
    exact Function.update_of_ne (fun heq => hne (hno ns' ns hns' hns heq)) _ _
  have hown : t.shared.files (resolvPath digest tmpdir ns) = some file := by
    rw [hfiles, Function.update_self]
  have hservers : ∀ i ns', (t.thread i).servers = some ns' → requested ns' := by
    intro i ns' hi
    by_cases hik : i = k
    · rw [hnew ns' (hik ▸ hi)]
      exact hns
    · exact h.servers i ns' (hothers i hik ▸ hi)
  constructor
  case servers => exact hservers
  case isOpen =>
    intro i ns' n hi
    by_cases heq : ns' = ns
    · rw [heq, hown]
      rfl
    · have hik : i ≠ k := fun hik => heq (hnew ns' (by rw [← hik, hi]; rfl))
      rw [hother ns' (hservers i ns' (by rw [hi]; rfl)) heq]
      exact h.isOpen i ns' n (hothers i hik ▸ hi)
  case within =>
    intro ns' file' hns' hfile
    by_cases heq : ns' = ns
    · subst heq
      rw [hown] at hfile
      cases hfile
      exact hwithin
    · rw [hother ns' hns' heq] at hfile
      exact h.within ns' file' hns' hfile
  case writer =>
    intro ns' file' hns' hfile
    by_cases heq : ns' = ns
    · subst heq
      rw [hown] at hfile
      cases hfile
      exact hwriter
    · rw [hother ns' hns' heq] at hfile
      obtain hfull | hfail | ⟨i, n, hi, hagrees⟩ := h.writer ns' file' hns' hfile
      · exact .inl hfull
      · exact .inr (.inl (hfailed hfail))
      · have hik : i ≠ k := by
          rintro rfl
          rw [hi] at hold
          exact heq (Option.some.inj hold)
        exact .inr (.inr ⟨i, n, (hothers i hik).trans hi, hagrees⟩)

/-- Each line is a piece of the text at its offset. -/
theorem piece_line {ns : List String} {k : Nat} {line : List Char}
    (h : (resolvLines ns)[k]? = some line) :
    Piece (resolvText ns) line (offsetOf (resolvLines ns) k) :=
  piece_offsetOf h

/-- A step of a call for a requested list keeps the invariant. -/
theorem resolvInv_step {k : Nat} {a : ResolvAction} (hno : NoCollision digest tmpdir requested)
    (h : ResolvInv digest tmpdir requested s) (hok : ForRequested requested s (k, a))
    (hs : ResolvStep digest tmpdir s.shared (s.thread k) a t.shared (t.thread k))
    (hothers : ∀ j, j ≠ k → t.thread j = s.thread j) : ResolvInv digest tmpdir requested t := by
  have hservers := h.servers k
  generalize hu : s.thread k = u at hs hservers
  generalize hshared : t.shared = d' at hs
  generalize hu' : t.thread k = u' at hs
  cases hs with
  | @call answer ns =>
    refine h.quiet hothers hu hu' hshared (fun ns' hns' => ?_) nofun nofun
    cases hns'
    exact hok ns rfl
  | found => exact h.quiet hothers hu hu' hshared nofun nofun nofun
  | absent => exact h.quiet hothers hu hu' hshared hservers nofun nofun
  | createFailed => exact h.quiet hothers hu hu' hshared nofun nofun nofun
  -- The file is empty from here on, and its writer is at the first line.
  | @created ns =>
    refine h.update hno hothers hu hu' rfl (fun ns' hns' => (Option.some.inj hns').symm)
      (congrArg ResolvDir.files hshared) ?_ (within_nil _ _) ?_
    · rw [hshared]
      exact List.Subset.refl _
    · exact .inr (.inr ⟨k, 0, hu', agrees_zero _ _⟩)
  | @ended ns n err answer hline =>
    refine h.quiet hothers hu hu' hshared nofun nofun fun ns' n' heq => ?_
    cases heq
    exact hline
  -- The line lands in the file under its path, at its place in the text.
  | @wrote ns n line hline =>
    obtain ⟨file, hfile⟩ := Option.isSome_iff_exists.mp (h.isOpen k ns n hu)
    have hpiece := piece_line hline
    have hwithin := h.within ns file (hservers ns rfl) hfile
    rw [hfile, Option.getD_some] at hshared
    refine h.update hno hothers hu hu' rfl (fun ns' hns' => (Option.some.inj hns').symm)
      (congrArg ResolvDir.files hshared) ?_ (hwithin.writeAt hpiece) ?_
    · rw [hshared]
      exact List.Subset.refl _
    · obtain hfull | hfailed | ⟨i, m, hi, hagrees⟩ := h.writer ns file (hservers ns rfl) hfile
      · -- The line was there already.
        subst hfull
        exact .inl ((hwithin.writeAt hpiece).eq_of_agrees
          (Agrees.writeAt (fun _ _ => rfl) hpiece))
      · rw [hshared]
        exact .inr (.inl hfailed)
      · by_cases hik : i = k
        · subst hik
          rw [hu] at hi
          cases hi
          exact .inr (.inr ⟨i, n + 1, hu', offsetOf_succ hline ▸ hagrees.writeAt_self hpiece⟩)
        · exact .inr (.inr ⟨i, m, (hothers i hik).trans hi, hagrees.writeAt hpiece⟩)
  -- A part of the line lands, and the failure is on record.
  | @writeFailed ns n m line err answer hline =>
    obtain ⟨file, hfile⟩ := Option.isSome_iff_exists.mp (h.isOpen k ns n hu)
    have hwithin := h.within ns file (hservers ns rfl) hfile
    rw [hfile, Option.getD_some] at hshared
    refine h.update hno hothers hu hu' rfl nofun (congrArg ResolvDir.files hshared) ?_
      (hwithin.writeAt ((piece_line hline).take m)) ?_
    · rw [hshared]
      exact List.subset_cons_self _ _
    · rw [hshared]
      exact .inr (.inl List.mem_cons_self)

/-- The invariant holds in every interleaving. -/
theorem resolv_inv (hno : NoCollision digest tmpdir requested)
    (hs : (resolvCalls digest tmpdir).threads.Reachable (ForRequested requested) s) :
    ResolvInv digest tmpdir requested s := by
  refine hs.invariant (ResolvInv digest tmpdir requested) ?_ ?_
  · rintro s ⟨⟨hfiles, -⟩, hthread⟩
    have hidle : ∀ i, s.thread i = .idle (.ok "") := fun i => congrFun hthread i
    constructor <;> simp [hfiles, hidle, ResolvCall.servers]
  · rintro s ⟨k, a⟩ t h hok hstep
    obtain ⟨hself, hothers⟩ := Program.threads_step_self hstep
    exact resolvInv_step hno h hok (resolvStep_cases hself) hothers

/-- A file that is there, and that no goroutine writes. -/
structure Resting (digest : String → String) (tmpdir : String) (ns : List String)
    (file : List Char) (s : Threads ResolvDir ResolvCall) : Prop where
  there : s.shared.files (resolvPath digest tmpdir ns) = some file
  writes : ∀ i, (s.thread i).writes ≠ some ns

/-- A file at rest is found by each call, and no call writes it. -/
theorem Resting.step {ns : List String} {file : List Char} {k : Nat} {a : ResolvAction}
    (hno : NoCollision digest tmpdir requested) (hns : requested ns)
    (h : Resting digest tmpdir ns file s) (hinv : ResolvInv digest tmpdir requested s)
    (hs : ResolvStep digest tmpdir s.shared (s.thread k) a t.shared (t.thread k))
    (hothers : ∀ j, j ≠ k → t.thread j = s.thread j) : Resting digest tmpdir ns file t := by
  have hthere := h.there
  have hservers := hinv.servers k
  have hself := h.writes k
  have hwrites : (t.thread k).writes ≠ some ns → ∀ i, (t.thread i).writes ≠ some ns := by
    intro hk i
    by_cases hik : i = k
    · exact hik ▸ hk
    · exact hothers i hik ▸ h.writes i
  generalize hshared : t.shared = d' at hs
  generalize s.thread k = u at hs hservers hself
  generalize t.thread k = u' at hs hwrites
  -- A call for another list has another file.
  have hother : ∀ {ns' file'}, u.servers = some ns' → ns' ≠ ns →
      Function.update s.shared.files (resolvPath digest tmpdir ns') (some file')
        (resolvPath digest tmpdir ns) = some file := by
    intro ns' file' hu hne
    rw [Function.update_of_ne, hthere]
    exact fun heq => hne (hno ns' ns (hservers ns' hu) hns heq.symm)
  cases hs with
  | call | found | createFailed | ended => exact ⟨hshared ▸ hthere, hwrites nofun⟩
  | @absent ns' err habsent =>
    refine ⟨hshared ▸ hthere, hwrites fun heq => ?_⟩
    cases heq
    rw [hthere] at habsent
    cases habsent
  | @created ns' =>
    have hne : ns' ≠ ns := fun heq => hself (congrArg some heq)
    exact ⟨hshared ▸ hother rfl hne, hwrites fun heq => hne (Option.some.inj heq)⟩
  | @wrote ns' n line hline =>
    have hne : ns' ≠ ns := fun heq => hself (congrArg some heq)
    exact ⟨hshared ▸ hother rfl hne, hwrites fun heq => hne (Option.some.inj heq)⟩
  | @writeFailed ns' n m line err answer hline =>
    have hne : ns' ≠ ns := fun heq => hself (congrArg some heq)
    exact ⟨hshared ▸ hother rfl hne, hwrites nofun⟩

/-- What a file at rest has, it has for ever. -/
theorem resolvFile_stays {ns : List String} {file : List Char}
    (hno : NoCollision digest tmpdir requested) (hns : requested ns)
    (hinv : ResolvInv digest tmpdir requested s) (h : Resting digest tmpdir ns file s)
    {as : List (Nat × ResolvAction)}
    (has : ∀ a ∈ as, ∀ ns, a.2 = .call ns → requested (sortStrings ns))
    (hrun : (resolvCalls digest tmpdir).threads.run s as = some t) :
    t.shared.files (resolvPath digest tmpdir ns) = some file := by
  have hrest : ResolvInv digest tmpdir requested t ∧ Resting digest tmpdir ns file t := by
    refine Machine.run_invariant
      (I := fun s => ResolvInv digest tmpdir requested s ∧ Resting digest tmpdir ns file s)
      (A := fun a : Nat × ResolvAction => ∀ ns, a.2 = .call ns → requested (sortStrings ns))
      ?_ ⟨hinv, h⟩ has hrun
    rintro s ⟨k, a⟩ t ⟨hinv, h⟩ hok hstep
    obtain ⟨hself, hothers⟩ := Program.threads_step_self hstep
    have hs := resolvStep_cases hself
    exact ⟨resolvInv_step hno hinv hok hs hothers, h.step hno hns hinv hs hothers⟩
  exact hrest.2.there

/-- While goroutines write a file, each of its characters is the right one or a gap. When none does,
the file is complete or a write to it has failed, and no later call changes it. -/
theorem resolvFile_complete (hno : NoCollision digest tmpdir requested)
    (hs : (resolvCalls digest tmpdir).threads.Reachable (ForRequested requested) s)
    {ns : List String} (hns : requested ns) {file : List Char}
    (hfile : s.shared.files (resolvPath digest tmpdir ns) = some file) :
    Within (Char.ofNat 0) (resolvText ns) file ∧
    ((∀ i, (s.thread i).writes ≠ some ns) →
      (resolvPath digest tmpdir ns ∉ s.shared.failed → file = resolvText ns) ∧
      ∀ as t, (∀ a ∈ as, ∀ ns, a.2 = .call ns → requested (sortStrings ns)) →
        (resolvCalls digest tmpdir).threads.run s as = some t →
          t.shared.files (resolvPath digest tmpdir ns) = some file) := by
  have hinv := resolv_inv hno hs
  refine ⟨hinv.within ns file hns hfile, fun hrest => ⟨fun hfailed => ?_, fun as t has hrun => ?_⟩⟩
  · obtain hfull | hfail | ⟨i, n, hi, -⟩ := hinv.writer ns file hns hfile
    · exact hfull
    · exact absurd hfail hfailed
    · exact absurd (by rw [hi]; rfl) (hrest i)
  · exact resolvFile_stays hno hns hinv ⟨hfile, hrest⟩ has hrun

/-- The MD5 sum of the only name server below. -/
def resolvDigest (s : String) : String :=
  if s = "10.0.0.3" then "0069403611eca9fb8238d79afd9b0e46" else s

/-- Two goroutines find no file. The first one creates it and writes it, then the second one empties
it, and the disk is full when it writes. -/
theorem resolvFile_complete_full :
    ∃ s file, (resolvCalls resolvDigest "/tmp").threads.Reachable
        (ForRequested fun ns => ns = ["10.0.0.3"]) s ∧
      s.shared.files (resolvPath resolvDigest "/tmp" ["10.0.0.3"]) = some file ∧
      Within (Char.ofNat 0) (resolvText ["10.0.0.3"]) file ∧
      ((∀ i, (s.thread i).writes ≠ some ["10.0.0.3"]) →
        (resolvPath resolvDigest "/tmp" ["10.0.0.3"] ∉ s.shared.failed →
          file = resolvText ["10.0.0.3"]) ∧
        ∀ as t, (∀ a ∈ as, ∀ ns, a.2 = .call ns → sortStrings ns = ["10.0.0.3"]) →
          (resolvCalls resolvDigest "/tmp").threads.run s as = some t →
            t.shared.files (resolvPath resolvDigest "/tmp" ["10.0.0.3"]) = some file) := by
  let first : Threads ResolvDir ResolvCall :=
    { shared := { files := fun _ => none, failed := [] }, thread := fun _ => .idle (.ok "") }
  have hfirst : (resolvCalls resolvDigest "/tmp").threads.Reachable
      (ForRequested fun ns => ns = ["10.0.0.3"]) first := .init ⟨⟨rfl, rfl⟩, rfl⟩
  let actions : List (Nat × ResolvAction) :=
    [(0, .call ["10.0.0.3"]), (1, .call ["10.0.0.3"]), (0, .step none), (1, .step none),
      (0, .step none), (0, .step none), (1, .step none), (1, .step (some ("disk full", 3)))]
  obtain ⟨s, hrun, hfile⟩ : ∃ s, (resolvCalls resolvDigest "/tmp").threads.run first actions =
      some s ∧ s.shared.files (resolvPath resolvDigest "/tmp" ["10.0.0.3"]) =
        some "nam".toList := ⟨_, rfl, by decide⟩
  have hcalls : ∀ a ∈ actions, ∀ ns, a.2 = .call ns → sortStrings ns = ["10.0.0.3"] := by
    simp [actions, sortStrings]
  have hreach := hfirst.run (Machine.allSteps_of_forall hcalls) hrun
  refine ⟨s, _, hreach, hfile, resolvFile_complete ?_ hreach rfl hfile⟩
  intro ns ns' hns hns' _
  exact hns.trans hns'.symm

end Haaukins.Virtual
