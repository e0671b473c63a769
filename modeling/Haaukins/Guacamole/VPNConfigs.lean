import Haaukins.Lib.GoStrings
import Haaukins.Lib.SharedDir
import Haaukins.Store.Event

/-!
# `Haaukins.Guacamole.VPNConfigs`: the configuration files of the teams (`event.go`)

All VPN events write the configurations of their teams into one directory. `AssignLab` names the
file of a team `<tag>_<id>.conf`, and `removeVPNConfs` of a stopped event removes what `<tag>*`
matches. The event `test` so removes the files of the event `test2`.

* `vpnConfs_kept_iff` is the condition on the tags under which no event loses a file to another.
* `vpnConfs_files_iff` says that under this condition the files are exactly those of the teams of
  the events that run.

An action is one round of the loop of `AssignLab`, or one call of `os.Remove`. An event leaves when
`StopEvent` takes it out of the pool. The directory is a path without special characters. An
`AssignLab` that is still at work after its event was stopped is left out.
-/

set_option autoImplicit false

namespace Haaukins.Guacamole

open SharedDir
open Store (validateTag)

/-- The file name in `AssignLab`. -/
def confFile (dir tag id : String) : String := dir ++ tag ++ "_" ++ id ++ ".conf"

/-- `filepath.Glob` of `pattern + "*"` gives the path. A star matches no slash. -/
def globStar (pattern path : String) : Bool :=
  pattern.toList.isPrefixOf path.toList && !(path.toList.drop pattern.toList.length).contains '/'

/-- The events by their tags, and the teams of an event by their ids. `removeVPNConfs` has the
pattern. -/
def vpnConfs (dir : String) : DirLayout String String String where
  path tag id := confFile dir tag id
  sweeps tag path := globStar (dir ++ tag) path

/-- No tag is the beginning of another one. -/
def PrefixFree (T : Set String) : Prop :=
  ∀ tag ∈ T, ∀ tag' ∈ T, tag.toList <+: tag'.toList → tag = tag'

/-- A step as `Orderly` has it, where ids have no slash and files can be removed. -/
def Stops (dir : String) (T : Set String) (s : SharedDir String String String String)
    (a : DirAction String String String) : Prop :=
  Orderly (vpnConfs dir) T s a ∧
    match a with
    | .write _ id _ _ => '/' ∉ id.toList
    | .remove _ err => err = none
    | .enter _ | .leave _ | .list _ => True

/-! ### The names of the files -/

/-- The name of a file, character by character. -/
theorem toList_confFile (dir tag id : String) :
    (confFile dir tag id).toList =
      dir.toList ++ (tag.toList ++ '_' :: (id.toList ++ ".conf".toList)) := by
  simp [confFile, String.toList_append]

/-- A beginning without the separator does not go past it. -/
theorem prefix_of_prefix_append_cons {xs ys zs : List Char} {c : Char} (hc : c ∉ xs) :
    xs <+: ys ++ c :: zs ↔ xs <+: ys := by
  constructor
  · intro h
    induction ys generalizing xs with
    | nil =>
      cases xs with
      | nil => exact List.prefix_rfl
      | cons x xs =>
        have hx : x = c := (List.cons_prefix_cons.mp h).1
        exact absurd List.mem_cons_self (hx ▸ hc)
    | cons y ys ih =>
      cases xs with
      | nil => exact List.nil_prefix
      | cons x xs =>
        obtain ⟨hx, h⟩ := List.cons_prefix_cons.mp h
        exact List.cons_prefix_cons.mpr ⟨hx, ih (fun hmem => hc (List.mem_cons_of_mem x hmem)) h⟩
  · exact fun h => h.trans (List.prefix_append ys _)

/-- A valid tag has letters, digits and hyphens only. -/
theorem notMem_of_validateTag {tag : String} {c : Char} (h : validateTag tag = none)
    (hc : Store.tagChar c = false) (hne : c ≠ '-') : c ∉ tag.toList := by
  intro hmem
  rcases Store.tagChar_or_hyphen_of_validateTag h c hmem with htag | heq
  · rw [hc] at htag
    cases htag
  · exact hne heq

/-- An event's pattern matches a file exactly when its tag is the beginning of the file's tag. -/
theorem globStar_confFile (dir : String) {tag tag' id : String} (h : validateTag tag = none)
    (h' : validateTag tag' = none) :
    globStar (dir ++ tag) (confFile dir tag' id) = true ↔
      tag.toList <+: tag'.toList ∧ '/' ∉ id.toList := by
  have hscore : '_' ∉ tag.toList := notMem_of_validateTag h (by decide) (by decide)
  have hslash : '/' ∉ tag'.toList := notMem_of_validateTag h' (by decide) (by decide)
  rw [globStar, Bool.and_eq_true, List.isPrefixOf_iff_prefix, toList_confFile, String.toList_append,
    List.prefix_append_right_inj, prefix_of_prefix_append_cons hscore]
  refine and_congr_right fun hpre => ?_
  obtain ⟨rest, hrest⟩ := hpre
  rw [← hrest] at hslash ⊢
  have hrest : '/' ∉ rest := fun hmem => hslash (List.mem_append_right _ hmem)
  rw [List.append_assoc, ← List.append_assoc, List.drop_left']
  · have hconf : '/' ∉ ".conf".toList := by decide
    simp [hrest]
  · simp

variable {dir : String} {T : Set String}

/-- Two pairs of a tag and an id have two files. -/
theorem injective_vpnConfs (hvalid : ∀ tag ∈ T, validateTag tag = none) :
    (vpnConfs dir).Injective T := by
  intro tag htag tag' htag' id id' hpath
  have hscore : ∀ t ∈ T, '_' ∉ t.toList := fun t ht =>
    notMem_of_validateTag (hvalid t ht) (by decide) (by decide)
  have hlist := congrArg String.toList (show confFile dir tag id = confFile dir tag' id' from hpath)
  rw [toList_confFile, toList_confFile] at hlist
  obtain ⟨hfirst, hrest⟩ := GoStrings.append_cons_inj (hscore tag htag) (hscore tag' htag')
    (List.append_cancel_left hlist)
  exact ⟨String.toList_injective hfirst, String.toList_injective (List.append_cancel_right hrest)⟩

/-- The patterns meet only their own files if and only if no tag begins another one. -/
theorem apart_vpnConfs_iff (hvalid : ∀ tag ∈ T, validateTag tag = none) :
    (vpnConfs dir).Apart T ↔ PrefixFree T := by
  constructor
  · intro hapart tag htag tag' htag' hpre
    by_contra hne
    have hnot : globStar (dir ++ tag) (confFile dir tag' "") = false :=
      hapart tag htag tag' htag' hne ""
    have hglob : globStar (dir ++ tag) (confFile dir tag' "") = true :=
      (globStar_confFile dir (hvalid tag htag) (hvalid tag' htag')).mpr ⟨hpre, by decide⟩
    rw [hnot] at hglob
    cases hglob
  · intro hfree tag htag tag' htag' hne id
    refine Bool.eq_false_iff.mpr fun hglob => hne ?_
    exact hfree tag htag tag' htag'
      ((globStar_confFile dir (hvalid tag htag) (hvalid tag' htag')).mp hglob).1

/-! ### The files of the events -/

/-- No running event loses the file of a team, whatever other events start and stop meanwhile, if
and only if no tag is the beginning of another one. -/
theorem vpnConfs_kept_iff (dir : String) {T : Set String}
    (hvalid : ∀ tag ∈ T, validateTag tag = none) :
    (∀ s : SharedDir String String String String,
      (machine (vpnConfs dir)).Reachable (Orderly (vpnConfs dir) T) s → Kept (vpnConfs dir) s) ↔
      PrefixFree T := by
  rw [kept_iff (injective_vpnConfs hvalid) "[Interface]"]
  exact apart_vpnConfs_iff hvalid

/-- The event `test` removes a file of the event `test2`. -/
theorem vpnConfs_kept_test :
    ¬ ∀ s : SharedDir String String String String,
      (machine (vpnConfs "/etc/wireguard/")).Reachable
          (Orderly (vpnConfs "/etc/wireguard/") {"test", "test2"}) s →
        Kept (vpnConfs "/etc/wireguard/") s := by
  have hvalid : ∀ tag ∈ ({"test", "test2"} : Set String), validateTag tag = none := by
    intro tag htag
    rcases htag with rfl | rfl <;> decide
  intro hkept
  have hfree := (vpnConfs_kept_iff "/etc/wireguard/" hvalid).mp hkept
  have heq : "test" = "test2" := hfree "test" (.inl rfl) "test2" (.inr rfl) (by decide)
  revert heq
  decide

/-- Such a step is one of a thorough run: a file without a slash in its id is swept by its tag. -/
theorem Stops.thorough (hvalid : ∀ tag ∈ T, validateTag tag = none)
    {s s' : SharedDir String String String String} {a : DirAction String String String}
    (howners : ∀ tag ∈ s.owners, tag ∈ T) (h : Stops dir T s a)
    (hstep : (machine (vpnConfs dir)).step s a = some s') : Thorough (vpnConfs dir) T s a := by
  refine ⟨h.1, ?_⟩
  cases a with
  | write tag id conf w =>
    change (SharedDir.step (vpnConfs dir) s (.write tag id conf w)) = some s' at hstep
    rw [SharedDir.step] at hstep
    split at hstep
    · cases hstep
    next confs hconfs =>
      have htag := hvalid tag (howners tag (GoMap.mem_iff_get?.mpr ⟨confs, hconfs⟩))
      exact (globStar_confFile dir htag htag).mpr ⟨List.prefix_rfl, h.2⟩
  | remove n err => exact h.2
  | enter tag => trivial
  | leave tag => trivial
  | list n => trivial

/-- When no tag is the beginning of another one, the files are exactly those of the teams of the
events that run, at each moment at which no stopped event has files to remove. Each of them has the
last configuration of its team. -/
theorem vpnConfs_files_iff (dir : String) {T : Set String}
    (hvalid : ∀ tag ∈ T, validateTag tag = none) (hfree : PrefixFree T)
    {s : SharedDir String String String String}
    (h : (machine (vpnConfs dir)).Reachable (Stops dir T) s) (hquiet : Quiet s)
    (path conf : String) :
    s.files.get? path = some conf ↔
      ∃ tag confs id, s.owners.get? tag = some confs ∧ confs.get? id = some conf ∧
        confFile dir tag id = path := by
  have hinj : (vpnConfs dir).Injective T := injective_vpnConfs hvalid
  have hapart : (vpnConfs dir).Apart T := (apart_vpnConfs_iff hvalid).mpr hfree
  have hthorough : (machine (vpnConfs dir)).Reachable (Thorough (vpnConfs dir) T) s := by
    refine h.strengthen (Inv (vpnConfs dir) T) (fun s hs => ?_) fun s a t hs hok hstep => ?_
    · rw [show s = ⟨∅, ∅, []⟩ from hs]
      exact .init
    · exact ⟨hs.step hinj hapart hok.1 hstep, hok.thorough hvalid hs.owners hstep⟩
  exact files_iff_live hinj hapart hthorough hquiet path conf

/-- Two events start, and one of them stops. -/
def stopWeb : List (DirAction String String String) :=
  [.enter "web", .write "web" "a1" "web conf" .all, .enter "pwn", .write "pwn" "b2" "pwn conf" .all,
    .leave "web", .list 0, .remove 0 none]

/-- The run that stops `web` is one of stops. -/
theorem stops_stopWeb : (machine (vpnConfs "/etc/wireguard/")).AllSteps
    (Stops "/etc/wireguard/" {"web", "pwn"}) ⟨∅, ∅, []⟩ stopWeb := by
  intro t ht
  refine ⟨⟨⟨.inl rfl, by simp⟩, trivial⟩, ?_⟩
  cases ht
  intro t ht
  refine ⟨⟨show Lands _ _ _ _ from rfl, show _ ∉ _ by decide⟩, ?_⟩
  cases ht
  intro t ht
  refine ⟨⟨⟨.inr rfl, by simp⟩, trivial⟩, ?_⟩
  cases ht
  intro t ht
  refine ⟨⟨show Lands _ _ _ _ from rfl, show _ ∉ _ by decide⟩, ?_⟩
  cases ht
  intro t ht
  refine ⟨⟨trivial, trivial⟩, ?_⟩
  cases ht
  intro t ht
  refine ⟨⟨trivial, trivial⟩, ?_⟩
  cases ht
  intro t ht
  exact ⟨⟨trivial, rfl⟩, trivial⟩

/-- The file of the event `web` is gone, and no event has it. -/
theorem vpnConfs_files_web : ∃ s,
    (machine (vpnConfs "/etc/wireguard/")).run ⟨∅, ∅, []⟩ stopWeb = some s ∧
    s.files.get? "/etc/wireguard/pwn_b2.conf" = some "pwn conf" ∧
    (s.files.get? "/etc/wireguard/web_a1.conf" = some "web conf" ↔
      ∃ tag confs id, s.owners.get? tag = some confs ∧ confs.get? id = some "web conf" ∧
        confFile "/etc/wireguard/" tag id = "/etc/wireguard/web_a1.conf") := by
  refine ⟨_, rfl, by decide, ?_⟩
  have hvalid : ∀ tag ∈ ({"web", "pwn"} : Set String), validateTag tag = none := by
    intro tag htag
    rcases htag with rfl | rfl <;> decide
  have hfree : PrefixFree ({"web", "pwn"} : Set String) := by
    intro tag htag tag' htag'
    rcases htag with rfl | rfl <;> rcases htag' with rfl | rfl <;> decide
  have hreach := Machine.Reachable.run (.init rfl) stops_stopWeb rfl
  refine vpnConfs_files_iff "/etc/wireguard/" hvalid hfree hreach (fun l hl => ?_) _ _
  have hweb : l = ⟨"web", some []⟩ := List.mem_singleton.mp hl
  rw [hweb]

end Haaukins.Guacamole
