import Haaukins.Daemon.EventPool

/-!
# `Haaukins.Daemon.EventRouting`: the host names of events (`daemon/eventpool.go`)

The page of an event with tag `t` is at the host name `t.h`, where `h` is the host name of the
pool. `ServeHTTP` splits the `Host` of a request at its first dot and compares what follows with
`h`, but only asks that it begins with `h`. So it serves every `Host` that begins with the host
name of a registered tag without dots (`servedTag_eq_some`), whatever follows.

`RoutesByHost` says that a request is passed to an event exactly when its `Host` is the host name
of the event, possibly with a port. It holds for exactly the hosts in `NoStrayHost`
(`routesByHost_iff`).
-/

set_option autoImplicit false

namespace Haaukins.Daemon

open GoStrings

/-- What may follow the name in a `Host`: nothing, or `:` and a port, which is a number. -/
def OptionalPort (rest : String) : Prop :=
  rest = "" ∨ ∃ port, IsDecimal port ∧ rest = ":" ++ port

namespace EventPool

variable {ε : Type*} (ep : EventPool ε)

/-- The host name of the event with this tag. -/
def eventHost (tag : String) : String := tag ++ "." ++ ep.host

/-- The `Host` of requests to the event: its host name, possibly with a port. -/
def IsHostOf (tag host : String) : Prop :=
  ∃ rest, OptionalPort rest ∧ host = ep.eventHost tag ++ rest

/-- The tag whose handler `ServeHTTP` calls, or `none` for `notFoundHandler`. -/
def servedTag (host : String) : Option String :=
  match ep.requestTag host with
  | none => none
  | some tag => if (ep.handlers.get? tag).isSome then some tag else none

/-- A request with this `Host` is passed to the handler of a tag exactly when the tag is
registered and the `Host` is its own. -/
structure RoutesByHost (host : String) : Prop where
  dispatches : ∀ tag, ep.servedTag host = some tag ↔ tag ∈ ep.handlers ∧ ep.IsHostOf tag host
  served : ∀ tag, ep.servedTag host = some tag → ep.serveHTTP host = ep.handlers.get? tag
  notFound : (∀ tag ∈ ep.handlers, ¬ ep.IsHostOf tag host) → ep.serveHTTP host = none

/-- The `Host` is not the host name of a registered tag with something else than a port behind
it, and not the one of a registered tag that has dots. -/
structure NoStrayHost (host : String) : Prop where
  rest : ∀ tag ∈ ep.handlers, '.' ∉ tag.toList → ∀ rest, host = ep.eventHost tag ++ rest →
    OptionalPort rest
  dots : ∀ tag ∈ ep.handlers, '.' ∈ tag.toList → ¬ ep.IsHostOf tag host

variable {ep} {tag host : String}

/-- The `Host` is of this event when a port follows its host name, or nothing. -/
theorem isHostOf_append {rest : String} :
    ep.IsHostOf tag (ep.eventHost tag ++ rest) ↔ OptionalPort rest := by
  constructor
  · rintro ⟨rest', hrest', heq⟩
    rw [String.append_right_inj] at heq
    rwa [heq]
  · intro hrest
    exact ⟨rest, hrest, rfl⟩

/-- The tag is the part before the first dot, and the domain has to begin with the pool's. -/
theorem requestTag_eq_some :
    ep.requestTag host = some tag ↔
      '.' ∉ tag.toList ∧ ∃ rest, host = ep.eventHost tag ++ rest := by
  have hhost : ∀ rest, ep.eventHost tag ++ rest =
      tag ++ (String.singleton '.' ++ (ep.host ++ rest)) := by
    intro rest
    rw [eventHost, String.append_assoc, String.append_assoc]
    rfl
  constructor
  · intro h
    unfold requestTag at h
    cases hsplit : splitFirst host '.' with
    | none => rw [hsplit] at h; cases h
    | some parts =>
      obtain ⟨sub, dom⟩ := parts
      obtain ⟨hdots, htext⟩ := splitFirst_eq_some.mp hsplit
      simp only [hsplit] at h
      split at h
      · next hdom =>
        cases h
        obtain ⟨rest, hrest⟩ := List.isPrefixOf_iff_prefix.mp hdom
        have hdom : dom = ep.host ++ String.ofList rest :=
          String.toList_injective (by simpa using hrest.symm)
        refine ⟨hdots, String.ofList rest, ?_⟩
        rw [hhost, ← hdom]
        exact htext
      · cases h
  · rintro ⟨hdots, rest, rfl⟩
    have hbegins : ep.host.toList.isPrefixOf (ep.host ++ rest).toList = true := by
      rw [List.isPrefixOf_iff_prefix, String.toList_append]
      exact List.prefix_append _ _
    simp only [requestTag, hhost, splitFirst_append hdots, hbegins, if_true]

/-- Every `Host` that begins with the host name of a registered tag is passed to its handler. -/
theorem servedTag_eq_some :
    ep.servedTag host = some tag ↔
      tag ∈ ep.handlers ∧ '.' ∉ tag.toList ∧ ∃ rest, host = ep.eventHost tag ++ rest := by
  rw [← requestTag_eq_some, GoMap.mem_iff_get?]
  unfold servedTag
  cases htag : ep.requestTag host with
  | none => simp
  | some sub =>
    show (if (ep.handlers.get? sub).isSome then some sub else none) = some tag ↔ _
    constructor
    · intro h
      split at h
      · next hmem =>
        cases h
        exact ⟨Option.isSome_iff_exists.mp hmem, rfl⟩
      · cases h
    · rintro ⟨hmem, hsub⟩
      cases hsub
      rw [if_pos (Option.isSome_iff_exists.mpr hmem)]

/-- A known tag has the handler of its event. -/
theorem serveHTTP_of_servedTag (h : ep.servedTag host = some tag) :
    ep.serveHTTP host = ep.handlers.get? tag := by
  obtain ⟨-, hrequest⟩ := servedTag_eq_some.mp h
  simp only [serveHTTP, requestTag_eq_some.mpr hrequest]

/-- Without a tag nothing is served. -/
theorem serveHTTP_of_servedTag_none (h : ep.servedTag host = none) :
    ep.serveHTTP host = none := by
  unfold servedTag at h
  cases htag : ep.requestTag host with
  | none => simp only [serveHTTP, htag]
  | some sub =>
    simp only [htag] at h
    split at h
    · cases h
    · next hmem => simpa [serveHTTP, htag] using hmem

/-- A request is passed to the event whose host name it has, and to no other, exactly when its
`Host` is not a stray one. -/
theorem routesByHost_iff (ep : EventPool ε) (host : String) :
    ep.RoutesByHost host ↔ ep.NoStrayHost host := by
  constructor
  · intro h
    constructor
    · -- The code serves any rest, and only an empty one or a port may be served.
      intro tag hmem hdots rest hhost
      have hserved : ep.servedTag host = some tag :=
        servedTag_eq_some.mpr ⟨hmem, hdots, rest, hhost⟩
      have hown : ep.IsHostOf tag host := ((h.dispatches tag).mp hserved).2
      rw [hhost] at hown
      exact isHostOf_append.mp hown
    · -- The `Host` is cut at its first dot, so a tag with a dot is not reached.
      intro tag hmem hdots hown
      have hserved : ep.servedTag host = some tag := (h.dispatches tag).mpr ⟨hmem, hown⟩
      exact (servedTag_eq_some.mp hserved).2.1 hdots
  · intro h
    have hdispatches : ∀ tag, ep.servedTag host = some tag ↔
        tag ∈ ep.handlers ∧ ep.IsHostOf tag host := by
      intro tag
      rw [servedTag_eq_some]
      constructor
      · rintro ⟨hmem, hdots, rest, hhost⟩
        exact ⟨hmem, rest, h.rest tag hmem hdots rest hhost, hhost⟩
      · rintro ⟨hmem, hown⟩
        have hdots : '.' ∉ tag.toList := fun hdots => h.dots tag hmem hdots hown
        obtain ⟨rest, -, hhost⟩ := hown
        exact ⟨hmem, hdots, rest, hhost⟩
    refine ⟨hdispatches, fun tag => serveHTTP_of_servedTag, fun hnone => ?_⟩
    apply serveHTTP_of_servedTag_none
    rw [Option.eq_none_iff_forall_ne_some]
    intro tag hserved
    obtain ⟨hmem, hown⟩ := (hdispatches tag).mp hserved
    exact hnone tag hmem hown

/-- The pool of the test, with its event `demo`. -/
def demoPool : EventPool Unit := (newEventPool "ntp-event.dk").addEvent "demo" ()

/-- A longer domain that begins with the pool's is served by the event. -/
theorem demoPool_serves_longer_domain :
    demoPool.serveHTTP "demo.ntp-event.dk.evil.com" = some (.event ()) ∧
      ¬ demoPool.IsHostOf "demo" "demo.ntp-event.dk.evil.com" ∧
      ¬ demoPool.RoutesByHost "demo.ntp-event.dk.evil.com" := by
  have hnot : ¬ demoPool.IsHostOf "demo" "demo.ntp-event.dk.evil.com" := by
    rw [show "demo.ntp-event.dk.evil.com" = demoPool.eventHost "demo" ++ ".evil.com" by decide,
      isHostOf_append]
    rintro (hempty | ⟨port, -, hport⟩)
    · exact absurd hempty (by decide)
    · have hchars := congrArg String.toList hport
      simp at hchars
  have hserved : demoPool.servedTag "demo.ntp-event.dk.evil.com" = some "demo" := by decide
  exact ⟨by decide, hnot, fun h => hnot ((h.dispatches "demo").mp hserved).2⟩

end EventPool

end Haaukins.Daemon
