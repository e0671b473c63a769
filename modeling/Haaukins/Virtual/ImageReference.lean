import Haaukins.Lib.GoStrings

/-!
# `Haaukins.Virtual.ImageReference`: image references (`virtual/docker/docker.go`)

An image is written `[host[:port]/]path[:tag]`, where `host` is there exactly when the name has
three or more components. `parseImage` splits the text at every `:`, before it looks at the
components, and takes the last part as the tag only when there are two parts.

`Reference` has the references of this form, and `Reference.image` is what such a reference
means. `parseImage` agrees with it exactly when there is no port (`parsesFaithfully_iff`). With
a port and no tag the port is read as the start of the tag. With both there are three parts, so
the tag stays at the end of the path and `latest` is put behind it.
-/

set_option autoImplicit false

namespace Haaukins.Virtual

open GoStrings

/-! ## The code -/

/-- `Image`. -/
structure Image where
  registry : String
  repo : String
  tag : String
  deriving DecidableEq

/-- `Image.String`. -/
def Image.string (i : Image) : String :=
  if i.registry = "" then i.repo ++ ":" ++ i.tag
  else i.registry ++ "/" ++ i.repo ++ ":" ++ i.tag

/-- `Image.NameWithReg`. -/
def Image.nameWithReg (i : Image) : String :=
  if i.registry = "" then i.repo else i.registry ++ "/" ++ i.repo

/-- The second half of `parseImage`, which takes the registry off the repository. -/
def splitRegistry (repo tag : String) : Image :=
  -- format: reg/owner/repo
  if repo.toList.count '/' > 1 then
    { registry := (split repo '/').headD "",
      repo := "/".intercalate (split repo '/').tail,
      tag := tag }
  else { registry := "", repo := repo, tag := tag }

/-- `parseImage`. -/
def parseImage (img : String) : Image :=
  match split img ':' with
  | [repo, tag] => splitRegistry repo tag
  | _ => splitRegistry img "latest"

/-- The two printers differ by the tag. -/
theorem Image.nameWithReg_append_tag (i : Image) : i.nameWithReg ++ ":" ++ i.tag = i.string := by
  unfold Image.nameWithReg Image.string
  split <;> rfl

/-! ## References -/

/-- A part of a reference has no separator. -/
structure Plain (s : String) : Prop where
  colon : ':' ∉ s.toList
  slash : '/' ∉ s.toList

/-- A registry: its host name, which is not empty, and its port. -/
structure Registry where
  host : String
  port : Option String
  host_ne : host ≠ ""
  host_plain : Plain host
  port_plain : ∀ p ∈ port, Plain p

/-- The text `host[:port]`. -/
def Registry.text (reg : Registry) : String :=
  match reg.port with
  | none => reg.host
  | some port => reg.host ++ ":" ++ port

/-- A reference `[host[:port]/]path[:tag]`. The registry is there exactly when the name has at
least three components. -/
structure Reference where
  registry : Option Registry
  path : List String
  tag : Option String
  path_ne : path ≠ []
  path_plain : ∀ s ∈ path, Plain s
  tag_plain : ∀ t ∈ tag, Plain t
  registry_iff : registry.isSome ↔ 3 ≤ registry.toList.length + path.length

namespace Reference

variable (r : Reference)

/-- The components of the name. -/
def components : List String := (r.registry.map Registry.text).toList ++ r.path

/-- The reference without its tag. -/
def name : String := "/".intercalate r.components

/-- The tag, or the default one. -/
def tagOrLatest : String := r.tag.getD "latest"

/-- The reference as it is written. -/
def text : String :=
  match r.tag with
  | none => r.name
  | some tag => r.name ++ ":" ++ tag

/-- The reference with the default tag filled in. -/
def textWithTag : String := r.name ++ ":" ++ r.tagOrLatest

/-- What the reference means. -/
def image : Image :=
  { registry := (r.registry.map Registry.text).getD "",
    repo := "/".intercalate r.path,
    tag := r.tagOrLatest }

/-- `parseImage` reads the reference for what it means, and the printers write it back. -/
structure ParsesFaithfully : Prop where
  parsed : parseImage r.text = r.image
  printed : (parseImage r.text).string = r.textWithTag
  named : (parseImage r.text).nameWithReg ++ ":" ++ (parseImage r.text).tag =
    (parseImage r.text).string
  parsedAgain : parseImage (parseImage r.text).string = parseImage r.text

/-- The registry, if any, is given without a port. -/
def NoPort : Prop := ∀ reg ∈ r.registry, reg.port = none

end Reference

/-! ## The registry -/

/-- A join is taken apart and put together again. -/
theorem splitRegistry_append {registry rest : String} (tag : String)
    (hregistry : '/' ∉ registry.toList) (hrest : '/' ∈ rest.toList) :
    splitRegistry (registry ++ "/" ++ rest) tag =
      { registry := registry, repo := rest, tag := tag } := by
  have hcount : (registry ++ "/" ++ rest).toList.count '/' > 1 := by
    have hpos : 0 < rest.toList.count '/' := List.count_pos_iff.mpr hrest
    simp only [String.toList_append, List.count_append]
    have hsep : "/".toList.count '/' = 1 := rfl
    omega
  have hsplit : split (registry ++ "/" ++ rest) '/' = registry :: split rest '/' := by
    rw [String.append_assoc, show "/" = String.singleton '/' from rfl, split_append,
      split_of_notMem hregistry]
    rfl
  rw [splitRegistry, if_pos hcount, hsplit]
  show Image.mk registry ((String.singleton '/').intercalate (split rest '/')) tag = _
  rw [intercalate_split]

/-- A repository with one separator or none has no registry. -/
theorem splitRegistry_of_count {repo : String} (tag : String)
    (hrepo : repo.toList.count '/' ≤ 1) :
    splitRegistry repo tag = { registry := "", repo := repo, tag := tag } :=
  if_neg (by omega)

namespace Registry

variable (reg : Registry)

/-- A registry has no slash. -/
theorem slash_notMem_text : '/' ∉ reg.text.toList := by
  unfold text
  cases hport : reg.port with
  | none => exact reg.host_plain.slash
  | some port =>
    have hslash := (reg.port_plain port hport).slash
    simpa using ⟨reg.host_plain.slash, hslash⟩

/-- A registry is not empty. -/
theorem text_ne : reg.text ≠ "" := by
  unfold text
  cases reg.port with
  | none => exact reg.host_ne
  | some port =>
    intro h
    simpa using congrArg String.toList h

end Registry

namespace Reference

variable (r : Reference)

/-- The path, joined. -/
def repo : String := "/".intercalate r.path

/-- A repository has one slash less than parts. -/
theorem count_slash_repo : r.repo.toList.count '/' + 1 = r.path.length := by
  have hsplit : split r.repo '/' = r.path :=
    split_intercalate (fun s hs => (r.path_plain s hs).slash) r.path_ne
  rw [← length_split, hsplit]

/-- A repository has no colon. -/
theorem colon_notMem_repo : ':' ∉ r.repo.toList := by
  have hsep : ':' ≠ '/' := by decide
  exact notMem_intercalate hsep fun s hs => (r.path_plain s hs).colon

/-- The name begins with the registry, when there is one. -/
theorem name_of_registry {reg : Registry} (hreg : r.registry = some reg) :
    r.name = reg.text ++ "/" ++ r.repo := by
  rw [name, components, hreg]
  exact String.intercalate_cons_of_ne_nil r.path_ne

/-- Without a registry the name is the repository. -/
theorem name_of_no_registry (hreg : r.registry = none) : r.name = r.repo := by
  rw [name, components, hreg]
  rfl

/-- With a registry the path has two components or more. -/
theorem slash_mem_repo {reg : Registry} (hreg : r.registry = some reg) :
    '/' ∈ r.repo.toList := by
  have hlen : 3 ≤ r.registry.toList.length + r.path.length :=
    r.registry_iff.mp (by rw [hreg]; rfl)
  rw [hreg] at hlen
  have hcount := r.count_slash_repo
  rw [← List.count_pos_iff]
  simp only [Option.toList_some, List.length_singleton] at hlen
  omega

/-- The second half of `parseImage` is right for every name. -/
theorem splitRegistry_name (tag : String) :
    splitRegistry r.name tag = { r.image with tag := tag } := by
  cases hreg : r.registry with
  | none =>
    have hlen : ¬ 3 ≤ r.registry.toList.length + r.path.length := by
      rw [← r.registry_iff, hreg]
      decide
    rw [hreg] at hlen
    have hcount := r.count_slash_repo
    rw [r.name_of_no_registry hreg, splitRegistry_of_count]
    · simp [image, hreg, repo]
    · simp only [Option.toList_none, List.length_nil] at hlen
      omega
  | some reg =>
    rw [r.name_of_registry hreg,
      splitRegistry_append tag reg.slash_notMem_text (r.slash_mem_repo hreg)]
    simp [image, hreg, repo]

/-! ## References without a port -/

variable {r}

/-- Without a port the name has no colon. -/
theorem colon_notMem_name (h : r.NoPort) : ':' ∉ r.name.toList := by
  cases hreg : r.registry with
  | none =>
    rw [r.name_of_no_registry hreg]
    exact r.colon_notMem_repo
  | some reg =>
    have htext : reg.text = reg.host := by rw [Registry.text, h reg hreg]
    rw [r.name_of_registry hreg, htext]
    simpa using ⟨reg.host_plain.colon, r.colon_notMem_repo⟩

/-- Without a port the only `:` stands before the tag. -/
theorem parseImage_name_tag (h : r.NoPort) {tag : String} (htag : ':' ∉ tag.toList) :
    parseImage (r.name ++ ":" ++ tag) = { r.image with tag := tag } := by
  have hsplit : split (r.name ++ ":" ++ tag) ':' = [r.name, tag] := by
    rw [String.append_assoc, show ":" = String.singleton ':' from rfl, split_append,
      split_of_notMem (colon_notMem_name h), split_of_notMem htag]
    rfl
  rw [parseImage, hsplit]
  exact r.splitRegistry_name tag

/-- A name alone is read with the tag `latest`. -/
theorem parseImage_name (h : r.NoPort) :
    parseImage r.name = { r.image with tag := "latest" } := by
  rw [parseImage, split_of_notMem (colon_notMem_name h)]
  exact r.splitRegistry_name "latest"

/-- A tag has no colon. -/
theorem colon_notMem_tagOrLatest : ':' ∉ r.tagOrLatest.toList := by
  unfold tagOrLatest
  cases htag : r.tag with
  | none => decide
  | some tag => exact (r.tag_plain tag htag).colon

/-- A reference with a tag is read back. -/
theorem parseImage_textWithTag (h : r.NoPort) : parseImage r.textWithTag = r.image :=
  parseImage_name_tag h colon_notMem_tagOrLatest

/-- So is a reference with a tag or without. -/
theorem parseImage_text (h : r.NoPort) : parseImage r.text = r.image := by
  cases htag : r.tag with
  | none =>
    rw [text, htag]
    show parseImage r.name = _
    rw [parseImage_name h]
    simp [image, tagOrLatest, htag]
  | some tag =>
    rw [← parseImage_textWithTag h, text, textWithTag, tagOrLatest, htag]
    rfl

/-- What a reference means is written as the reference with its tag, with a port or without. -/
theorem image_string : r.image.string = r.textWithTag := by
  cases hreg : r.registry with
  | none =>
    rw [textWithTag, r.name_of_no_registry hreg]
    simp [Image.string, image, hreg, repo]
  | some reg =>
    rw [textWithTag, r.name_of_registry hreg]
    simp [Image.string, image, hreg, repo, reg.text_ne]

/-! ## References with a port -/

/-- With a port the host name is one of the parts between the colons, and the port begins the
next one. -/
theorem split_text_of_port {reg : Registry} (hreg : r.registry = some reg) {port : String}
    (hport : reg.port = some port) :
    split r.text ':' = reg.host :: (port ++ "/" ++ r.repo) :: r.tag.toList := by
  have htext : reg.text = reg.host ++ ":" ++ port := by rw [Registry.text, hport]
  have hhost : split reg.host ':' = [reg.host] := split_of_notMem reg.host_plain.colon
  have hrest : ':' ∉ (port ++ "/" ++ r.repo).toList := by
    simpa using ⟨(reg.port_plain port hport).colon, r.colon_notMem_repo⟩
  cases htag : r.tag with
  | none =>
    rw [text, htag]
    show split r.name ':' = _
    rw [r.name_of_registry hreg, htext, String.append_assoc, String.append_assoc,
      String.append_assoc, show ":" = String.singleton ':' from rfl, split_append, hhost,
      ← String.append_assoc, split_of_notMem hrest]
    rfl
  | some tag =>
    rw [text, htag]
    show split (r.name ++ ":" ++ tag) ':' = _
    rw [r.name_of_registry hreg, htext, show reg.host ++ ":" ++ port ++ "/" ++ r.repo ++ ":" ++
        tag = reg.host ++ (":" ++ ((port ++ "/" ++ r.repo) ++ (":" ++ tag))) by
          simp only [String.append_assoc],
      show ":" = String.singleton ':' from rfl, split_append, split_append, hhost,
      split_of_notMem hrest, split_of_notMem (r.tag_plain tag htag).colon]
    rfl

/-- A port is read as the start of the tag, or is taken for a part of its own. -/
theorem parseImage_text_ne {reg : Registry} (hreg : r.registry = some reg) {port : String}
    (hport : reg.port = some port) : parseImage r.text ≠ r.image := by
  have hsplit := r.split_text_of_port hreg hport
  cases htag : r.tag with
  | none =>
    -- Two parts: the host name, and the rest as the tag.
    rw [htag] at hsplit
    have hcount : reg.host.toList.count '/' ≤ 1 := by
      rw [List.count_eq_zero_of_not_mem reg.host_plain.slash]
      decide
    rw [parseImage, hsplit]
    show splitRegistry reg.host (port ++ "/" ++ r.repo) ≠ r.image
    rw [splitRegistry_of_count _ hcount]
    intro h
    have hregistry := congrArg Image.registry h
    simp only [image, hreg, Option.map_some, Option.getD_some] at hregistry
    exact reg.text_ne hregistry.symm
  | some tag =>
    -- Three parts: the tag stays at the end of the path.
    rw [htag] at hsplit
    have hslash : '/' ∈ (r.repo ++ ":" ++ tag).toList := by
      have := r.slash_mem_repo hreg
      simp [this]
    rw [parseImage, hsplit]
    show splitRegistry r.text "latest" ≠ r.image
    rw [text, htag]
    show splitRegistry (r.name ++ ":" ++ tag) "latest" ≠ r.image
    rw [r.name_of_registry hreg, show reg.text ++ "/" ++ r.repo ++ ":" ++ tag =
        reg.text ++ "/" ++ (r.repo ++ ":" ++ tag) by simp only [String.append_assoc],
      splitRegistry_append _ reg.slash_notMem_text hslash]
    intro h
    have hrepo : r.repo ++ ":" ++ tag = r.repo := congrArg Image.repo h
    have hmem : ':' ∈ r.repo.toList := by
      rw [← hrepo]
      simp
    exact r.colon_notMem_repo hmem

/-- `parseImage` and the printers agree with the reference exactly when it has no port. -/
theorem parsesFaithfully_iff (r : Reference) : r.ParsesFaithfully ↔ r.NoPort := by
  constructor
  · intro h reg hreg
    cases hport : reg.port with
    | none => rfl
    | some port => exact absurd h.parsed (parseImage_text_ne hreg hport)
  · intro h
    have hparsed := parseImage_text h
    have hprinted : (parseImage r.text).string = r.textWithTag := by
      rw [hparsed, image_string]
    exact {
      parsed := hparsed
      printed := hprinted
      named := Image.nameWithReg_append_tag _
      parsedAgain := by rw [hprinted, parseImage_textWithTag h, hparsed] }

/-- The image of a registry on a port of its own. -/
def kaliOnPort : Reference where
  registry := some {
    host := "registry", port := some "5000", host_ne := by decide
    host_plain := ⟨by decide, by decide⟩
    port_plain := by rintro p ⟨⟩; exact ⟨by decide, by decide⟩ }
  path := ["haaukins", "kali"]
  tag := some "v1"
  path_ne := by decide
  path_plain := by
    intro s hs
    rcases List.mem_pair.mp hs with rfl | rfl
    · exact ⟨by decide, by decide⟩
    · exact ⟨by decide, by decide⟩
  tag_plain := by rintro t ⟨⟩; exact ⟨by decide, by decide⟩
  registry_iff := by decide

/-- `registry:5000/haaukins/kali:v1` is taken for the latest image of `haaukins/kali:v1`. -/
theorem kaliOnPort_not_parsesFaithfully :
    kaliOnPort.text = "registry:5000/haaukins/kali:v1" ∧
      parseImage kaliOnPort.text =
        { registry := "registry:5000", repo := "haaukins/kali:v1", tag := "latest" } ∧
      ¬ kaliOnPort.ParsesFaithfully := by
  have hparse : parseImage kaliOnPort.text =
      { registry := "registry:5000", repo := "haaukins/kali:v1", tag := "latest" } := by decide
  refine ⟨by decide, hparse, fun h => ?_⟩
  have himage := h.parsed
  rw [hparse] at himage
  exact absurd himage (by decide)

end Reference

end Haaukins.Virtual
