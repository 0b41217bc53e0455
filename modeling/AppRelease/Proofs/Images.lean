import AppRelease.Proofs.Directories
import AppRelease.Proofs.Reporting

/-!
# What an image tells

Specification: an image is written as a registry, a stroke, a name, a colon and a tag. It can be
read back: the tag comes after the last colon and the name after the last stroke before it
(`imageParts?`). So configurations with the same image have the same registry but for strokes at its
end, the same name and the same tag (`Defaults.images_tell_their_parts`).

1. **The crux (`imageParts?_eq_some_iff`).** A registry may hold colons and strokes of its own, as
   in `localhost:5000/team`. But a tag has no colon and a name no stroke, so the last ones are those
   that were put there.
2. **A registry that vanishes.** It must not be blank, and then it loses the strokes at its end. Of
   one that is all strokes nothing is left, and that is the only case:
   `Defaults.registry_of_strokes_vanishes` has an image that starts with the stroke before the name.
-/

namespace AppRelease

/-! ## Cutting an image -/

/-- The registry, the name and the tag of an image. The tag comes after the last colon, the name
after the last stroke before that. -/
def imageParts? (image : String) : Option (String × String × String) := do
  let (place, tag) ← Text.cutAtLast ':' image
  let (registry, name) ← Text.cutAtLast '/' place
  return (registry, name, tag)

/-- **An image has these parts** when it is made from them, with no stroke in the name and no colon
in the tag. -/
theorem imageParts?_eq_some_iff {image registry name tag : String} :
    imageParts? image = some (registry, name, tag) ↔
      image = registry ++ "/" ++ name ++ ":" ++ tag ∧ '/' ∉ name.toList ∧ ':' ∉ tag.toList := by
  have htext : ∀ {s before rest : String} {c : Char},
      s = before ++ String.singleton c ++ rest ↔ s.toList = before.toList ++ c :: rest.toList := by
    intro s before rest c
    rw [← String.toList_inj]
    simp
  have hparts : imageParts? image = some (registry, name, tag) ↔ ∃ place,
      Text.cutAtLast ':' image = some (place, tag) ∧
        Text.cutAtLast '/' place = some (registry, name) := by
    simp only [imageParts?, bind, pure, Option.bind_eq_some_iff, Option.some.injEq, Prod.exists,
      Prod.mk.injEq]
    constructor
    · rintro ⟨place, _, himage, _, _, hplace, rfl, rfl, rfl⟩
      exact ⟨place, himage, hplace⟩
    · rintro ⟨place, himage, hplace⟩
      exact ⟨place, tag, himage, registry, name, hplace, rfl, rfl, rfl⟩
  rw [hparts]
  simp only [Text.cutAtLast_eq_some_iff, ← htext]
  constructor
  · rintro ⟨place, ⟨rfl, htag⟩, rfl, hname⟩
    exact ⟨rfl, hname, htag⟩
  · rintro ⟨rfl, hname, htag⟩
    exact ⟨_, ⟨rfl, htag⟩, rfl, hname⟩

/-- There is no colon in a tag. -/
theorem colon_not_mem_of_isImageTag {tag : String} (h : isImageTag tag = true) :
    ':' ∉ tag.toList := by
  intro hcolon
  have hcharacter : TagCharacter ':' := (isImageTag_iff_tagText.mp h).characters ':' hcolon
  exact absurd (continuesTag_iff.mpr hcharacter) (by decide)

/-- Nothing is left of a text without its end exactly when it is all end. -/
theorem Text.IsWithoutEnd.eq_empty_iff {c : Char} {s core : String} (h : IsWithoutEnd c s core) :
    core = "" ↔ ∀ a ∈ s.toList, a = c := by
  obtain ⟨⟨n, hsplit⟩, hlast⟩ := h
  rw [hsplit]
  constructor
  · rintro rfl
    simp
  · intro hall
    have hnone : core.toList = [] := by
      rcases List.eq_nil_or_concat core.toList with hnil | ⟨front, a, hconcat⟩
      · exact hnil
      · -- the last character that is left would be one of those that are taken away
        have ha : a = c := hall a (by simp [hconcat])
        exact absurd (by simp [hconcat, ha]) hlast
    exact String.toList_inj.mp hnone

namespace Defaults

variable {d : Defaults} {known : Variables} {secrets : Secrets.Bundle} {c : AppConfig}

/-! ## Images of configurations -/

/-- The image of a configuration tells its registry, name and tag: what it is cut into is the
registry of the defaults without the strokes at its end, the name of the application and the tag
among the variables. The registry is there unless it was all strokes. -/
structure ImageTells (d : Defaults) (known : Variables) (c : AppConfig)
    (registry tag : String) : Prop where
  parts : imageParts? c.image = some (registry, c.name, tag)
  name : c.name = d.name
  tagKnown : known.get? d.imageTagKey = some tag
  withoutEnd : Text.IsWithoutEnd '/' d.registry registry
  vanishes : registry = "" ↔ ∀ a ∈ d.registry.toList, a = '/'

theorem exists_imageTells (hbuild : d.build known secrets = .ok c) :
    ∃ registry tag, d.ImageTells known c registry tag := by
  obtain ⟨hfaults, -, -, image, himage, rfl⟩ := build_eq_ok_iff.mp hbuild
  obtain ⟨tag, htag, hvalid, rfl⟩ := image_eq_ok_iff.mp himage
  have hlabel : isLabel d.name = true := (faults_eq_nil_iff.mp hfaults).name
  have hstroke : '/' ∉ d.name.toList := not_mem_of_isLabel hlabel (by decide)
  have hregistry : Text.IsWithoutEnd '/' d.registry (Text.trimEnd '/' d.registry) :=
    Text.trimEnd_eq_iff.mp rfl
  refine ⟨Text.trimEnd '/' d.registry, tag, ?_, rfl, htag, hregistry, hregistry.eq_empty_iff⟩
  exact imageParts?_eq_some_iff.mpr ⟨rfl, hstroke, colon_not_mem_of_isImageTag hvalid⟩

/-- **Images tell their parts.** Every image of a configuration can be cut into the registry without
the strokes at its end, the name and the tag, and the registry is there unless it was all strokes.
So configurations with the same image have these three in common. -/
theorem images_tell_their_parts (d : Defaults) (known : Variables) (secrets : Secrets.Bundle)
    (c : AppConfig) (hbuild : d.build known secrets = .ok c) :
    (∃ registry tag, d.ImageTells known c registry tag) ∧
      ∀ (d' : Defaults) (known' : Variables) (secrets' : Secrets.Bundle) (c' : AppConfig),
        d'.build known' secrets' = .ok c' → c.image = c'.image →
        c.name = c'.name ∧ ∃ registry tag, d.ImageTells known c registry tag ∧
          d'.ImageTells known' c' registry tag := by
  obtain ⟨registry, tag, htells⟩ := exists_imageTells hbuild
  refine ⟨⟨registry, tag, htells⟩, ?_⟩
  intro d' known' secrets' c' hbuild' hsame
  obtain ⟨registry', tag', htells'⟩ := exists_imageTells hbuild'
  have hparts : some (registry, c.name, tag) = some (registry', c'.name, tag') := by
    rw [← htells.parts, ← htells'.parts, hsame]
  simp only [Option.some.injEq, Prod.mk.injEq] at hparts
  obtain ⟨rfl, hname, rfl⟩ := hparts
  exact ⟨hname, registry, tag, htells, htells'⟩

/-! ## Registries with ports, and with strokes only -/

/-- An application with this registry. -/
def shippedFrom (registry : String) : Defaults := { plainDefaults with registry := registry }

/-- The tag of the application is known. -/
def taggedVariables : Variables := ⟨.localMachine, Dict.ofList [("IMAGE_TAG_DEMO", "v1.2")]⟩

/-- What is built for it under an image. -/
def shippedConfig (image : String) : AppConfig where
  name := "demo"
  nameSpace := "applications"
  image := image
  resources := plainDefaults.resources
  settings := ∅

theorem images_tell_their_parts_port :
    (shippedFrom "localhost:5000/team//").build taggedVariables vaultSecrets =
        .ok (shippedConfig "localhost:5000/team/demo:v1.2") ∧
      (shippedFrom "localhost:5000/team").build taggedVariables vaultSecrets =
        .ok (shippedConfig "localhost:5000/team/demo:v1.2") ∧
      ∃ registry tag,
        (shippedFrom "localhost:5000/team//").ImageTells taggedVariables
          (shippedConfig "localhost:5000/team/demo:v1.2") registry tag ∧
        (shippedFrom "localhost:5000/team").ImageTells taggedVariables
          (shippedConfig "localhost:5000/team/demo:v1.2") registry tag := by
  have hstrokes : (shippedFrom "localhost:5000/team//").build taggedVariables vaultSecrets =
      .ok (shippedConfig "localhost:5000/team/demo:v1.2") := by decide +kernel
  have hplain : (shippedFrom "localhost:5000/team").build taggedVariables vaultSecrets =
      .ok (shippedConfig "localhost:5000/team/demo:v1.2") := by decide +kernel
  obtain ⟨-, hsame⟩ := images_tell_their_parts _ taggedVariables vaultSecrets _ hstrokes
  exact ⟨hstrokes, hplain, (hsame _ taggedVariables vaultSecrets _ hplain rfl).2⟩

/-- **A registry of strokes vanishes**: it is accepted, and the image has none. -/
theorem registry_of_strokes_vanishes :
    (shippedFrom "/").build taggedVariables vaultSecrets = .ok (shippedConfig "/demo:v1.2") ∧
      imageParts? (shippedConfig "/demo:v1.2").image = some ("", "demo", "v1.2") := by
  constructor
  · decide +kernel
  · decide +kernel

end Defaults

end AppRelease
