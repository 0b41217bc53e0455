import AppRelease.Project
import AppRelease.Proofs.Keys
import AppRelease.Proofs.Shapes

/-!
# Settings of a document over the first ones

Specification: a document may say something about each of the eleven settings of a project, some of
them in parts of their own. A setting has the value that the document says, and without one the
value it has from the start (`Project.LayeredOver`). That leaves no choice, and keys without a
setting do not matter, at the top or in a part, nor do parts that are there only for such keys
(`Project.settings_layered`).

1. **Places.** The settings of a project and of its three parts are records of independent places
   (`Project.hasSlots`), so every setting is layered (`Project.layeredOver_of_ofEntries`).
2. **Keys without a setting.** `Project.known` leaves them out, and the parts in which nothing else
   stands. As no key stands twice, what is left says the same about every setting
   (`Project.saysSame_of_perm`), and it is accepted when the whole document is
   (`Project.exists_ofEntries_known_iff`).
-/

namespace AppRelease

theorem Secrets.Format.name_injective {f f' : Secrets.Format} (h : f.name = f'.name) : f = f' := by
  cases f with
  | dotenv =>
    cases f' with
    | dotenv => rfl
    | json => exact absurd h (by decide)
  | json =>
    cases f' with
    | dotenv => exact absurd h (by decide)
    | json => rfl

namespace Toml

/-! ## Formats -/

/-- Nothing stands in the item. -/
def HoldsNothing (item : Item) : Prop :=
  item = .array [] ∨ (∃ origin, item = .table origin []) ∨ item = .tables []

/-- The item names this format: by a text, or by the one key of a table with nothing below it. -/
def IsFormat (item : Item) (format : Secrets.Format) : Prop :=
  item = .text format.name ∨ ∃ origin below, item = .table origin [(format.name, below)] ∧
    HoldsNothing below

theorem IsFormat.unique (item : Item) (f f' : Secrets.Format) (h : IsFormat item f)
    (h' : IsFormat item f') :
    f = f' := by
  rcases h with rfl | ⟨origin, below, rfl, -⟩
  · rcases h' with heq | ⟨origin', below', heq, -⟩
    · exact Secrets.Format.name_injective (Item.text.inj heq)
    · exact absurd heq (by simp)
  · rcases h' with heq | ⟨origin', below', heq, -⟩
    · exact absurd heq (by simp)
    · simp only [Item.table.injEq, List.cons.injEq, Prod.mk.injEq, and_true] at heq
      exact Secrets.Format.name_injective heq.2.1

theorem choose_eq_ok {name : String} {format : Secrets.Format}
    (h : chooseNamed.choose formatNames name = .ok format) :
    name = format.name := by
  rw [chooseNamed.choose] at h
  cases hlookup : formatNames.lookup name with
  | none =>
    rw [hlookup] at h
    exact absurd h (by simp)
  | some found =>
    rw [hlookup] at h
    cases h
    have hmem : (name, format) ∈ formatNames := mem_of_lookup hlookup
    simp only [formatNames, List.mem_cons, List.not_mem_nil, or_false, Prod.mk.injEq] at hmem
    rcases hmem with ⟨rfl, rfl⟩ | ⟨rfl, rfl⟩
    · rfl
    · rfl

theorem holdsNothing_of_isEmpty {item : Item} (h : chooseNamed.isEmpty item = true) :
    HoldsNothing item := by
  cases item with
  | array items => exact .inl (by rw [List.isEmpty_iff.mp h])
  | table origin entries => exact .inr (.inl ⟨origin, by rw [List.isEmpty_iff.mp h]⟩)
  | tables elements => exact .inr (.inr (by rw [List.isEmpty_iff.mp h]))
  | _ => exact absurd h (by simp [chooseNamed.isEmpty])

theorem chooseNamed_eq_ok {item : Item} {format : Secrets.Format}
    (h : chooseNamed formatNames item = .ok format) :
    IsFormat item format := by
  rw [chooseNamed.eq_def] at h
  split at h
  · rw [choose_eq_ok h]
    exact .inl rfl
  · obtain ⟨found, hfound, hrest⟩ := bind_eq_ok_iff.mp h
    split at hrest
    · rename_i hempty
      rw [pure_eq_ok_iff] at hrest
      subst hrest
      rw [choose_eq_ok hfound]
      exact .inr ⟨_, _, rfl, holdsNothing_of_isEmpty hempty⟩
    · exact absurd hrest (by simp [throw, throwThe, MonadExceptOf.throw])
  · exact absurd h (by simp)

end Toml

/-! ## The settings of a project -/

open Toml

/-- The places of the settings for secrets. -/
def SecretsSettings.slots : List (Slot SecretsSettings) := [
  .text "root" (·.root) (fun s r => { r with root := s }) fun _ _ => rfl,
  ⟨"format", Secrets.Format, chooseNamed formatNames, IsFormat, (·.format),
    fun f r => { r with format := f }, chooseNamed_eq_ok, fun _ _ => rfl⟩]

/-- The places of the settings for rendering. -/
def RenderSettings.slots : List (Slot RenderSettings) := [
  .text "output_dir" (·.outputDirectory) (fun s r => { r with outputDirectory := s })
    fun _ _ => rfl]

/-- The places of the settings for Argo CD. -/
def ArgoSettings.slots : List (Slot ArgoSettings) := [
  ⟨"enabled", Bool, Item.asBoolean, IsFlag, (·.enabled), fun b r => { r with enabled := b },
    asBoolean_eq_ok, fun _ _ => rfl⟩,
  .text "namespace" (·.nameSpace) (fun s r => { r with nameSpace := s }) fun _ _ => rfl,
  .text "project" (·.project) (fun s r => { r with project := s }) fun _ _ => rfl,
  .text "repo_url" (·.repository) (fun s r => { r with repository := s }) fun _ _ => rfl,
  .text "target_revision" (·.revision) (fun s r => { r with revision := s }) fun _ _ => rfl,
  .text "destination_server" (·.server) (fun s r => { r with server := s }) fun _ _ => rfl]

/-- The places of the settings of a project, three of them for parts. -/
def Project.slots : List (Slot Project) := [
  .text "registry" (·.registry) (fun s r => { r with registry := s }) fun _ _ => rfl,
  .text "base_domain" (·.baseDomain) (fun s r => { r with baseDomain := s }) fun _ _ => rfl,
  .part "secrets" SecretsSettings.shape {} (·.secrets) (fun s r => { r with secrets := s })
    fun _ _ => rfl,
  .part "render" RenderSettings.shape {} (·.render) (fun s r => { r with render := s })
    fun _ _ => rfl,
  .part "argocd" ArgoSettings.shape {} (·.argo) (fun s r => { r with argo := s }) fun _ _ => rfl]

theorem SecretsSettings.hasSlots : shape.HasSlots slots where
  fields_eq := rfl
  apart := List.pairwise_pair.mpr ⟨by decide, fun _ _ => rfl, fun _ _ => rfl⟩

theorem RenderSettings.hasSlots : shape.HasSlots slots where
  fields_eq := rfl
  apart := List.pairwise_singleton _ _

theorem ArgoSettings.hasSlots : shape.HasSlots slots where
  fields_eq := rfl
  apart := by
    simp only [slots, List.pairwise_cons, List.forall_mem_cons, List.not_mem_nil, false_implies,
      implies_true, List.Pairwise.nil, and_true]
    and_intros <;> exact ⟨by decide, fun _ _ => rfl, fun _ _ => rfl⟩

theorem Project.hasSlots : shape.HasSlots slots where
  fields_eq := rfl
  apart := by
    simp only [slots, List.pairwise_cons, List.forall_mem_cons, List.not_mem_nil, false_implies,
      implies_true, List.Pairwise.nil, and_true]
    and_intros <;> exact ⟨by decide, fun _ _ => rfl, fun _ _ => rfl⟩

namespace Project

/-- The settings that a project has from the start. -/
def untouched : Project := {}

/-- **The settings that a document leaves**: each of the eleven has the value that the document
says, or without one the value it has from the start. -/
structure LayeredOver (entries : Entries) (p : Project) : Prop where
  registry : Layered IsText untouched.registry (lastValue? "registry" entries) p.registry
  baseDomain : Layered IsText untouched.baseDomain (lastValue? "base_domain" entries) p.baseDomain
  root : Layered IsText untouched.secrets.root
    (inPart? SecretsSettings.shape "secrets" "root" entries) p.secrets.root
  format : Layered IsFormat untouched.secrets.format
    (inPart? SecretsSettings.shape "secrets" "format" entries) p.secrets.format
  outputDirectory : Layered IsText untouched.render.outputDirectory
    (inPart? RenderSettings.shape "render" "output_dir" entries) p.render.outputDirectory
  enabled : Layered IsFlag untouched.argo.enabled
    (inPart? ArgoSettings.shape "argocd" "enabled" entries) p.argo.enabled
  nameSpace : Layered IsText untouched.argo.nameSpace
    (inPart? ArgoSettings.shape "argocd" "namespace" entries) p.argo.nameSpace
  project : Layered IsText untouched.argo.project
    (inPart? ArgoSettings.shape "argocd" "project" entries) p.argo.project
  repository : Layered IsText untouched.argo.repository
    (inPart? ArgoSettings.shape "argocd" "repo_url" entries) p.argo.repository
  revision : Layered IsText untouched.argo.revision
    (inPart? ArgoSettings.shape "argocd" "target_revision" entries) p.argo.revision
  server : Layered IsText untouched.argo.server
    (inPart? ArgoSettings.shape "argocd" "destination_server" entries) p.argo.server

variable {entries : Entries} {p q : Project}

/-- What is read from entries is layered over the first settings. -/
theorem layeredOver_of_ofEntries (h : ofEntries entries = .ok p) : LayeredOver entries p := by
  have htop := hasSlots.layered_fillEntries h
  -- the three parts are places of the project, filled from first values of their own
  simp only [slots, List.forall_mem_cons, List.not_mem_nil, false_implies, implies_true,
    and_true] at htop
  obtain ⟨hregistry, hdomain, hsecrets, hrender, hargo⟩ := htop
  have hinSecrets := SecretsSettings.hasSlots.layered_part hsecrets
  have hinRender := RenderSettings.hasSlots.layered_part hrender
  have hinArgo := ArgoSettings.hasSlots.layered_part hargo
  simp only [SecretsSettings.slots, RenderSettings.slots, ArgoSettings.slots, List.forall_mem_cons,
    List.not_mem_nil, false_implies, implies_true, and_true] at hinSecrets hinRender hinArgo
  obtain ⟨hroot, hformat⟩ := hinSecrets
  obtain ⟨henabled, hnameSpace, hproject, hrepository, hrevision, hserver⟩ := hinArgo
  exact ⟨hregistry, hdomain, hroot, hformat, hinRender, henabled, hnameSpace, hproject,
    hrepository, hrevision, hserver⟩

/-- **The settings that a document leaves are one project.** -/
theorem LayeredOver.unique (h : LayeredOver entries p) (h' : LayeredOver entries q) : p = q := by
  have hregistry := h.registry.unique IsText.unique h'.registry
  have hdomain := h.baseDomain.unique IsText.unique h'.baseDomain
  have hroot := h.root.unique IsText.unique h'.root
  have hformat := h.format.unique IsFormat.unique h'.format
  have houtput := h.outputDirectory.unique IsText.unique h'.outputDirectory
  have henabled := h.enabled.unique IsFlag.unique h'.enabled
  have hnameSpace := h.nameSpace.unique IsText.unique h'.nameSpace
  have hproject := h.project.unique IsText.unique h'.project
  have hrepository := h.repository.unique IsText.unique h'.repository
  have hrevision := h.revision.unique IsText.unique h'.revision
  have hserver := h.server.unique IsText.unique h'.server
  obtain ⟨_, _, ⟨_, _⟩, ⟨_⟩, ⟨_, _, _, _, _, _⟩⟩ := p
  obtain ⟨_, _, ⟨_, _⟩, ⟨_⟩, ⟨_, _, _, _, _, _⟩⟩ := q
  simp only at *
  subst_vars
  rfl

/-! ## Keys without a setting -/

/-- What stands under a key, without the keys of a part that have no setting. Of a part with no
other keys nothing is left. -/
def knownUnder (key : String) (item : Item) : Option Item :=
  if key = "secrets" then SecretsSettings.shape.knownIn item
  else if key = "render" then RenderSettings.shape.knownIn item
  else if key = "argocd" then ArgoSettings.shape.knownIn item
  else some item

/-- A document without the keys that have no setting, at the top and in its parts, and without the
parts that are there only for such keys. -/
def known (entries : Entries) : Entries :=
  (shape.known entries).filterMap fun entry =>
    (knownUnder entry.1 entry.2).map fun item => (entry.1, item)

theorem mem_known {key : String} {item : Item} : (key, item) ∈ known entries ↔
    key ∈ shape.names ∧ ∃ whole, (key, whole) ∈ entries ∧ knownUnder key whole = some item := by
  simp only [known, Shape.known, List.mem_filterMap, List.mem_filter, List.contains_iff_mem,
    Option.map_eq_some_iff, Prod.mk.injEq]
  constructor
  · rintro ⟨⟨_, whole⟩, ⟨hmem, hname⟩, _, hknown, rfl, rfl⟩
    exact ⟨hname, whole, hmem, hknown⟩
  · rintro ⟨hname, whole, hmem, hknown⟩
    exact ⟨(key, whole), ⟨hmem, hname⟩, item, hknown, rfl, rfl⟩

theorem nodup_keys_known (h : entries.keys.Nodup) : (known entries).keys.Nodup := by
  rw [Entries.keys, List.nodup_iff_pairwise_ne, List.pairwise_map] at h ⊢
  refine (h.filter _).filterMap _ ?_
  intro a a' hne b hb b' hb'
  obtain ⟨item, -, rfl⟩ := Option.map_eq_some_iff.mp hb
  obtain ⟨item', -, rfl⟩ := Option.map_eq_some_iff.mp hb'
  exact hne

/-! ### What is left says the same -/

theorem lastValue?_known (h : entries.keys.Nodup) {key : String} (hkey : key ∈ shape.names) :
    lastValue? key (known entries) = (lastValue? key entries).bind (knownUnder key) := by
  apply Option.ext
  intro item
  rw [lastValue?_eq_some_iff_mem (nodup_keys_known h), mem_known, Option.bind_eq_some_iff]
  simp only [lastValue?_eq_some_iff_mem h, hkey, true_and]

theorem inPart?_known {ρ : Type} {inner : Shape ρ} {part key : String} (h : entries.keys.Nodup)
    (hpart : part ∈ shape.names) (hunder : knownUnder part = inner.knownIn)
    (hkey : key ∈ inner.names) :
    inPart? inner part key (known entries) = inPart? inner part key entries := by
  rw [inPart?, inPart?, lastValue?_known h hpart, hunder, Option.bind_assoc]
  congr 1
  funext item
  exact Shape.member?_knownIn hkey item

/-- Two documents say the same about every setting. -/
structure SaysSame (entries entries' : Entries) : Prop where
  top : ∀ key ∈ ["registry", "base_domain"], lastValue? key entries = lastValue? key entries'
  secrets : ∀ key ∈ SecretsSettings.shape.names,
    inPart? SecretsSettings.shape "secrets" key entries =
      inPart? SecretsSettings.shape "secrets" key entries'
  render : ∀ key ∈ RenderSettings.shape.names,
    inPart? RenderSettings.shape "render" key entries =
      inPart? RenderSettings.shape "render" key entries'
  argo : ∀ key ∈ ArgoSettings.shape.names,
    inPart? ArgoSettings.shape "argocd" key entries =
      inPart? ArgoSettings.shape "argocd" key entries'

/-- **Documents that are the same but for keys without a setting** say the same. -/
theorem saysSame_of_perm {entries' : Entries} (h : entries.keys.Nodup) (h' : entries'.keys.Nodup)
    (hknown : (known entries).Perm (known entries')) : SaysSame entries entries' := by
  have hsame : ∀ key, lastValue? key (known entries) = lastValue? key (known entries') :=
    fun key => lastValue?_of_perm (nodup_keys_known h) hknown
  have hpart : ∀ {ρ : Type} {inner : Shape ρ} {part : String}, part ∈ shape.names →
      knownUnder part = inner.knownIn → ∀ key ∈ inner.names,
      inPart? inner part key entries = inPart? inner part key entries' := by
    intro ρ inner part hname hunder key hkey
    rw [← inPart?_known h hname hunder hkey, ← inPart?_known h' hname hunder hkey, inPart?,
      inPart?, hsame]
  refine ⟨?_, hpart (by decide) rfl, hpart (by decide) rfl, hpart (by decide) rfl⟩
  intro key hkey
  have hnames : ∀ key ∈ ["registry", "base_domain"], key ∈ shape.names := by decide
  have hunder : ∀ key ∈ ["registry", "base_domain"], knownUnder key = some := by
    simp only [List.forall_mem_cons, List.not_mem_nil, false_implies, implies_true, and_true]
    exact ⟨rfl, rfl⟩
  have hboth := hsame key
  rwa [lastValue?_known h (hnames key hkey), lastValue?_known h' (hnames key hkey), hunder key hkey,
    Option.bind_fun_some, Option.bind_fun_some] at hboth

theorem LayeredOver.of_saysSame {entries' : Entries} (hsame : SaysSame entries entries')
    (h : LayeredOver entries p) : LayeredOver entries' p where
  registry := hsame.top "registry" (by decide) ▸ h.registry
  baseDomain := hsame.top "base_domain" (by decide) ▸ h.baseDomain
  root := hsame.secrets "root" (by decide) ▸ h.root
  format := hsame.secrets "format" (by decide) ▸ h.format
  outputDirectory := hsame.render "output_dir" (by decide) ▸ h.outputDirectory
  enabled := hsame.argo "enabled" (by decide) ▸ h.enabled
  nameSpace := hsame.argo "namespace" (by decide) ▸ h.nameSpace
  project := hsame.argo "project" (by decide) ▸ h.project
  repository := hsame.argo "repo_url" (by decide) ▸ h.repository
  revision := hsame.argo "target_revision" (by decide) ▸ h.revision
  server := hsame.argo "destination_server" (by decide) ▸ h.server

/-! ### What is left is accepted -/

/-- A place is read from what is left as from the whole, and where nothing is left, the whole can be
read. -/
theorem read_knownUnder : ∀ s ∈ slots, ∀ whole,
    (∀ item, knownUnder s.key whole = some item → s.read item = s.read whole) ∧
    (knownUnder s.key whole = none → ∃ value, s.read whole = .ok value) := by
  have htext : ∀ {whole : Item} {read : Item → Except Fault String},
      (∀ item, some whole = some item → read item = read whole) ∧
      (some whole = none → ∃ value, read whole = .ok value) := by
    intro whole read
    refine ⟨?_, fun h => absurd h (by simp)⟩
    rintro item ⟨⟩
    rfl
  have hpart : ∀ {ρ : Type} {inner : Shape ρ} {first : ρ} {whole : Item},
      (∀ item, inner.knownIn whole = some item → inner.fill item first = inner.fill whole first) ∧
      (inner.knownIn whole = none → ∃ value, inner.fill whole first = .ok value) :=
    ⟨fun item h => Shape.fill_knownIn h _, fun h => ⟨_, Shape.fill_of_knownIn_eq_none h _⟩⟩
  simp only [slots, List.forall_mem_cons, List.not_mem_nil, false_implies, implies_true, and_true]
  exact ⟨fun _ => htext, fun _ => htext, fun _ => hpart, fun _ => hpart, fun _ => hpart⟩

/-- **A document is accepted when it is without the keys that have no setting.** -/
theorem exists_ofEntries_known_iff :
    (∃ p, ofEntries (known entries) = .ok p) ↔ ∃ p, ofEntries entries = .ok p := by
  simp only [ofEntries, hasSlots.exists_fillEntries_iff]
  constructor
  · rintro hall ⟨key, whole⟩ hentry s hs rfl
    obtain ⟨hsome, hnone⟩ := read_knownUnder s hs whole
    cases hknown : knownUnder s.key whole with
    | none => exact hnone hknown
    | some item =>
      rw [← hsome item hknown]
      exact hall _ (mem_known.mpr ⟨hasSlots.key_mem_names hs, whole, hentry, hknown⟩) s hs rfl
  · rintro hall ⟨key, item⟩ hentry s hs rfl
    obtain ⟨-, whole, hwhole, hknown⟩ := mem_known.mp hentry
    rw [(read_knownUnder s hs whole).1 item hknown]
    exact hall _ hwhole s hs rfl

/-- The order of the entries does not matter for that. -/
theorem exists_ofEntries_of_perm {entries' : Entries} (h : entries.Perm entries') :
    (∃ p, ofEntries entries = .ok p) ↔ ∃ p, ofEntries entries' = .ok p := by
  simp only [ofEntries, hasSlots.exists_fillEntries_iff, h.mem_iff]

theorem parse_eq_ok_iff {text : String} : parse text = .ok p ↔
    ∃ entries, readDocument text = some entries ∧ ofEntries entries = .ok p := by
  rw [parse]
  cases readDocument text with
  | none => simp
  | some entries => cases hentries : ofEntries entries <;> simp [hentries]

/-- **Settings are layered over the first ones.** The settings that are read from a text are those
that its document leaves of the first ones, setting by setting, and no others. They are also read
from every other text whose document is the same, in any order, but for keys without a setting and
parts that are there only for such keys. -/
theorem settings_layered (text : String) (p : Project) (hparse : parse text = .ok p) :
    ∃ entries, readDocument text = some entries ∧ (∀ q, LayeredOver entries q ↔ q = p) ∧
      ∀ other entries', readDocument other = some entries' → (known entries').Perm (known entries) →
        parse other = .ok p := by
  obtain ⟨entries, hread, hentries⟩ := parse_eq_ok_iff.mp hparse
  have hlayered := layeredOver_of_ofEntries hentries
  refine ⟨entries, hread, fun q => ⟨fun h => h.unique hlayered, fun heq => heq ▸ hlayered⟩, ?_⟩
  intro other entries' hother hknown
  -- the other document is accepted, and what it leaves is layered in the same way
  obtain ⟨q, hq⟩ : ∃ q, ofEntries entries' = .ok q := by
    rw [← exists_ofEntries_known_iff, exists_ofEntries_of_perm hknown, exists_ofEntries_known_iff]
    exact ⟨p, hentries⟩
  have hsame : SaysSame entries' entries :=
    saysSame_of_perm (nodup_keys_of_readDocument hother) (nodup_keys_of_readDocument hread) hknown
  obtain rfl : q = p := ((layeredOver_of_ofEntries hq).of_saysSame hsame).unique hlayered
  exact parse_eq_ok_iff.mpr ⟨entries', hother, hq⟩

/-- A document that says something about five settings. -/
def partialText : String :=
  "registry = \"registry.example.com/team\"\n[secrets]\nroot = \"/etc/app-secrets\"\n" ++
    "format = \"json\"\n[argocd]\nenabled = true\nrepo_url = \"apps.git\"\n"

/-- The same with a key, a table and a list of tables that have no setting, one of them in a part
that is not there otherwise. -/
def chattyText : String :=
  "colour = 3\nrender.colour = 4\nregistry = \"registry.example.com/team\"\n[secrets]\n" ++
    "root = \"/etc/app-secrets\"\nage = 1\nformat = \"json\"\n[[secrets.keys]]\n[argocd]\n" ++
    "enabled = true\nrepo_url = \"apps.git\"\n[team]\n"

/-- What it leaves of the first settings. -/
def partialProject : Project where
  registry := "registry.example.com/team"
  secrets := { root := "/etc/app-secrets", format := .json }
  argo := { enabled := true, repository := "apps.git" }

/-- The document of the text. -/
def partialEntries : Entries := [
  ("registry", .text "registry.example.com/team"),
  ("secrets", .table .header [("root", .text "/etc/app-secrets"), ("format", .text "json")]),
  ("argocd", .table .header [("enabled", .boolean true), ("repo_url", .text "apps.git")])]

/-- The document of the other text. -/
def chattyEntries : Entries := [
  ("colour", .integer 3),
  ("render", .table .dotted [("colour", .integer 4)]),
  ("registry", .text "registry.example.com/team"),
  ("secrets", .table .header [("root", .text "/etc/app-secrets"), ("age", .integer 1),
    ("format", .text "json"), ("keys", .tables [[]])]),
  ("argocd", .table .header [("enabled", .boolean true), ("repo_url", .text "apps.git")]),
  ("team", .table .header [])]

set_option maxRecDepth 4000 in
theorem readDocument_partialText : readDocument partialText = some partialEntries := by rfl

set_option maxRecDepth 4000 in
theorem readDocument_chattyText : readDocument chattyText = some chattyEntries := by rfl

theorem settings_layered_partial :
    parse partialText = .ok partialProject ∧ LayeredOver partialEntries partialProject ∧
      parse chattyText = .ok partialProject := by
  have hparse : parse partialText = .ok partialProject :=
    parse_eq_ok_iff.mpr ⟨_, readDocument_partialText, by decide +kernel⟩
  obtain ⟨entries, hread, hlayered, hother⟩ := settings_layered partialText partialProject hparse
  rw [readDocument_partialText, Option.some.injEq] at hread
  subst hread
  exact ⟨hparse, (hlayered _).mpr rfl, hother _ _ readDocument_chattyText (.refl _)⟩

end Project

end AppRelease
