import AppRelease.Assembly
import AppRelease.Proofs.Application
import AppRelease.Proofs.Base64
import AppRelease.Proofs.Manifest

/-!
# From a secrets file to the object that holds the secrets

Specification: a secret is followed from its file to the object that is released (`CarriesSecrets`).
It goes through a reader, base 64, the templates of the application, a dictionary by name, and base
64 again, and what arrives is what the file holds, byte for byte.

1. **Files.** `Store.Holds` says what a store holds for an application: the content of one file,
   read in the store's format, in which the last value of a key counts. `load_eq_ok_iff` says when
   that is loaded.
2. **Names and keys.** A variable has a name, a secret a key. A look-up by key in the bundle is a
   look-up by key in the file, encoded (`Bundle.Encodes`); a look-up by name in the configuration is
   the value of the last template of that name (`Defaults.get?_settings`).
3. **The crux.** Everything in the bundle was written by `Base64.encode`, so it decodes to what it
   was made from (`Base64.decode_encode`) and the object that holds the secrets is always made.
-/

namespace AppRelease

namespace Secrets

/-! ## Files -/

/-- What a store holds for an application in an environment: the plain values of its file by key. -/
def Store.Holds (s : Store) (files : FileTree) (application : String) (environment : Environment)
    (plain : Dict String) : Prop :=
  ∃ content entries, files.readText (s.pathFor application environment) = .ok content ∧
    s.readPlain (s.pathFor application environment) content = .ok entries ∧
    plain = Dict.ofList entries

/-- **When secrets are loaded, and which ones.** -/
theorem Store.load_eq_ok_iff {s : Store} {files : FileTree} {application : String}
    {environment : Environment} {bundle : Bundle} :
    s.load files application environment = .ok bundle ↔
      files.isFile (s.pathFor application environment) = true ∧ ∃ content entries,
        files.readText (s.pathFor application environment) = .ok content ∧
        s.readPlain (s.pathFor application environment) content = .ok entries ∧
        bundle = .ofPlain application environment (s.pathFor application environment)
          (entries.map fun e => (e.1, Text.bytesOf e.2)) := by
  rw [load]
  by_cases hfile : files.isFile (s.pathFor application environment) = true
  · rw [if_pos hfile]
    cases files.readText (s.pathFor application environment) with
    | error fault => simp
    | ok content =>
      cases hplain : s.readPlain (s.pathFor application environment) content with
      | error error => simp [hplain]
      | ok entries => simp [hplain, hfile, eq_comm]
  · simp [hfile]

/-- A bundle has plain values, encoded: every look-up is a look-up among them. -/
def Bundle.Encodes (b : Bundle) (plain : Dict String) : Prop :=
  ∀ key, b.get? key = (plain.get? key).map fun text => Base64.encode (Text.bytesOf text)

/-- A bundle that was loaded has what the store holds. -/
theorem Store.exists_holds_of_load {s : Store} {files : FileTree} {application : String}
    {environment : Environment} {bundle : Bundle}
    (hload : s.load files application environment = .ok bundle) :
    ∃ plain, s.Holds files application environment plain ∧ bundle.Encodes plain := by
  obtain ⟨-, content, entries, hcontent, hentries, rfl⟩ := load_eq_ok_iff.mp hload
  refine ⟨Dict.ofList entries, ⟨content, entries, hcontent, hentries, rfl⟩, ?_⟩
  intro key
  rw [Bundle.ofPlain, Bundle.get?, List.map_map, Dict.get?_ofList, Dict.get?_ofList]
  exact lastValue?_map (fun text => Base64.encode (Text.bytesOf text)) entries

/-- What was encoded is decoded to what it was made from. -/
theorem decode_encode (bytes : List UInt8) : decode (Base64.encode bytes) = .ok bytes := by
  rw [decode, Base64.decode_encode]

end Secrets

/-! ## Assembling -/

namespace Assembly

variable {a : Assembly} {files : FileTree} {d : Defaults} {e : Environment} {c : AppConfig}

/-- **When a configuration is assembled, and which one.** -/
theorem assemble_eq_ok_iff : a.assemble files d = .ok (e, c) ↔
    ∃ known, a.resolve d = .ok known ∧ known.environment = e ∧
      ∃ secrets, a.store.load files d.name e = .ok secrets ∧ d.build known secrets = .ok c := by
  simp only [assemble, bind_eq_ok_iff, pure_eq_ok_iff, Prod.mk.injEq]
  constructor
  · rintro ⟨known, hknown, secrets, hsecrets, config, hconfig, rfl, rfl⟩
    exact ⟨known, hknown, rfl, secrets, hsecrets, hconfig⟩
  · rintro ⟨known, hknown, rfl, secrets, hsecrets, hconfig⟩
    exact ⟨known, hknown, secrets, hsecrets, c, hconfig, rfl, rfl⟩

/-! ## Names and keys -/

section Built

variable {known : Variables} {secrets : Secrets.Bundle} {plain : Dict String} {name key : String}

/-- When a configuration is built, every secret that counts is there. -/
theorem exists_plain_of_template (hbuild : d.build known secrets = .ok c)
    (hencodes : secrets.Encodes plain) (htemplate : d.template? name = some (.secret key)) :
    ∃ text, plain.get? key = some text := by
  obtain ⟨-, -, hnone, -⟩ := Defaults.build_eq_ok_iff.mp hbuild
  obtain ⟨value, hvalue⟩ :=
    Defaults.shortfalls_eq_nil_iff.mp hnone (name, .secret key) (mem_of_lastValue? htemplate)
  cases hplain : plain.get? key with
  | some text => exact ⟨text, rfl⟩
  | none => simp [Template.value, hencodes key, hplain] at hvalue

/-- A name is bound to a secret exactly when its last template asks for one, and then to the plain
value of that key, encoded. -/
theorem get?_eq_secret_iff (hbuild : d.build known secrets = .ok c)
    (hencodes : secrets.Encodes plain) {encoded : String} :
    c.settings.get? name = some (.secret encoded) ↔
      ∃ key text, d.template? name = some (.secret key) ∧ plain.get? key = some text ∧
        encoded = Base64.encode (Text.bytesOf text) := by
  rw [Defaults.get?_settings hbuild, Option.bind_eq_some_iff]
  constructor
  · rintro ⟨template, htemplate, hvalue⟩
    obtain ⟨key, rfl, hkey⟩ := Template.value_eq_secret_iff.mp (toOption_eq_some_iff.mp hvalue)
    rw [hencodes key, Option.map_eq_some_iff] at hkey
    obtain ⟨text, htext, rfl⟩ := hkey
    exact ⟨key, text, htemplate, htext, rfl⟩
  · rintro ⟨key, text, htemplate, htext, rfl⟩
    refine ⟨.secret key, htemplate, toOption_eq_some_iff.mpr ?_⟩
    exact Template.value_eq_secret_iff.mpr ⟨key, rfl, by rw [hencodes key, htext]; rfl⟩

/-- What a bundle encodes can be read again. -/
theorem secretsReadable_of_build (hbuild : d.build known secrets = .ok c)
    (hencodes : secrets.Encodes plain) : c.SecretsReadable := by
  intro name encoded hsetting
  obtain ⟨-, text, -, -, rfl⟩ := (get?_eq_secret_iff hbuild hencodes).mp hsetting
  exact ⟨Text.bytesOf text, Secrets.decode_encode _⟩

/-- The bytes under a name are those of the secret that its last template asks for. -/
theorem get?_secretData_of_build (hbuild : d.build known secrets = .ok c)
    (hencodes : secrets.Encodes plain) {bytes : List UInt8} :
    c.secretData.get? name = some bytes ↔
      ∃ key text, d.template? name = some (.secret key) ∧ plain.get? key = some text ∧
        bytes = Text.bytesOf text := by
  rw [AppConfig.get?_secretData]
  constructor
  · rintro ⟨encoded, hsetting, hdecode⟩
    obtain ⟨key, text, htemplate, htext, rfl⟩ := (get?_eq_secret_iff hbuild hencodes).mp hsetting
    rw [Secrets.decode_encode, Except.ok.injEq] at hdecode
    exact ⟨key, text, htemplate, htext, hdecode.symm⟩
  · rintro ⟨key, text, htemplate, htext, rfl⟩
    have hsetting := (get?_eq_secret_iff hbuild hencodes).mpr ⟨key, text, htemplate, htext, rfl⟩
    exact ⟨_, hsetting, Secrets.decode_encode _⟩

end Built

/-! ## From file to object -/

/-- The object carries the secrets that an application asks for: one for every variable whose last
template asks for a secret, with the bytes of the plain text of that key, where the configuration
has the same bytes in base 64. -/
structure CarriesSecrets (d : Defaults) (plain : Dict String) (c : AppConfig) (o : SecretObject) :
    Prop where
  names : ∀ name, name ∈ o.data.keys ↔ ∃ key, d.template? name = some (.secret key)
  values : ∀ name key, d.template? name = some (.secret key) →
    ∃ text, plain.get? key = some text ∧ o.data.get? name = some (Text.bytesOf text) ∧
      c.settings.get? name = some (.secret (Base64.standard (Text.bytesOf text)))

/-- What is built from encoded values carries the plain ones. -/
theorem carriesSecrets_of_build {known : Variables} {secrets : Secrets.Bundle} {plain : Dict String}
    (hbuild : d.build known secrets = .ok c) (hencodes : secrets.Encodes plain) (m : Metadata) :
    CarriesSecrets d plain c ⟨m, c.secretData⟩ := by
  constructor
  · intro name
    rw [Dict.mem_keys_iff, Option.isSome_iff_exists]
    constructor
    · rintro ⟨bytes, hbytes⟩
      obtain ⟨key, -, htemplate, -⟩ := (get?_secretData_of_build hbuild hencodes).mp hbytes
      exact ⟨key, htemplate⟩
    · rintro ⟨key, htemplate⟩
      obtain ⟨text, htext⟩ := exists_plain_of_template hbuild hencodes htemplate
      exact ⟨_, (get?_secretData_of_build hbuild hencodes).mpr ⟨key, text, htemplate, htext, rfl⟩⟩
  · intro name key htemplate
    obtain ⟨text, htext⟩ := exists_plain_of_template hbuild hencodes htemplate
    have hdata := (get?_secretData_of_build hbuild hencodes).mpr ⟨key, text, htemplate, htext, rfl⟩
    have hsetting := (get?_eq_secret_iff hbuild hencodes).mpr ⟨key, text, htemplate, htext, rfl⟩
    rw [Base64.encode_eq_standard] at hsetting
    exact ⟨text, htext, hdata, hsetting⟩

/-- **Secrets survive assembly.** The object that holds the secrets can be made from every
configuration that is assembled, and it carries what the store holds. -/
theorem secrets_survive_assembly (a : Assembly) (files : FileTree) (d : Defaults) (e : Environment)
    (c : AppConfig) (hassembled : a.assemble files d = .ok (e, c)) :
    ∃ plain, a.store.Holds files d.name e plain ∧
      ∀ place, ∃ o, c.secretObject place = .ok o ∧ CarriesSecrets d plain c o := by
  obtain ⟨known, -, -, secrets, hload, hbuild⟩ := assemble_eq_ok_iff.mp hassembled
  obtain ⟨plain, hholds, hencodes⟩ := Secrets.Store.exists_holds_of_load hload
  refine ⟨plain, hholds, ?_⟩
  intro place
  have hreadable := secretsReadable_of_build hbuild hencodes
  exact ⟨_, AppConfig.secretObject_eq_ok_iff.mpr ⟨hreadable, rfl⟩,
    carriesSecrets_of_build hbuild hencodes _⟩

/-! ## A run -/

/-- A staging environment with secrets below `vault`. -/
def demoAssembly : Assembly where
  source :=
    .ofDict (Dict.ofList [("ENVIRONMENT", .text " staging"), ("IMAGE_TAG_DEMO", .text "v1")])
  store := { root := "vault" }

/-- A secrets file with a comment, a key that is set twice, quotes, a dollar sign and a letter of
two bytes. -/
def demoFiles : FileTree where
  nodes := [
    (["vault"], .directory),
    (["vault", "staging"], .directory),
    (["vault", "staging", "demo.env"],
      .file (Text.bytesOf "# keys\nDB=old\nexport DB = 'pa$HOME=é'\n"))]

/-- An application with two templates for each of its variables. -/
def demoDefaults : Defaults :=
  { Defaults.plainDefaults with
    nameSpace := "apps"
    registry := "registry.local/"
    env :=
      [("PASSWORD", .literal "none"), ("DB", .secret "DB"), ("PASSWORD", .secret "DB"),
        ("DB", .port)] }

/-- What is assembled for it. -/
def demoConfig : AppConfig where
  name := "demo"
  nameSpace := "apps"
  image := "registry.local/demo:v1"
  resources := demoDefaults.resources
  settings := Dict.ofList [("DB", .plain "8000"), ("PASSWORD", .secret "cGEkSE9NRT3DqQ==")]

theorem secrets_survive_assembly_demo :
    demoAssembly.assemble demoFiles demoDefaults = .ok (.staging, demoConfig) ∧
      ∃ plain, demoAssembly.store.Holds demoFiles "demo" .staging plain ∧
        ∀ place, ∃ o, demoConfig.secretObject place = .ok o ∧
          CarriesSecrets demoDefaults plain demoConfig o := by
  have hassembled : demoAssembly.assemble demoFiles demoDefaults = .ok (.staging, demoConfig) := by
    decide +kernel
  exact ⟨hassembled,
    secrets_survive_assembly demoAssembly demoFiles demoDefaults .staging demoConfig hassembled⟩

end Assembly

end AppRelease
