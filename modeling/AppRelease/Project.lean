import AppRelease.Secrets.Bundle
import AppRelease.Toml.Reader
import AppRelease.Toml.Shape

/-!
# Settings of a project

Program: a project has settings for its registry and domain, its secrets, where manifests are
rendered, and Argo CD. Each has a value from the start; `Project.parse` changes those that a TOML
document sets.
-/

namespace AppRelease

/-- Where secrets are and how they are written. -/
structure SecretsSettings where
  root : String := ".secrets"
  format : Secrets.Format := .dotenv
  deriving DecidableEq, Repr

/-- Where manifests are rendered. -/
structure RenderSettings where
  outputDirectory : String := "manifests/generated"
  deriving DecidableEq, Repr

/-- Whether and how Argo CD follows the rendered manifests. -/
structure ArgoSettings where
  enabled : Bool := false
  nameSpace : String := "argocd"
  project : String := "default"
  repository : String := ""
  revision : String := "HEAD"
  server : String := "https://kubernetes.default.svc"
  deriving DecidableEq, Repr

/-- The settings of a project. -/
structure Project where
  registry : String := "ghcr.io/oyelowo"
  baseDomain : String := "oyelowo.dev"
  secrets : SecretsSettings := {}
  render : RenderSettings := {}
  argo : ArgoSettings := {}
  deriving DecidableEq, Repr

/-- A field that holds a text. -/
def textField {σ : Type} (set : String → σ → σ) (item : Toml.Item) (record : σ) :
    Except Toml.Fault σ := do
  let s ← item.asText
  return set s record

/-- The names of the formats of secrets files. -/
def formatNames : List (String × Secrets.Format) :=
  [(Secrets.Format.dotenv.name, .dotenv), (Secrets.Format.json.name, .json)]

/-- The fields of the settings for secrets. -/
def SecretsSettings.shape : Toml.Shape SecretsSettings where
  name := "SecretsConf"
  fields := [
    ("root", textField fun s r => { r with root := s }),
    ("format", fun item r => do
      let format ← Toml.chooseNamed formatNames item
      return { r with format := format })]

/-- The fields of the settings for rendering. -/
def RenderSettings.shape : Toml.Shape RenderSettings where
  name := "RenderConf"
  fields := [("output_dir", textField fun s r => { r with outputDirectory := s })]

/-- The fields of the settings for Argo CD. -/
def ArgoSettings.shape : Toml.Shape ArgoSettings where
  name := "ArgocdConf"
  fields := [
    ("enabled", fun item r => do
      let b ← item.asBoolean
      return { r with enabled := b }),
    ("namespace", textField fun s r => { r with nameSpace := s }),
    ("project", textField fun s r => { r with project := s }),
    ("repo_url", textField fun s r => { r with repository := s }),
    ("target_revision", textField fun s r => { r with revision := s }),
    ("destination_server", textField fun s r => { r with server := s })]

namespace Project

/-- A field that holds a record of its own; what the document does not set has its first value. -/
def recordField {ρ σ : Type} (shape : Toml.Shape ρ) (first : ρ) (set : ρ → σ → σ)
    (item : Toml.Item) (record : σ) : Except Toml.Fault σ := do
  let inner ← shape.fill item first
  return set inner record

/-- The fields of a project. -/
def shape : Toml.Shape Project where
  name := "ProjectConf"
  fields := [
    ("registry", textField fun s r => { r with registry := s }),
    ("base_domain", textField fun s r => { r with baseDomain := s }),
    ("secrets", recordField SecretsSettings.shape {} fun s r => { r with secrets := s }),
    ("render", recordField RenderSettings.shape {} fun s r => { r with render := s }),
    ("argocd", recordField ArgoSettings.shape {} fun s r => { r with argo := s })]

/-- The settings that the entries of a document leave. -/
def ofEntries (entries : Toml.Entries) : Except Toml.Fault Project := shape.fillEntries entries {}

/-- Reads a TOML document as settings. -/
def parse (text : String) : Except Error Project :=
  match Toml.readDocument text with
  | none => .error (.toml .malformed)
  | some entries =>
    match ofEntries entries with
    | .ok project => .ok project
    | .error fault => .error (.toml fault)

/-- Reads a file as settings. -/
def load (files : FileTree) (path : String) : Except Error Project :=
  match files.readText path with
  | .error fault => .error (.io fault)
  | .ok text => parse text

/-- Where the project's secrets are. -/
def store (p : Project) : Secrets.Store := ⟨p.secrets.root, p.secrets.format⟩

end Project

end AppRelease
