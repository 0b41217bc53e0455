import AppRelease.Application.Build

/-!
# Assembling a configuration

Program: `Assembly` has a source of variables and a store of secrets. `Assembly.assemble` reads what
an application needs from both and puts its configuration together.
-/

namespace AppRelease

/-- Where the variables and the secrets of applications come from. -/
structure Assembly where
  source : Source
  store : Secrets.Store

namespace Assembly

/-- What an application needs to know about the run: the environment, its image tag and its own
variables. -/
def requirements (d : Defaults) : Requirements :=
  d.requiredEnv.foldl Requirements.require (Requirements.initial.requireImageTag d.name)

/-- The variables of an application. -/
def resolve (a : Assembly) (d : Defaults) : Except Error Variables :=
  (requirements d).resolve a.source

/-- The environment of the run and the configuration of an application in it. -/
def assemble (a : Assembly) (files : FileTree) (d : Defaults) :
    Except Error (Environment × AppConfig) := do
  let known ← a.resolve d
  let secrets ← a.store.load files d.name known.environment
  let config ← d.build known secrets
  return (known.environment, config)

end Assembly

end AppRelease
