import AppRelease.Proofs.Laws
import AppRelease.Release

/-!
# All or nothing

Specification: a release prepares every application before it hands anything over. So a failure to
prepare, of whichever application and at whichever stage, leaves the sink as it was, and the error
is that of the first application that cannot be prepared. The sink is any function of its state:
files, a cluster, or a record of what it was given.

1. **Success.** `prepareAll_eq_ok_iff`: all are prepared exactly when each is, and in the order of
   the names.
2. **Failure.** `prepareAll_eq_error_iff`: the names split at the first that fails, and its error is
   the error of all. Both are inductions on the names, for one state of the files throughout.
-/

namespace AppRelease.Release

variable {r : Release} {files : FileTree} {names : List String}

/-- **All are prepared exactly when each is**, in order. -/
theorem prepareAll_eq_ok_iff {prepared : List ManifestSet} :
    r.prepareAll files names = .ok prepared ↔ names.map (r.prepare files) = prepared.map .ok := by
  induction names generalizing prepared with
  | nil => cases prepared <;> simp [prepareAll]
  | cons name rest ih =>
    simp only [prepareAll, bind_eq_ok_iff, pure_eq_ok_iff, List.map_cons]
    constructor
    · rintro ⟨first, hfirst, others, hothers, rfl⟩
      rw [List.map_cons, hfirst, ih.mp hothers]
    · intro h
      cases prepared with
      | nil => exact absurd h (by simp)
      | cons first others =>
        rw [List.map_cons, List.cons.injEq] at h
        exact ⟨first, h.1, others, ih.mpr h.2, rfl⟩

/-- The names split at one that cannot be prepared, and everything before it can. -/
def FailsFirst (r : Release) (files : FileTree) (names : List String) (error : Error) : Prop :=
  ∃ before name after, names = before ++ name :: after ∧
    (∀ n ∈ before, ∃ s, r.prepare files n = .ok s) ∧ r.prepare files name = .error error

/-- The first to fail is the first name, or that is prepared and it is the first of the rest to
fail. -/
theorem failsFirst_cons {name : String} {rest : List String} {error : Error} :
    r.FailsFirst files (name :: rest) error ↔ r.prepare files name = .error error ∨
      (∃ s, r.prepare files name = .ok s) ∧ r.FailsFirst files rest error := by
  constructor
  · rintro ⟨before, other, after, hsplit, hbefore, hother⟩
    cases before with
    | nil =>
      obtain ⟨rfl, rfl⟩ := List.cons.inj hsplit
      exact .inl hother
    | cons n before =>
      obtain ⟨rfl, rfl⟩ := List.cons.inj hsplit
      refine .inr ⟨hbefore name List.mem_cons_self, before, other, after, rfl, ?_, hother⟩
      intro n hn
      exact hbefore n (List.mem_cons_of_mem _ hn)
  · rintro (hname | ⟨hname, before, other, after, rfl, hbefore, hother⟩)
    · exact ⟨[], name, rest, rfl, by simp, hname⟩
    · refine ⟨name :: before, other, after, rfl, ?_, hother⟩
      intro n hn
      rcases List.mem_cons.mp hn with rfl | hn
      · exact hname
      · exact hbefore n hn

/-- **The error of all is that of the first that fails.** -/
theorem prepareAll_eq_error_iff {error : Error} :
    r.prepareAll files names = .error error ↔ r.FailsFirst files names error := by
  induction names with
  | nil => simp [prepareAll, FailsFirst]
  | cons name rest ih =>
    rw [failsFirst_cons, ← ih, prepareAll]
    -- an error of the first name is the error of all, whatever follows
    cases r.prepare files name with
    | error fault => simp [bind, Except.bind]
    | ok first => cases r.prepareAll files rest <;> simp [bind, Except.bind, pure, Except.pure]

/-- **A release prepares all before it hands over any.** If some application cannot be prepared, the
result is the error of the first such and the sink is as it was; if all can, the result is that of
handing them over in order. -/
theorem run_prepares_all_first {σ : Type} (r : Release) (files : FileTree) (names : List String)
    (sink : Sink σ) (state : σ) :
    ((∃ name ∈ names, ∃ error, r.prepare files name = .error error) →
      ∃ error, r.FailsFirst files names error ∧
        r.run files names sink state = (.error error, state)) ∧
    ((∀ name ∈ names, ∃ s, r.prepare files name = .ok s) →
      ∃ prepared, names.map (r.prepare files) = prepared.map .ok ∧
        r.run files names sink state = emitAll sink prepared state) := by
  cases hall : r.prepareAll files names with
  | error error =>
    have hfails := prepareAll_eq_error_iff.mp hall
    refine ⟨fun _ => ⟨error, hfails, by rw [run, hall]⟩, fun hok => ?_⟩
    obtain ⟨before, name, after, rfl, -, hname⟩ := hfails
    obtain ⟨s, hs⟩ := hok name (by simp)
    rw [hname] at hs
    exact absurd hs (by simp)
  | ok prepared =>
    have hmap := prepareAll_eq_ok_iff.mp hall
    refine ⟨fun ⟨name, hname, error, hfails⟩ => ?_, fun _ => ⟨prepared, hmap, by rw [run, hall]⟩⟩
    have hmem : r.prepare files name ∈ prepared.map .ok := hmap ▸ List.mem_map_of_mem hname
    obtain ⟨s, -, hs⟩ := List.mem_map.mp hmem
    rw [hfails] at hs
    exact absurd hs (by simp)

/-! ## A run -/

/-- A release on a machine that has the secrets of one application only. -/
def localRelease : Release :=
  .ofProject {}
    (.ofDict (Dict.ofList [("ENVIRONMENT", .text "local"), ("IMAGE_TAG_REACT_WEB", .text "v1"),
      ("IMAGE_TAG_GRPC_MONGO", .text "v1")]))
    ∅

/-- The files of that machine. -/
def localFiles : FileTree where
  nodes := [([".secrets"], .directory), ([".secrets", "local"], .directory),
    ([".secrets", "local", "react-web.env"], .file [])]

/-- A sink that accepts everything and keeps a record of it. -/
def recorder : Sink (List String) := fun s record => (.ok (.applied []), record ++ [s.application])

theorem run_prepares_all_first_local :
    (∃ error, localRelease.prepare localFiles "grpc-mongo" = .error error) ∧
      (∃ error, localRelease.FailsFirst localFiles ["react-web", "grpc-mongo", "unknown"] error ∧
        localRelease.run localFiles ["react-web", "grpc-mongo", "unknown"] recorder [] =
          (.error error, [])) ∧
      (∃ s, localRelease.prepare localFiles "react-web" = .ok s) ∧
      ∃ prepared,
        ["react-web", "react-web"].map (localRelease.prepare localFiles) = prepared.map .ok ∧
        localRelease.run localFiles ["react-web", "react-web"] recorder [] =
          emitAll recorder prepared [] := by
  have hmissing : localRelease.prepare localFiles "grpc-mongo" =
      .error (.secretsFileNotFound "grpc-mongo" "local" ".secrets/local/grpc-mongo.env") := by
    decide +kernel
  have hready : ∃ s, localRelease.prepare localFiles "react-web" = .ok s :=
    exists_eq_ok_of_isSome (by decide +kernel)
  refine ⟨⟨_, hmissing⟩, ?_, hready, ?_⟩
  · exact (run_prepares_all_first localRelease localFiles _ recorder []).1
      ⟨"grpc-mongo", by simp, _, hmissing⟩
  · exact (run_prepares_all_first localRelease localFiles _ recorder []).2 (by simpa using hready)

end AppRelease.Release
