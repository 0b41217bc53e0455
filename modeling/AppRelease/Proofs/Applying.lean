import AppRelease.Proofs.Wiring
import AppRelease.Release
import AppRelease.Sink

/-!
# Objects are applied in order

Specification: applications are handed over one after the other, and the objects of each one after
the other, to a client that may accept or reject each of them for reasons of its own. What was
applied is then a first part of all objects in order, up to the first that is rejected
(`AppliedInOrder`), at every point of the run. As the objects of an application come in the order in
which they need each other, no deployment is in the cluster before its namespace and the objects
that its container refers to (`Deployment.ReadyAfter`).

1. **What a client does.** `Client.Accepts` and `Client.RejectsAfter` say it of a list of objects,
   and nothing else can happen (`Client.accepts_or_rejects`). Both come apart where the list does,
   so two loops with an early exit each do what one does that goes through the objects of all
   applications (`emitAll_of_accepts`, `emitAll_of_rejectsAfter`).
2. **A record of the run.** `Client.recording` is the same client with a list of the calls and their
   answers. The points of a run are the first parts of that list.
3. **The crux (`own_objects_before`).** An object among those of all applications is one of some
   application, and right before it stand the objects that come before it there.
-/

namespace AppRelease

variable {σ : Type}

/-- A member of two lists put together is in the first of them or in the second. -/
theorem append_eq_append_cons {α : Type} {first second before after : List α} {a : α}
    (h : first ++ second = before ++ a :: after) :
    (∃ rest, first = before ++ a :: rest) ∨
      ∃ own, before = first ++ own ∧ second = own ++ a :: after := by
  rcases List.append_eq_append_iff.mp h with ⟨own, hbefore, hsecond⟩ | ⟨rest, hfirst, hafter⟩
  · exact .inr ⟨own, hbefore, hsecond⟩
  · cases rest with
    | nil => exact .inr ⟨[], by rw [hfirst, List.append_nil, List.append_nil], hafter.symm⟩
    | cons b rest =>
      obtain ⟨rfl, -⟩ := List.cons.inj hafter
      exact .inl ⟨rest, hfirst⟩

/-! ## What a client does with objects -/

namespace Client

/-- A client accepts objects one after the other, and this takes it from one state to another. -/
inductive Accepts (client : Client σ) : List Manifest → σ → σ → Prop
  | nil (state : σ) : Accepts client [] state state
  | cons {m : Manifest} {rest : List Manifest} {state next final : σ}
      (hfirst : client m state = (.ok (), next)) (hrest : Accepts client rest next final) :
      Accepts client (m :: rest) state final

/-- A client accepts the objects before a certain one and rejects that. -/
def RejectsAfter (client : Client σ) (objects : List Manifest) (state : σ)
    (before : List Manifest) (m : Manifest) (error : Error) (final : σ) : Prop :=
  ∃ after next, objects = before ++ m :: after ∧ client.Accepts before state next ∧
    client m next = (.error error, final)

/-- Every object is accepted, or there is a first that is not. -/
theorem accepts_or_rejects (client : Client σ) (objects : List Manifest) (state : σ) :
    (∃ final, client.Accepts objects state final) ∨
      ∃ before m error final, client.RejectsAfter objects state before m error final := by
  induction objects generalizing state with
  | nil => exact .inl ⟨state, .nil state⟩
  | cons first rest ih =>
    match hfirst : client first state with
    | (.error error, final) =>
      exact .inr ⟨[], first, error, final, rest, state, rfl, .nil state, hfirst⟩
    | (.ok (), next) =>
      rcases ih next with ⟨final, hrest⟩ | ⟨before, m, error, final, after, last, rfl, hrest, hm⟩
      · exact .inl ⟨final, .cons hfirst hrest⟩
      · exact .inr ⟨first :: before, m, error, final, after, last, rfl, .cons hfirst hrest, hm⟩

variable {client : Client σ} {first second before : List Manifest} {m : Manifest} {error : Error}
  {state final : σ}

/-- Lists that are accepted one after the other are accepted together, and the other way round. -/
theorem accepts_append_iff : client.Accepts (first ++ second) state final ↔
    ∃ next, client.Accepts first state next ∧ client.Accepts second next final := by
  induction first generalizing state with
  | nil =>
    constructor
    · intro h
      exact ⟨state, .nil state, h⟩
    · rintro ⟨next, hnil, hsecond⟩
      cases hnil
      exact hsecond
  | cons m rest ih =>
    constructor
    · intro h
      cases h with
      | cons hm hrest =>
        obtain ⟨next, hfirst, hsecond⟩ := ih.mp hrest
        exact ⟨next, .cons hm hfirst, hsecond⟩
    · rintro ⟨next, hcons, hsecond⟩
      cases hcons with
      | cons hm hrest => exact .cons hm (ih.mpr ⟨next, hrest, hsecond⟩)

/-- What is rejected is in the first list, or that is accepted and it is in the second. -/
theorem RejectsAfter.of_append
    (h : client.RejectsAfter (first ++ second) state before m error final) :
    client.RejectsAfter first state before m error final ∨
      ∃ next own, client.Accepts first state next ∧
        client.RejectsAfter second next own m error final := by
  obtain ⟨after, last, hsplit, haccepts, hm⟩ := h
  rcases append_eq_append_cons hsplit with ⟨rest, hfirst⟩ | ⟨own, rfl, hsecond⟩
  · exact .inl ⟨rest, last, hfirst, haccepts, hm⟩
  · obtain ⟨next, hfirst, hown⟩ := accepts_append_iff.mp haccepts
    exact .inr ⟨next, own, hfirst, after, last, hsecond, hown, hm⟩

end Client

variable {client : Client σ} {objects before : List Manifest} {sets : List ManifestSet}
  {m : Manifest} {error : Error} {state final : σ}

/-! ## Two loops are one -/

/-- The objects of several applications, in order. -/
def objectsOf (sets : List ManifestSet) : List Manifest := sets.flatMap ManifestSet.manifests

/-- What is reported of an application whose objects were all applied: each with its kind, a stroke
and its name. -/
def ManifestSet.applied (s : ManifestSet) : Released :=
  ⟨s.application, .applied (s.manifests.map fun m => m.kind ++ "/" ++ m.name)⟩

/-- Objects that are accepted are all reported. -/
theorem applyAll_of_accepts (h : client.Accepts objects state final) :
    applyAll client objects state =
      (.ok (objects.map fun m => m.kind ++ "/" ++ m.name), final) := by
  induction h with
  | nil state => rfl
  | cons hfirst hrest ih => simp only [applyAll, hfirst, ih, List.map_cons, Manifest.reference]

/-- The first object that is rejected ends the inner loop. -/
theorem applyAll_of_rejectsAfter (h : client.RejectsAfter objects state before m error final) :
    applyAll client objects state = (.error error, final) := by
  obtain ⟨after, next, rfl, haccepts, hm⟩ := h
  induction haccepts with
  | nil state => simp only [List.nil_append, applyAll, hm]
  | cons hfirst hrest ih => simp only [List.cons_append, applyAll, hfirst, ih hm]

/-- **Applications whose objects are all accepted are all reported.** -/
theorem emitAll_of_accepts (h : client.Accepts (objectsOf sets) state final) :
    emitAll (applySink client) sets state = (.ok (sets.map ManifestSet.applied), final) := by
  induction sets generalizing state with
  | nil =>
    cases h
    rfl
  | cons s rest ih =>
    obtain ⟨next, hown, hrest⟩ := Client.accepts_append_iff.mp h
    simp only [emitAll, applySink, applyAll_of_accepts hown, ih hrest]
    rfl

/-- **The first object that is rejected ends both loops**, whichever application it belongs to. -/
theorem emitAll_of_rejectsAfter
    (h : client.RejectsAfter (objectsOf sets) state before m error final) :
    emitAll (applySink client) sets state = (.error error, final) := by
  induction sets generalizing state before with
  | nil =>
    obtain ⟨after, next, hsplit, -⟩ := h
    exact absurd hsplit (by simp [objectsOf])
  | cons s rest ih =>
    -- the inner loop of this application stops, or it is done and a later one stops
    rcases Client.RejectsAfter.of_append h with hown | ⟨next, own, hown, hrest⟩
    · simp only [emitAll, applySink, applyAll_of_rejectsAfter hown]
    · simp only [emitAll, applySink, applyAll_of_accepts hown, ih hrest]

/-! ## A record of the run -/

/-- An object that was handed to a client, with the answer. -/
structure Call where
  object : Manifest
  answer : Except Error Unit

namespace Call

/-- A call that was accepted. -/
def accepted (m : Manifest) : Call := ⟨m, .ok ()⟩

/-- A call that was rejected. -/
def rejected (m : Manifest) (error : Error) : Call := ⟨m, .error error⟩

/-- The object, if it was accepted. -/
def applied? (c : Call) : Option Manifest :=
  match c.answer with
  | .ok () => some c.object
  | .error _ => none

/-- The objects that were accepted, in the order of the calls. -/
def applied (calls : List Call) : List Manifest := calls.filterMap applied?

theorem applied_map_accepted (objects : List Manifest) : applied (objects.map accepted) =
    objects := by
  rw [applied, List.filterMap_map]
  exact List.filterMap_some

theorem applied_append_rejected (objects : List Manifest) (m : Manifest) (error : Error) :
    applied (objects.map accepted ++ [rejected m error]) = objects := by
  rw [applied, List.filterMap_append, ← applied, applied_map_accepted]
  exact List.append_nil objects

end Call

/-- The same client with a record of the calls. -/
def Client.recording (client : Client σ) : Client (σ × List Call) := fun m state =>
  let (answer, next) := client m state.1
  (answer, (next, state.2 ++ [⟨m, answer⟩]))

theorem Client.recording_eq {next : σ} {answer : Except Error Unit}
    (h : client m state = (answer, next)) (calls : List Call) :
    client.recording m (state, calls) = (answer, (next, calls ++ [⟨m, answer⟩])) := by
  simp only [recording, h]

/-- The record of objects that were accepted. -/
theorem Client.Accepts.recorded (h : client.Accepts objects state final) (calls : List Call) :
    client.recording.Accepts objects (state, calls) (final,
      calls ++ objects.map Call.accepted) := by
  -- every step appends to the record, so the induction is over all records so far
  induction h generalizing calls with
  | nil state =>
    rw [List.map_nil, List.append_nil]
    exact .nil _
  | @cons m rest state next final hfirst hrest ih =>
    have hlater := ih (calls ++ [Call.accepted m])
    rw [List.append_assoc, List.singleton_append, ← List.map_cons] at hlater
    exact .cons (recording_eq hfirst calls) hlater

/-- The record up to an object that was rejected. -/
theorem Client.RejectsAfter.recorded (h : client.RejectsAfter objects state before m error final)
    (calls : List Call) :
    client.recording.RejectsAfter objects (state, calls) before m error
      (final, calls ++ before.map Call.accepted ++ [Call.rejected m error]) := by
  obtain ⟨after, next, hsplit, haccepts, hm⟩ := h
  exact ⟨after, _, hsplit, haccepts.recorded calls, recording_eq hm _⟩

/-- What becomes of the objects of applications: all are applied and reported, or those up to the
first that is rejected are applied and the rejection is the result. After a rejection nothing is
handed over. -/
inductive AppliedInOrder (client : Client σ) (sets : List ManifestSet) (state : σ) :
    Except Error (List Released) → σ → List Call → Prop
  | all {final : σ} (haccepts : client.Accepts (objectsOf sets) state final) :
      AppliedInOrder client sets state (.ok (sets.map ManifestSet.applied)) final
        ((objectsOf sets).map Call.accepted)
  | upTo {before : List Manifest} {m : Manifest} {error : Error} {final : σ}
      (hrejects : client.RejectsAfter (objectsOf sets) state before m error final) :
      AppliedInOrder client sets state (.error error) final
        (before.map Call.accepted ++ [Call.rejected m error])

/-- **Every run is in order**, and keeping a record of it does not change it. -/
theorem exists_appliedInOrder (client : Client σ) (sets : List ManifestSet) (state : σ) :
    ∃ outcome final calls,
      emitAll (applySink client) sets state = (outcome, final) ∧
      emitAll (applySink client.recording) sets (state, []) = (outcome, (final, calls)) ∧
      AppliedInOrder client sets state outcome final calls := by
  rcases client.accepts_or_rejects (objectsOf sets) state with
    ⟨final, haccepts⟩ | ⟨before, m, error, final, hrejects⟩
  · exact ⟨_, final, _, emitAll_of_accepts haccepts, emitAll_of_accepts (haccepts.recorded []),
      .all haccepts⟩
  · exact ⟨_, final, _, emitAll_of_rejectsAfter hrejects,
      emitAll_of_rejectsAfter (hrejects.recorded []), .upTo hrejects⟩

/-- What was applied at some point is a first part of all objects. -/
theorem AppliedInOrder.applied_prefix {outcome : Except Error (List Released)}
    {calls point : List Call} (h : AppliedInOrder client sets state outcome final calls)
    (hpoint : point <+: calls) :
    Call.applied point <+: objectsOf sets := by
  refine (hpoint.filterMap Call.applied?).trans ?_
  show Call.applied calls <+: objectsOf sets
  cases h with
  | all haccepts => exact ⟨[], by rw [List.append_nil, Call.applied_map_accepted]⟩
  | upTo hrejects =>
    obtain ⟨after, -, hsplit, -, -⟩ := hrejects
    rw [Call.applied_append_rejected, hsplit]
    exact List.prefix_append _ _

/-! ## What a deployment needs -/

/-- Everything that the pods of a deployment need is there: the namespace, and for every variable of
the container the object it refers to, with the key in it. -/
structure Deployment.ReadyAfter (d : Deployment) (before : List Manifest) : Prop where
  nameSpace : ∃ o, .nameSpace o ∈ before ∧ d.metadata.nameSpace = some o.name
  values : ∀ name object key, (name, .configMap object key) ∈ d.container.env →
    ∃ o, .configMap o ∈ before ∧ o.metadata.isAt d.metadata.nameSpace object = true ∧
      key ∈ o.data.keys
  secrets : ∀ name object key, (name, .secret object key) ∈ d.container.env →
    ∃ o, .secret o ∈ before ∧ o.metadata.isAt d.metadata.nameSpace object = true ∧ key ∈ o.data.keys

namespace AppConfig

variable {c : AppConfig} {e : Environment} {project : Project} {s : ManifestSet}

/-- The object that holds the secrets, with its bytes. -/
def secretWithData (c : AppConfig) (e : Environment) : SecretObject :=
  ⟨c.metadata e c.secretName, c.secretData⟩

/-- Before the deployment of an application stand its namespace, its values and its secrets. -/
theorem split_at_deployment {before after : List Manifest} {d : Deployment}
    (hmade : c.manifests e project = .ok s)
    (hsplit : s.manifests = before ++ .deployment d :: after) :
    d = c.deployment e ∧ before = [.nameSpace c.nameSpaceObject, .configMap (c.configMap e),
      .secret (c.secretWithData e)] := by
  obtain ⟨-, extra, hextra, rfl⟩ := manifests_eq_ok_iff.mp hmade
  have hnone : Manifest.deployment d ∉ extra := by
    rcases argoManifests_cases hextra with rfl | ⟨a, rfl⟩ <;> simp
  -- only the fourth place holds a deployment, and what Argo CD adds is none
  match before with
  | [] => simp [manifestSet] at hsplit
  | [_] => simp [manifestSet] at hsplit
  | [_, _] => simp [manifestSet] at hsplit
  | [_, _, _] =>
    simp only [manifestSet, List.cons_append, List.nil_append, List.cons.injEq,
      Manifest.deployment.injEq] at hsplit
    obtain ⟨rfl, rfl, rfl, rfl, -⟩ := hsplit
    exact ⟨rfl, rfl⟩
  | [_, _, _, _] => simp [manifestSet] at hsplit
  | _ :: _ :: _ :: _ :: _ :: rest =>
    simp only [manifestSet, List.cons_append, List.nil_append, List.cons.injEq] at hsplit
    exact absurd (by rw [hsplit.2.2.2.2.2]; simp) hnone

/-- The container refers to the object of its values for plain settings, and to that of its secrets
for secrets. -/
theorem readyAfter_deployment (hreadable : c.SecretsReadable) :
    (c.deployment e).ReadyAfter [.nameSpace c.nameSpaceObject, .configMap (c.configMap e),
      .secret (c.secretWithData e)] := by
  have hreference : ∀ name ref, (name, ref) ∈ (c.deployment e).container.env →
      ∃ setting, c.settings.get? name = some setting ∧ ref = c.reference name setting := by
    intro name ref hentry
    obtain ⟨⟨name', setting⟩, hmem, heq⟩ := List.mem_map.mp hentry
    obtain ⟨rfl, rfl⟩ := Prod.mk.inj heq
    exact ⟨setting, c.settings.get?_eq_some_iff.mpr hmem, rfl⟩
  constructor
  case nameSpace => exact ⟨c.nameSpaceObject, by simp, rfl⟩
  case values =>
    intro name object key hentry
    obtain ⟨setting, hsetting, href⟩ := hreference name _ hentry
    cases setting with
    | plain text =>
      obtain ⟨rfl, rfl⟩ := KeyReference.configMap.inj href
      exact ⟨c.configMap e, by simp, isAt_metadata c e _,
        mem_keys_plainVariables.mpr ⟨text, hsetting⟩⟩
    | secret encoded => exact absurd href (by simp [reference])
  case secrets =>
    intro name object key hentry
    obtain ⟨setting, hsetting, href⟩ := hreference name _ hentry
    cases setting with
    | plain text => exact absurd href (by simp [reference])
    | secret encoded =>
      obtain ⟨rfl, rfl⟩ := KeyReference.secret.inj href
      exact ⟨c.secretWithData e, by simp, isAt_metadata c e _,
        (mem_keys_secretData hreadable).mpr ⟨encoded, hsetting⟩⟩

end AppConfig

/-- **An object is preceded by those of its own application.** What stands before it ends with what
stands before it there. -/
theorem own_objects_before {after : List Manifest} (h : objectsOf sets = before ++ m :: after) :
    ∃ s ∈ sets, ∃ earlier own later, before = earlier ++ own ∧ s.manifests = own ++ m :: later := by
  induction sets generalizing before with
  | nil => exact absurd h (by simp [objectsOf])
  | cons s rest ih =>
    rcases append_eq_append_cons h with ⟨later, hown⟩ | ⟨inner, rfl, hrest⟩
    · exact ⟨s, List.mem_cons_self, [], before, later, rfl, hown⟩
    · obtain ⟨s', hs', earlier, own, later, rfl, hown⟩ := ih hrest
      exact ⟨s', List.mem_cons_of_mem _ hs', s.manifests ++ earlier, own, later,
        (List.append_assoc _ _ _).symm, hown⟩

/-- **Objects are applied in order, up to the first that is rejected.** For every client, a run
applies the objects of all applications in order; it ends with the first rejection, or with a report
of every application. If the objects were made from configurations, then at every point of the run
each deployment that was applied comes right after the objects of its own application that its pods
need. -/
theorem applied_in_order {σ : Type} (client : Client σ) (sets : List ManifestSet) (state : σ) :
    ∃ outcome final calls,
      emitAll (applySink client) sets state = (outcome, final) ∧
      emitAll (applySink client.recording) sets (state, []) = (outcome, (final, calls)) ∧
      AppliedInOrder client sets state outcome final calls ∧
      ((∀ s ∈ sets, ∃ c e project, AppConfig.manifests c e project = .ok s) →
        ∀ point before d after, point <+: calls →
          Call.applied point = before ++ .deployment d :: after →
          ∃ s ∈ sets, ∃ earlier own later, before = earlier ++ own ∧
            s.manifests = own ++ .deployment d :: later ∧ d.metadata.name = s.application ∧
            d.ReadyAfter own) := by
  obtain ⟨outcome, final, calls, hrun, hrecorded, horder⟩ := exists_appliedInOrder client sets state
  refine ⟨outcome, final, calls, hrun, hrecorded, horder, ?_⟩
  intro hmade point before d after hpoint happlied
  obtain ⟨rest, hrest⟩ := horder.applied_prefix hpoint
  rw [happlied, List.append_assoc, List.cons_append] at hrest
  obtain ⟨s, hs, earlier, own, later, hbefore, hown⟩ := own_objects_before hrest.symm
  obtain ⟨c, e, project, hmanifests⟩ := hmade s hs
  obtain ⟨rfl, rfl⟩ := AppConfig.split_at_deployment hmanifests hown
  obtain ⟨hreadable, extra, -, rfl⟩ := AppConfig.manifests_eq_ok_iff.mp hmanifests
  exact ⟨_, hs, earlier, _, later, hbefore, hown, rfl, AppConfig.readyAfter_deployment hreadable⟩

/-! ## A run -/

/-- A client that has room for a number of objects. -/
def limitedClient : Client Nat := fun m room =>
  match room with
  | 0 => (.error (.cluster (.stated (m.kind ++ " rejected"))), 0)
  | room + 1 => (.ok (), room)

/-- The objects of an application in two environments, six for each. -/
def webSets : List ManifestSet :=
  [.staging, .production].filterMap fun e =>
    (AppConfig.webConfig.manifests e AppConfig.webProject).toOption

theorem exists_manifests_of_mem_webSets :
    ∀ s ∈ webSets, ∃ c e project, AppConfig.manifests c e project = .ok s := by
  intro s hs
  obtain ⟨e, -, hmade⟩ := List.mem_filterMap.mp hs
  exact ⟨_, e, _, toOption_eq_some_iff.mp hmade⟩

/-- With room for ten objects the second service is rejected, and the second deployment is already
there. -/
theorem applied_in_order_limited :
    (∀ s ∈ webSets, ∃ c e project, AppConfig.manifests c e project = .ok s) ∧
      emitAll (applySink limitedClient) webSets 10 =
        (.error (.cluster (.stated "Service rejected")), 0) ∧
      ∃ calls, AppliedInOrder limitedClient webSets 10
        (.error (.cluster (.stated "Service rejected"))) 0 calls ∧
        ∃ before after, Call.applied calls =
            before ++ .deployment (AppConfig.webConfig.deployment .production) :: after ∧
          ∃ own, own <:+ before ∧ (AppConfig.webConfig.deployment .production).ReadyAfter own := by
  have hresult : emitAll (applySink limitedClient) webSets 10 =
      (.error (.cluster (.stated "Service rejected")), 0) := by
    decide +kernel
  have happlied : .deployment (AppConfig.webConfig.deployment .production) ∈
      Call.applied (emitAll (applySink limitedClient.recording) webSets (10, [])).2.2 := by
    decide +kernel
  obtain ⟨outcome, final, calls, hrun, hrecorded, horder, hready⟩ :=
    applied_in_order limitedClient webSets 10
  obtain ⟨rfl, rfl⟩ := Prod.mk.inj (hrun.symm.trans hresult)
  rw [hrecorded] at happlied
  obtain ⟨before, after, hsplit⟩ := List.append_of_mem happlied
  obtain ⟨s, -, earlier, own, later, hbefore, -, -, hown⟩ :=
    hready exists_manifests_of_mem_webSets calls before _ after List.prefix_rfl hsplit
  exact ⟨exists_manifests_of_mem_webSets, hresult, calls, horder, before, after, hsplit, own,
    ⟨earlier, hbefore.symm⟩, hown⟩

end AppRelease
