import AppRelease.Application.Template
import AppRelease.Proofs.Laws

/-!
# Many assignments to a list of templates

Program: `setTemplate` puts a template where its name stands first, or at the end.

Specification: `assign_cases`. After any number of assignments every entry that was there is at its
place, the first entry of a name holds the last value that the name was assigned, and what is new
follows, each name once and in the order of the assignments.

1. **What was there.** `reassign` says it in one pass over the templates: a value goes to the first
   entry of its name and is used up by it. Two passes are one (`reassign_reassign`), so the values
   may come in any number of rounds.
2. **What is new.** Membership says which entries these are, and a sublist says in which order
   (`Appends`).
3. **The crux.** With pairwise distinct names nothing is used up, and an entry is there after the
   assignments exactly when it holds the value of its name, or its name has no value and it was
   there before (`mem_assign`).
-/

namespace AppRelease

/-- The names of a list of templates, in their order. -/
def namesOf (env : List (String × Template)) : List String := env.map (·.1)

/-- Puts values under names, one after the other. -/
def assign (values : List (String × String)) (env : List (String × Template)) :
    List (String × Template) :=
  values.foldl (fun env entry => setTemplate entry.1 (.literal entry.2) env) env

/-- Gives each value to the first template of its name. -/
def reassign (value? : String → Option String) : List (String × Template) → List (String × Template)
  | [] => []
  | (name, template) :: rest =>
    (name, ((value? name).map .literal).getD template) ::
      reassign (fun other => if other = name then none else value? other) rest

/-- The templates that assignments put after those that were there. -/
structure Appends (values : List (String × String)) (env added : List (String × Template)) :
    Prop where
  order : (namesOf added).Sublist (values.map (·.1))
  nodup : (namesOf added).Nodup
  mem_iff : ∀ name template, (name, template) ∈ added ↔
    name ∉ namesOf env ∧ ∃ value, lastValue? name values = some value ∧ template = .literal value

variable {env : List (String × Template)} {value? : String → Option String} {name : String}

theorem mem_namesOf : name ∈ namesOf env ↔ ∃ template, (name, template) ∈ env := by
  simp [namesOf]

@[simp] theorem namesOf_cons (entry : String × Template) (rest : List (String × Template)) :
    namesOf (entry :: rest) = entry.1 :: namesOf rest := rfl

@[simp] theorem namesOf_append (env more : List (String × Template)) :
    namesOf (env ++ more) = namesOf env ++ namesOf more := List.map_append

/-- Templates with distinct names are distinct. -/
theorem nodup_of_namesOf (h : (namesOf env).Nodup) : env.Nodup :=
  List.Pairwise.of_map (·.1) (fun _ _ hne heq => hne (congrArg (·.1) heq)) h

/-! ## What was there -/

/-- **Names keep their places.** -/
@[simp] theorem namesOf_reassign : namesOf (reassign value? env) = namesOf env := by
  induction env generalizing value? with
  | nil => rfl
  | cons entry rest ih =>
    obtain ⟨n, t⟩ := entry
    exact congrArg (n :: ·) ih

@[simp] theorem length_reassign : (reassign value? env).length = env.length := by
  have hnames : (namesOf (reassign value? env)).length = (namesOf env).length :=
    congrArg List.length namesOf_reassign
  simpa only [namesOf, List.length_map] using hnames

/-- Only the values of names that are there matter. -/
theorem reassign_congr {other? : String → Option String}
    (h : ∀ name ∈ namesOf env, value? name = other? name) :
    reassign value? env = reassign other? env := by
  induction env generalizing value? other? with
  | nil => rfl
  | cons entry rest ih =>
    obtain ⟨n, t⟩ := entry
    have hrest : ∀ name ∈ namesOf rest, (if name = n then none else value? name) =
        if name = n then none else other? name := by
      intro name hname
      rw [h name (List.mem_cons_of_mem _ hname)]
    rw [reassign, reassign, h n List.mem_cons_self, ih hrest]

/-- Nothing changes where every value is there already. -/
theorem reassign_eq_self (h : ∀ name template value, (name, template) ∈ env →
      value? name = some value →
    template = .literal value) : reassign value? env = env := by
  induction env generalizing value? with
  | nil => rfl
  | cons entry rest ih =>
    obtain ⟨n, t⟩ := entry
    have hfirst : ((value? n).map Template.literal).getD t = t := by
      cases hvalue : value? n with
      | none => rfl
      | some value => exact (h n t value List.mem_cons_self hvalue).symm
    rw [reassign, hfirst, ih]
    intro name template value hmem hvalue
    by_cases hn : name = n
    · simp [hn] at hvalue
    · rw [if_neg hn] at hvalue
      exact h name template value (List.mem_cons_of_mem _ hmem) hvalue

/-- **Two rounds are one**, in which the later values count. -/
theorem reassign_reassign (later? earlier? : String → Option String)
    (env : List (String × Template)) :
    reassign later? (reassign earlier? env) =
      reassign (fun name => (later? name).or (earlier? name)) env := by
  induction env generalizing later? earlier? with
  | nil => rfl
  | cons entry rest ih =>
    obtain ⟨n, t⟩ := entry
    have hvalue :
        ((later? n).map Template.literal).getD (((earlier? n).map Template.literal).getD t) =
        (((later? n).or (earlier? n)).map Template.literal).getD t := by
      cases later? n <;> rfl
    have hrest : (fun name => (if name = n then none else later? name).or
        (if name = n then none else earlier? name)) =
        fun name => if name = n then none else (later? name).or (earlier? name) := by
      funext name
      by_cases hn : name = n
      · simp [hn]
      · simp [hn]
    rw [reassign, reassign, reassign, ih, hvalue, hrest]

/-- Values that the first list uses up do not reach the second. -/
theorem reassign_append (env more : List (String × Template)) : reassign value? (env ++ more) =
    reassign value? env ++
      reassign (fun name => if name ∈ namesOf env then none else value? name) more := by
  induction env generalizing value? with
  | nil => simp [reassign, namesOf]
  | cons entry rest ih =>
    obtain ⟨n, t⟩ := entry
    have hmore :
        (fun name =>
          if name ∈ namesOf rest then none else if name = n then none else value? name) =
        fun name => if name ∈ namesOf ((n, t) :: rest) then none else value? name := by
      funext name
      by_cases hn : name = n
      · simp [hn]
      · simp [hn]
    rw [List.cons_append, reassign, reassign, ih, hmore, List.cons_append]

/-- **Which template is where.** The first entry of a name has the value of the name, if there is
one. -/
theorem getElem?_reassign {i : Nat} {template : Template} (h : env[i]? = some (name, template)) :
    (reassign value? env)[i]? = some (name,
      if name ∈ namesOf (env.take i) then template
      else ((value? name).map .literal).getD template) := by
  induction env generalizing value? i with
  | nil => exact absurd h (by simp)
  | cons entry rest ih =>
    obtain ⟨n, t⟩ := entry
    cases i with
    | zero =>
      rw [List.getElem?_cons_zero, Option.some.injEq] at h
      obtain ⟨rfl, rfl⟩ := Prod.mk.inj h
      simp [reassign, namesOf]
    | succ i =>
      rw [List.getElem?_cons_succ] at h
      rw [reassign, List.getElem?_cons_succ, ih h, List.take_succ_cons, namesOf_cons]
      by_cases hn : name = n
      · simp [hn]
      · simp [hn]

/-- With distinct names every template whose name has a value gets it. -/
theorem mem_reassign (hdistinct : (namesOf env).Nodup) {template : Template} :
    (name, template) ∈ reassign value? env ↔
      ∃ old, (name, old) ∈ env ∧ template = ((value? name).map .literal).getD old := by
  induction env generalizing value? with
  | nil => simp [reassign]
  | cons entry rest ih =>
    obtain ⟨n, t⟩ := entry
    obtain ⟨hnew, hrest⟩ := List.nodup_cons.mp hdistinct
    -- the name of the first entry is not among the others, so no value is used up that they would
    -- get
    have hsame : reassign (fun other => if other = n then none else value? other) rest =
        reassign value? rest := by
      apply reassign_congr
      intro other hother
      rw [if_neg]
      rintro rfl
      exact hnew hother
    rw [reassign, hsame, List.mem_cons, ih hrest]
    constructor
    · rintro (heq | ⟨old, hold, htemplate⟩)
      · obtain ⟨rfl, rfl⟩ := Prod.mk.inj heq
        exact ⟨t, List.mem_cons_self, rfl⟩
      · exact ⟨old, List.mem_cons_of_mem _ hold, htemplate⟩
    · rintro ⟨old, hold, htemplate⟩
      rcases List.mem_cons.mp hold with heq | hold
      · obtain ⟨rfl, rfl⟩ := Prod.mk.inj heq
        exact .inl (by rw [htemplate])
      · exact .inr ⟨old, hold, htemplate⟩

/-! ## One assignment -/

/-- A name that is there gets the value where it stands first. -/
theorem setTemplate_of_mem {value : String} (h : name ∈ namesOf env) :
    setTemplate name (.literal value) env =
      reassign (fun other => if other = name then some value else none) env := by
  induction env with
  | nil => exact absurd h (by simp [namesOf])
  | cons entry rest ih =>
    obtain ⟨n, t⟩ := entry
    rw [setTemplate, reassign]
    by_cases hn : n = name
    · subst hn
      have hrest : reassign (fun other =>
          if other = n then none else if other = n then some value else none) rest = rest := by
        apply reassign_eq_self
        intro other _ _ _ hvalue
        by_cases ho : other = n <;> simp [ho] at hvalue
      rw [hrest, if_pos rfl, if_pos rfl]
      rfl
    · have hmem : name ∈ namesOf rest := by
        rcases List.mem_cons.mp h with heq | hmem
        · exact absurd heq.symm hn
        · exact hmem
      have hrest : reassign (fun other =>
          if other = n then none else if other = name then some value else none) rest =
          reassign (fun other => if other = name then some value else none) rest := by
        apply reassign_congr
        intro other _
        by_cases ho : other = n
        · simp [ho, hn]
        · simp [ho]
      rw [if_neg hn, if_neg hn, hrest, ih hmem]
      rfl

/-- A new name comes last. -/
theorem setTemplate_of_not_mem {template : Template} (h : name ∉ namesOf env) :
    setTemplate name template env = env ++ [(name, template)] := by
  induction env with
  | nil => rfl
  | cons entry rest ih =>
    obtain ⟨n, t⟩ := entry
    obtain ⟨hn, hrest⟩ : ¬ name = n ∧ name ∉ namesOf rest :=
      not_or.mp fun hor => h (List.mem_cons.mpr hor)
    rw [setTemplate, if_neg (Ne.symm hn), ih hrest, List.cons_append]

/-! ## Many assignments -/

theorem assign_append (values more : List (String × String)) (env : List (String × Template)) :
    assign (values ++ more) env = assign more (assign values env) := List.foldl_append

section Step

variable {n v : String} {values : List (String × String)} {added : List (String × Template)}

/-- The first assignment counts for its own name, when no later one does. -/
theorem lastValue?_assignment (name n v : String) (values : List (String × String)) :
    lastValue? name ((n, v) :: values) =
      (lastValue? name values).or (if name = n then some v else none) := by
  rw [lastValue?]
  simp only [eq_comm]

/-- **An assignment to a name that is there** adds nothing to what the others add. -/
theorem Appends.cons_of_mem (hn : n ∈ namesOf env)
    (h : Appends values (setTemplate n (.literal v) env) added) :
    Appends ((n, v) :: values) env added := by
  have hnames : namesOf (setTemplate n (.literal v) env) = namesOf env := by
    rw [setTemplate_of_mem hn, namesOf_reassign]
  refine ⟨h.order.cons n, h.nodup, ?_⟩
  intro name template
  rw [h.mem_iff, hnames, lastValue?_assignment]
  refine and_congr_right fun hname => ?_
  rw [if_neg (by rintro rfl; exact hname hn), Option.or_none]

/-- **An assignment to a new name** adds it before what the others add, with the last value of the
name. -/
theorem Appends.cons_of_not_mem (hn : n ∉ namesOf env)
    (h : Appends values (setTemplate n (.literal v) env) added) :
    Appends ((n, v) :: values) env
      ((n, ((lastValue? n values).map .literal).getD (.literal v)) :: added) := by
  have hnames : ∀ name, name ∈ namesOf (setTemplate n (.literal v) env) ↔
      name ∈ namesOf env ∨ name = n := by
    intro name
    rw [setTemplate_of_not_mem hn, namesOf_append, List.mem_append]
    simp [namesOf]
  refine ⟨h.order.cons_cons n, List.nodup_cons.mpr ⟨?_, h.nodup⟩, ?_⟩
  · -- the name is there for the others, so they do not add it again
    intro hmem
    obtain ⟨template, hmem⟩ := mem_namesOf.mp hmem
    exact ((h.mem_iff n template).mp hmem).1 ((hnames n).mpr (.inr rfl))
  · intro name template
    rw [List.mem_cons, h.mem_iff, hnames, lastValue?_assignment]
    by_cases hname : name = n
    · subst hname
      cases lastValue? name values <;> simp [hn]
    · simp [hname]

end Step

/-- **What many assignments do.** -/
theorem assign_cases (values : List (String × String)) (env : List (String × Template)) :
    ∃ added, assign values env = reassign (fun name => lastValue? name values) env ++ added ∧
      Appends values env added := by
  -- on the assignments; the first one finds its name or appends it, and the others go on from there
  induction values generalizing env with
  | nil =>
    refine ⟨[], ?_, List.Sublist.slnil, List.nodup_nil, by simp [lastValue?]⟩
    have hsame : reassign (fun name => lastValue? name []) env = env := by
      apply reassign_eq_self
      intro name template value _ hvalue
      exact absurd hvalue (by simp [lastValue?])
    rw [hsame, List.append_nil]
    rfl
  | cons entry rest ih =>
    obtain ⟨n, v⟩ := entry
    obtain ⟨added, hassign, hadded⟩ := ih (setTemplate n (.literal v) env)
    have hstep : assign ((n, v) :: rest) env = assign rest (setTemplate n (.literal v) env) := rfl
    by_cases hn : n ∈ namesOf env
    · refine ⟨added, ?_, hadded.cons_of_mem hn⟩
      rw [hstep, hassign, setTemplate_of_mem hn, reassign_reassign]
      simp only [lastValue?_assignment]
    · refine ⟨_, ?_, hadded.cons_of_not_mem hn⟩
      have hsame : reassign (fun name => lastValue? name ((n, v) :: rest)) env =
          reassign (fun name => lastValue? name rest) env := by
        apply reassign_congr
        intro name hname
        rw [lastValue?_assignment, if_neg (by rintro rfl; exact hn hname), Option.or_none]
      have hnew : reassign (fun name => if name ∈ namesOf env then none else lastValue? name rest)
          [(n, .literal v)] = [(n, ((lastValue? n rest).map .literal).getD (.literal v))] := by
        rw [reassign, if_neg hn]
        rfl
      rw [hstep, hassign, setTemplate_of_not_mem hn, reassign_append, hnew, hsame,
        List.append_assoc]
      rfl

variable {values : List (String × String)}

/-- Distinct names stay distinct. -/
theorem nodup_assign (hdistinct : (namesOf env).Nodup) : (namesOf (assign values env)).Nodup := by
  obtain ⟨added, hassign, hadded⟩ := assign_cases values env
  rw [hassign, namesOf_append, namesOf_reassign, List.nodup_append]
  refine ⟨hdistinct, hadded.nodup, ?_⟩
  rintro name hname _ hother rfl
  obtain ⟨template, hmem⟩ := mem_namesOf.mp hother
  exact ((hadded.mem_iff name template).mp hmem).1 hname

/-- **Which templates there are after assignments** to distinct names. -/
theorem mem_assign (hdistinct : (namesOf env).Nodup) {template : Template} :
    (name, template) ∈ assign values env ↔
      (∃ value, lastValue? name values = some value ∧ template = .literal value) ∨
        lastValue? name values = none ∧ (name, template) ∈ env := by
  obtain ⟨added, hassign, hadded⟩ := assign_cases values env
  rw [hassign, List.mem_append, mem_reassign hdistinct, hadded.mem_iff, mem_namesOf]
  cases hvalue : lastValue? name values with
  | none => simp
  | some value =>
    -- the name is among those that were there, or it is not
    by_cases hname : ∃ old, (name, old) ∈ env
    · simp [hname]
    · simp [hname]

/-- **Assigning the same values again changes nothing.** -/
theorem assign_assign (values : List (String × String)) (env : List (String × Template)) :
    assign values (assign values env) = assign values env := by
  obtain ⟨added, hassign, hadded⟩ := assign_cases values env
  obtain ⟨more, hagain, hmore⟩ := assign_cases values (assign values env)
  -- every name that has a value is there by now
  have hnone : more = [] := by
    rw [List.eq_nil_iff_forall_not_mem]
    rintro ⟨name, template⟩ hmem
    obtain ⟨hnew, value, hvalue, -⟩ := (hmore.mem_iff name template).mp hmem
    rw [hassign, namesOf_append, namesOf_reassign, List.mem_append, not_or] at hnew
    exact hnew.2 (mem_namesOf.mpr ⟨_, (hadded.mem_iff name _).mpr ⟨hnew.1, value, hvalue, rfl⟩⟩)
  have hkept : reassign (fun name =>
      if name ∈ namesOf env then none else lastValue? name values) added = added := by
    apply reassign_eq_self
    intro name template value hmem hvalue
    obtain ⟨hnew, other, hother, htemplate⟩ := (hadded.mem_iff name template).mp hmem
    rw [if_neg hnew, hother, Option.some.injEq] at hvalue
    rw [htemplate, hvalue]
  rw [hagain, hnone, List.append_nil, hassign, reassign_append, reassign_reassign,
    namesOf_reassign, hkept]
  simp only [Option.or_self]

/-- Templates that are the same up to a place, and from there on the same literals in some order. -/
structure SameButOrder (n : Nat) (env env' : List (String × Template)) : Prop where
  front : env.take n = env'.take n
  perm : (env.drop n).Perm (env'.drop n)
  nodup : (namesOf (env.drop n)).Nodup
  literal : ∀ entry ∈ env.drop n, ∃ text, entry.2 = .literal text

/-- **Only last values matter**, up to the order of what is new. -/
theorem assign_agree {values others : List (String × String)}
    (h : ∀ name, lastValue? name values = lastValue? name others) (env : List (String × Template)) :
    SameButOrder env.length (assign values env) (assign others env) := by
  obtain ⟨added, hassign, hadded⟩ := assign_cases values env
  obtain ⟨added', hassign', hadded'⟩ := assign_cases others env
  have hdrop : (assign values env).drop env.length = added := by
    rw [hassign]
    exact List.drop_left' length_reassign
  have hdrop' : (assign others env).drop env.length = added' := by
    rw [hassign']
    exact List.drop_left' length_reassign
  constructor
  case front =>
    rw [hassign, hassign', List.take_left' length_reassign, List.take_left' length_reassign]
    simp only [h]
  case perm =>
    rw [hdrop, hdrop',
      List.perm_ext_iff_of_nodup (nodup_of_namesOf hadded.nodup) (nodup_of_namesOf hadded'.nodup)]
    rintro ⟨name, template⟩
    rw [hadded.mem_iff, hadded'.mem_iff, h]
  case nodup =>
    rw [hdrop]
    exact hadded.nodup
  case literal =>
    rw [hdrop]
    rintro ⟨name, template⟩ hmem
    obtain ⟨-, value, -, htemplate⟩ := (hadded.mem_iff name template).mp hmem
    exact ⟨value, htemplate⟩

end AppRelease
