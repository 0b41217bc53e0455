import AppRelease.Error
import AppRelease.Proofs.Laws

/-!
# Conditions, one after the other

Specification: a computation of several steps fails at the first thing that is not as it has to be.
A `Condition` is a requirement with the errors that tell of its failure, and a list of conditions
decides a result (`Decides`) when the result is a success exactly if all of them hold, and otherwise
the error of the first that does not.

Crux: conditions compose as steps do (`Decides.bind`). Those of the second step may depend on what
the first one gives, but their list must not; `Condition.given` is for that: it speaks of the one
thing that an earlier condition has shown to be there.
-/

namespace AppRelease

/-- A requirement, and the errors that tell of its failure. -/
structure Condition where
  holds : Prop
  blames : Error → Prop

/-- An error is that of the first condition that fails. -/
def FirstFailure (cs : List Condition) (error : Error) : Prop :=
  ∃ before c after, cs = before ++ c :: after ∧ (∀ b ∈ before, b.holds) ∧ ¬ c.holds ∧ c.blames error

/-- **A result is decided by conditions**: it is a success exactly when all of them hold, and an
error exactly when it is that of the first one that fails. -/
structure Decides {α : Type} (x : Except Error α) (cs : List Condition) : Prop where
  success : (∃ a, x = .ok a) ↔ ∀ c ∈ cs, c.holds
  failure : ∀ error, x = .error error ↔ FirstFailure cs error

/-- A condition on the one thing that has a property. -/
def Condition.given {α : Type} (p : α → Prop) (c : α → Condition) : Condition where
  holds := ∃ a, p a ∧ (c a).holds
  blames error := ∃ a, p a ∧ (c a).blames error

theorem Condition.given_eq {α : Type} {p : α → Prop} {a : α} (h : ∀ b, p b ↔ b = a)
    (c : α → Condition) : given p c = c a := by
  simp only [given, h, exists_eq_left]

/-! ## The first failure -/

variable {c : Condition} {cs cs' rest : List Condition} {error : Error}

@[simp] theorem firstFailure_nil : ¬ FirstFailure [] error := by
  simp [FirstFailure]

/-- The first condition fails, or it holds and a later one is the first to fail. -/
theorem firstFailure_cons : FirstFailure (c :: rest) error ↔
    (¬ c.holds ∧ c.blames error) ∨ (c.holds ∧ FirstFailure rest error) := by
  constructor
  · rintro ⟨before, failed, after, hsplit, hbefore, hfailed, hblames⟩
    cases before with
    | nil =>
      obtain ⟨rfl, -⟩ := List.cons.inj hsplit
      exact .inl ⟨hfailed, hblames⟩
    | cons first before =>
      obtain ⟨rfl, rfl⟩ := List.cons.inj hsplit
      refine .inr ⟨hbefore c List.mem_cons_self, before, failed, after, rfl, ?_, hfailed, hblames⟩
      intro b hb
      exact hbefore b (List.mem_cons_of_mem _ hb)
  · rintro (⟨hfailed, hblames⟩ | ⟨hc, before, failed, after, rfl, hbefore, hfailed, hblames⟩)
    · exact ⟨[], c, rest, rfl, by simp, hfailed, hblames⟩
    · refine ⟨c :: before, failed, after, rfl, ?_, hfailed, hblames⟩
      intro b hb
      rcases List.mem_cons.mp hb with rfl | hb
      · exact hc
      · exact hbefore b hb

/-- The first failure is among the first conditions, or these hold and it is among the others. -/
theorem firstFailure_append : FirstFailure (cs ++ cs') error ↔
    FirstFailure cs error ∨ (∀ c ∈ cs, c.holds) ∧ FirstFailure cs' error := by
  induction cs with
  | nil => simp
  | cons c rest ih =>
    rw [List.cons_append, firstFailure_cons, firstFailure_cons, ih, List.forall_mem_cons]
    constructor
    · rintro (hfailed | ⟨hc, hrest | ⟨hall, hothers⟩⟩)
      · exact .inl (.inl hfailed)
      · exact .inl (.inr ⟨hc, hrest⟩)
      · exact .inr ⟨⟨hc, hall⟩, hothers⟩
    · rintro ((hfailed | ⟨hc, hrest⟩) | ⟨⟨hc, hall⟩, hothers⟩)
      · exact .inl hfailed
      · exact .inr ⟨hc, .inl hrest⟩
      · exact .inr ⟨hc, .inr ⟨hall, hothers⟩⟩

/-! ## Results and conditions -/

namespace Decides

variable {α β : Type}

theorem ok (a : α) : Decides (.ok a) [] := by
  constructor
  · simp
  · simp

/-- One condition decides a result that succeeds with it and has its error without it. -/
theorem of_cases {p : Prop} {blames : Error → Prop} {x : Except Error α}
    (h : (p ∧ ∃ a, x = .ok a) ∨
      ¬ p ∧ ∃ fault, x = .error fault ∧ ∀ error, blames error ↔ error = fault) :
    Decides x [⟨p, blames⟩] := by
  rcases h with ⟨hp, a, rfl⟩ | ⟨hp, fault, rfl, hblames⟩
  · constructor
    · simp [hp]
    · simp [hp, firstFailure_cons]
  · constructor
    · simp [hp]
    · intro error
      simp only [Except.error.injEq, firstFailure_cons, hp, hblames, not_false_iff,
        true_and, false_and, or_false]
      exact eq_comm

/-- **Conditions of steps in sequence** are those of the first step, then those of the second. -/
theorem bind {x : Except Error α} {f : α → Except Error β} (hx : Decides x cs)
    (hf : ∀ a, x = .ok a → Decides (f a) cs') : Decides (x >>= f) (cs ++ cs') := by
  cases x with
  | error fault =>
    have hnot : ¬ ∀ c ∈ cs, c.holds := fun hall => by
      obtain ⟨a, ha⟩ := hx.success.mpr hall
      exact absurd ha (by simp)
    constructor
    · refine ⟨fun ⟨b, hb⟩ => absurd hb (by simp [Bind.bind, Except.bind]), fun hall => ?_⟩
      exact absurd (fun c hc => hall c (List.mem_append_left _ hc)) hnot
    · intro error
      show (Except.error fault : Except Error β) = .error error ↔ _
      rw [firstFailure_append, ← hx.failure error, Except.error.injEq, Except.error.injEq]
      refine ⟨fun h => .inl h, ?_⟩
      rintro (h | ⟨hall, -⟩)
      · exact h
      · exact absurd hall hnot
  | ok a =>
    have hall : ∀ c ∈ cs, c.holds := hx.success.mp ⟨a, rfl⟩
    have hsecond := hf a rfl
    constructor
    · show (∃ b, f a = .ok b) ↔ _
      rw [hsecond.success, List.forall_mem_append]
      exact ⟨fun h => ⟨hall, h⟩, fun h => h.2⟩
    · intro error
      show f a = .error error ↔ _
      rw [hsecond.failure error, firstFailure_append, ← hx.failure error]
      refine ⟨fun h => .inr ⟨hall, h⟩, ?_⟩
      rintro (h | ⟨-, h⟩)
      · exact absurd h (by simp)
      · exact h

/-- A step that cannot fail has no conditions. -/
theorem map {x : Except Error α} (hx : Decides x cs) (f : α → β) :
    Decides (x >>= fun a => .ok (f a)) cs := by
  have hlast := hx.bind fun a _ => ok (f a)
  rwa [List.append_nil] at hlast

/-- A check before everything else. -/
theorem guard {p q : Prop} [Decidable q] {blames : Error → Prop} {x : Except Error α}
    {fault : Error} (hiff : q ↔ p) (hblames : ¬ p → ∀ error, blames error ↔ error = fault)
    (hx : p → Decides x cs) :
    Decides (if q then x else .error fault) (⟨p, blames⟩ :: cs) := by
  have hcheck : Decides (if q then .ok () else .error fault) [⟨p, blames⟩] := by
    apply of_cases
    by_cases hq : q
    · exact .inl ⟨hiff.mp hq, (), if_pos hq⟩
    · have hp : ¬ p := fun hp => hq (hiff.mpr hp)
      exact .inr ⟨hp, fault, if_neg hq, hblames hp⟩
  have hstep : (if q then x else .error fault) = (if q then .ok () else .error fault) >>=
      fun _ => x := by
    split <;> rfl
  rw [hstep]
  exact hcheck.bind fun _ hpassed => hx (hcheck.success.mp ⟨_, hpassed⟩ _ List.mem_cons_self)

end Decides

end AppRelease
