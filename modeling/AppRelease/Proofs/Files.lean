import AppRelease.FileTree
import AppRelease.Proofs.Laws

/-!
# What a path leads to

Specification: `FileTree.nodeAt?` is what stands at the end of a path, a file with its content or a
directory. A file that is written changes the entry at its own path, and not at a path that differs
from it in the last two names (`nodeAt?_write_of_ne`).

1. **Paths.** `Path.steps_join`: the steps of a path below another are the steps of the one, then
   those of the other, wherever strokes are repeated or left out.
2. **Following steps.** `follow_append`: what a sequence of steps leads to is found from where its
   first part leads to, which has to be a directory.
3. **The crux (`follow_set`).** A file is never written where a directory stands, so every directory
   that could be reached before is reached in the same way after.
-/

namespace AppRelease

/-! ## Paths -/

namespace Text

theorem pieces_ne_nil (c : Char) (l : List Char) : pieces c l ≠ [] := by
  cases l with
  | nil => simp [pieces]
  | cons a rest =>
    rw [pieces]
    split
    · simp
    · cases pieces c rest <;> simp

/-- A separator divides the pieces before it from those after it. -/
theorem pieces_append (c : Char) (l rest : List Char) :
    pieces c (l ++ c :: rest) = pieces c l ++ pieces c rest := by
  induction l with
  | nil => simp [pieces]
  | cons a l ih =>
    rw [List.cons_append, pieces, pieces, ih]
    by_cases ha : a = c
    · simp [ha]
    · cases hpieces : pieces c l with
      | nil => exact absurd hpieces (pieces_ne_nil c l)
      | cons first others => simp [ha]

/-- Without a separator there is one piece. -/
theorem pieces_of_not_mem {c : Char} {l : List Char} (h : c ∉ l) : pieces c l = [l] := by
  induction l with
  | nil => rfl
  | cons a l ih =>
    obtain ⟨hne, hrest⟩ := not_or.mp (fun hor => h (List.mem_cons.mpr hor))
    rw [pieces, if_neg (Ne.symm hne), ih hrest]

end Text

namespace Path

/-- The steps of pieces, without those that go nowhere. -/
theorem steps_of_append {path base below : String}
    (h : path.toList = base.toList ++ '/' :: below.toList) :
    steps path = steps base ++ steps below := by
  rw [steps, steps, steps, h, Text.pieces_append, List.filterMap_append]

@[simp] theorem steps_empty : steps "" = [] := rfl

/-- A stroke at the end goes nowhere. -/
theorem steps_of_append_stroke {path base : String} (h : path.toList = base.toList ++ ['/']) :
    steps path = steps base := by
  have hempty : path.toList = base.toList ++ '/' :: "".toList := by rw [h]; rfl
  rw [steps_of_append hempty, steps_empty, List.append_nil]

/-- Below the empty path there is the path itself. -/
theorem join_empty (below : String) : join "" below = below := by
  rw [join]
  split
  · rfl
  · simp

/-- Below a path there is one stroke after it, its own if it ends in one. -/
theorem toList_join {base below : String} (hbase : base ≠ "") (h : isAbsolute below = false) :
    ∃ front, (base.toList = front ∨ base.toList = front ++ ['/']) ∧
      (join base below).toList = front ++ '/' :: below.toList := by
  rw [join, h, if_neg Bool.false_ne_true]
  cases hlast : base.toList.getLast? with
  | none => exact absurd (String.toList_inj.mp (List.getLast?_eq_none_iff.mp hlast)) hbase
  | some last =>
    by_cases hstroke : last = '/'
    · obtain ⟨front, hfront⟩ := List.getLast?_eq_some_iff.mp hlast
      rw [hstroke] at hfront
      refine ⟨front, .inr hfront, ?_⟩
      simp [hstroke, hfront]
    · exact ⟨base.toList, .inl rfl, by simp [hstroke]⟩

/-- **A path below another takes the steps of the one, then those of the other.** -/
theorem steps_join {base below : String} (h : isAbsolute below = false) :
    steps (join base below) = steps base ++ steps below := by
  by_cases hbase : base = ""
  · rw [hbase, join_empty, steps_empty, List.nil_append]
  · obtain ⟨front, hfront, hjoined⟩ := toList_join hbase h
    rw [← String.toList_ofList (l := front)] at hfront hjoined
    rw [steps_of_append hjoined]
    rcases hfront with hfront | hfront
    · rw [String.toList_inj.mp hfront]
    · rw [steps_of_append_stroke hfront]

/-- A name that goes somewhere is one step. -/
theorem steps_name {name : String} (hstroke : '/' ∉ name.toList) (hempty : name.toList ≠ [])
    (hdot : name.toList ≠ ['.']) (hdots : name.toList ≠ ['.', '.']) :
    steps name = [.into name] := by
  rw [steps, Text.pieces_of_not_mem hstroke]
  simp [hempty, hdot, hdots]

theorem isAbsolute_eq_false {name : String} (h : '/' ∉ name.toList) : isAbsolute name = false := by
  rw [isAbsolute, beq_eq_false_iff_ne]
  intro hhead
  exact h (List.mem_of_mem_head? hhead)

/-- A path below another starts at the root exactly when the other does. -/
theorem isAbsolute_join {base below : String} (h : isAbsolute below = false) :
    isAbsolute (join base below) = isAbsolute base := by
  by_cases hbase : base = ""
  · rw [hbase, join_empty, h]
    rfl
  · obtain ⟨front, hfront, hjoined⟩ := toList_join hbase h
    rw [isAbsolute, isAbsolute, hjoined]
    cases front with
    | cons c rest => rcases hfront with hfront | hfront <;> simp [hfront]
    | nil =>
      rcases hfront with hfront | hfront
      · exact absurd (String.toList_inj.mp hfront) hbase
      · simp [hfront]

end Path

namespace FileTree

variable {t : FileTree} {path other : String}

/-! ## Entries -/

/-- What stands at the end of a path. -/
def nodeAt? (t : FileTree) (path : String) : Option Node := (t.find path).toOption

theorem isFile_iff : t.isFile path = true ↔ ∃ content, t.nodeAt? path = some (.file content) := by
  rw [isFile, nodeAt?]
  cases t.find path with
  | error fault => simp [Except.toOption]
  | ok node => cases node <;> simp [Except.toOption]

/-- The text of a path is the text of the file that stands there. -/
theorem readText_eq_ok_iff {text : String} :
    t.readText path = .ok text ↔ t.nodeAt? path = some (.file (Text.bytesOf text)) := by
  rw [readText, nodeAt?]
  cases t.find path with
  | error fault => simp [Except.toOption]
  | ok node =>
    cases node with
    | directory => simp [Except.toOption]
    | file content =>
      simp only [Except.toOption, Option.some.injEq, Node.file.injEq, ← Text.textOf?_eq_some_iff]
      cases Text.textOf? content <;> simp

/-- A file that is not UTF-8 has no text. -/
theorem readText_of_not_text {content : List UInt8} (hentry : t.nodeAt? path = some (.file content))
    (hnot : Text.textOf? content = none) : t.readText path = .error .notText := by
  rw [nodeAt?, toOption_eq_some_iff] at hentry
  simp [readText, hentry, hnot]

/-- A file has the same text wherever it stands. -/
theorem readText_congr {t' : FileTree} {content : List UInt8}
    (h : t.nodeAt? path = some (.file content)) (h' : t'.nodeAt? path = some (.file content)) :
    t.readText path = t'.readText path := by
  rw [nodeAt?, toOption_eq_some_iff] at h h'
  rw [readText, readText, h, h']

/-! ## Following steps -/

/-- **What steps lead to is found from where the first of them lead to.** -/
theorem follow_append (t : FileTree) (here : Location) (first : List Path.Step) (step : Path.Step)
    (rest : List Path.Step) : t.follow here (first ++ step :: rest) =
      match t.follow here first with
      | .ok (there, .directory) => t.follow there (step :: rest)
      | .ok (_, .file _) => .error .notDirectory
      | .error fault => .error fault := by
  induction first generalizing here with
  | nil => rfl
  | cons next first ih =>
    cases next with
    | up =>
      rw [List.cons_append, follow, follow]
      exact ih _
    | into name =>
      rw [List.cons_append, follow, follow]
      by_cases hfits : nameFits name = true
      · simp only [hfits, Bool.not_true, Bool.false_eq_true, if_false]
        cases t.node? (here ++ [name]) with
        | none => rfl
        | some node =>
          cases node with
          | directory => exact ih _
          | file content => cases first <;> simp
      · simp [hfits]

/-- **A file that is put where no directory stands leaves every directory where it was.** -/
theorem follow_set {location here there : Location} {content : List UInt8} {steps : List Path.Step}
    (hbelow : location ≠ []) (hnode : t.node? location ≠ some .directory)
    (hfollow : t.follow here steps = .ok (there, .directory)) :
    (t.set location (.file content)).follow here steps = .ok (there, .directory) := by
  induction steps generalizing here with
  | nil => exact hfollow
  | cons next steps ih =>
    cases next with
    | up =>
      rw [follow] at hfollow ⊢
      exact ih hfollow
    | into name =>
      rw [follow] at hfollow ⊢
      by_cases hfits : nameFits name = true
      · simp only [hfits, Bool.not_true, Bool.false_eq_true, if_false] at hfollow ⊢
        cases hstands : t.node? (here ++ [name]) with
        | none => simp [hstands] at hfollow
        | some node =>
          cases node with
          | file other =>
            simp only [hstands] at hfollow
            split at hfollow <;> simp at hfollow
          | directory =>
            -- the way leads through a directory, so not through the file
            have hne : here ++ [name] ≠ location := fun heq => hnode (heq ▸ hstands)
            simp only [hstands] at hfollow
            rw [node?_set _ _ _ _ hbelow, if_neg hne, hstands]
            exact ih hfollow
      · exact absurd hfollow (by simp [hfits])

/-- One step down from a directory to another. -/
theorem eq_of_follow_into {here there : Location} {name : String}
    (h : t.follow there [.into name] = .ok (here, .directory)) : here = there ++ [name] := by
  rw [follow] at h
  split at h
  · exact absurd h (by simp)
  split at h
  · exact absurd h (by simp)
  · exact (Prod.mk.inj (Except.ok.inj h)).1.symm
  · split at h <;> simp at h

/-- A step down finds the same in two trees that have the same there and below. -/
theorem follow_into_congr {t' : FileTree} {here : Location} {name : String} {rest : List Path.Step}
    (hnode : t'.node? (here ++ [name]) = t.node? (here ++ [name]))
    (hrest : t'.follow (here ++ [name]) rest = t.follow (here ++ [name]) rest) :
    t'.follow here (.into name :: rest) = t.follow here (.into name :: rest) := by
  simp only [follow, hnode, hrest]

/-! ## Writing -/

theorem stepsOf_eq_ok {steps : List Path.Step} (h : stepsOf path = .ok steps) :
    steps = Path.steps path := by
  rw [stepsOf] at h
  split at h
  · exact absurd h (by simp)
  split at h
  · exact absurd h (by simp)
  split at h
  · exact absurd h (by simp)
  · exact (Except.ok.inj h).symm

theorem directoryAt_eq_ok_iff {steps : List Path.Step} {base here : Location} :
    t.directoryAt base steps = .ok here ↔ t.follow base steps = .ok (here, .directory) := by
  rw [directoryAt, bind_eq_ok_iff]
  constructor
  · rintro ⟨⟨there, node⟩, hfollow, hhere⟩
    cases node with
    | directory => rw [hfollow, pure_eq_ok_iff.mp hhere]
    | file content => exact absurd hhere (by simp [throw, throwThe, MonadExceptOf.throw])
  · intro hfollow
    exact ⟨_, hfollow, rfl⟩

/-- Where a file is written: a name below a directory, where no directory stands. -/
theorem place_eq_ok {location : Location} (h : t.place path = .ok location) :
    ∃ before here name, Path.steps path = before ++ [.into name] ∧
      t.follow (t.start path) before = .ok (here, .directory) ∧
        t.node? (here ++ [name]) ≠ some .directory ∧
      location = here ++ [name] := by
  obtain ⟨steps, hsteps, h⟩ := bind_eq_ok_iff.mp h
  rw [stepsOf_eq_ok hsteps] at h
  cases hlast : (Path.steps path).getLast? with
  | none => simp [hlast, throw, throwThe, MonadExceptOf.throw] at h
  | some last =>
    simp only [hlast] at h
    obtain ⟨here, hhere, h⟩ := bind_eq_ok_iff.mp h
    cases last with
    | up => simp [throw, throwThe, MonadExceptOf.throw] at h
    | into name =>
      obtain ⟨before, hbefore⟩ := List.getLast?_eq_some_iff.mp hlast
      rw [hbefore, List.dropLast_concat] at hhere
      refine ⟨before, here, name, hbefore, directoryAt_eq_ok_iff.mp hhere, ?_⟩
      simp only at h
      split at h
      · simp [throw, throwThe, MonadExceptOf.throw] at h
      split at h
      · simp [throw, throwThe, MonadExceptOf.throw] at h
      split at h
      · simp [throw, throwThe, MonadExceptOf.throw] at h
      · rename_i hnode
        exact ⟨hnode, (pure_eq_ok_iff.mp h).symm⟩

/-- A path leads to the same in two trees when its steps do. -/
theorem nodeAt?_congr {t t' : FileTree}
    (h : t.follow (t.start path) (Path.steps path) = t'.follow (t'.start path) (Path.steps path)) :
    t.nodeAt? path = t'.nodeAt? path := by
  rw [nodeAt?, nodeAt?, find, find]
  cases hsteps : stepsOf path with
  | error fault => rfl
  | ok steps =>
    rw [← stepsOf_eq_ok hsteps] at h
    show (t.follow (t.start path) steps >>= _).toOption =
        (t'.follow (t'.start path) steps >>= _).toOption
    rw [h]

/-- **A file is written at its own path only.** Two paths that lead through one directory and differ
in the two names after it do not share an entry. -/
theorem nodeAt?_write_of_ne {before : List Path.Step} {a b f g : String}
    (hstart : Path.isAbsolute path = Path.isAbsolute other)
    (hpath : Path.steps path = before ++ [.into a, .into f])
    (hother : Path.steps other = before ++ [.into b, .into g]) (hne : ¬ (a = b ∧ f = g))
    (content : List UInt8) : (t.write path content).2.nodeAt? other = t.nodeAt? other := by
  rw [write]
  cases hplace : t.place path with
  | error fault => rfl
  | ok location =>
    obtain ⟨front, here, name, hsteps, hfront, hnode, rfl⟩ := place_eq_ok hplace
    rw [hpath, List.append_cons, List.append_singleton_inj] at hsteps
    obtain ⟨rfl, hname⟩ := hsteps
    cases hname
    rw [follow_append] at hfront
    have hsame : t.start path = t.start other := by rw [start, start, hstart]
    rw [hsame] at hfront
    cases hbefore : t.follow (t.start other) before with
    | error fault => simp [hbefore] at hfront
    | ok found =>
      obtain ⟨there, node⟩ := found
      cases node with
      | file content => simp [hbefore] at hfront
      | directory =>
        simp only [hbefore] at hfront
        obtain rfl := eq_of_follow_into hfront
        apply nodeAt?_congr
        have hkept : ∀ location node, (t.set location node).start other = t.start other :=
          fun _ _ => rfl
        rw [hkept, hother, follow_append, follow_append,
          follow_set (by simp) hnode hbefore, hbefore]
        have hfirst : there ++ [b] ≠ there ++ [a] ++ [f] := by simp
        have hsecond : there ++ [b] ++ [g] ≠ there ++ [a] ++ [f] := by
          intro heq
          simp only [List.append_assoc, List.append_cancel_left_eq, List.cons_append,
            List.nil_append, List.cons.injEq, and_true] at heq
          exact hne ⟨heq.1.symm, heq.2.symm⟩
        refine follow_into_congr ?_ (follow_into_congr ?_ rfl)
        · rw [node?_set _ _ _ _ (by simp), if_neg hfirst]
        · rw [node?_set _ _ _ _ (by simp), if_neg hsecond]

end FileTree

end AppRelease
