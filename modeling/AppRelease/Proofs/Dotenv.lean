import AppRelease.Proofs.Configuration
import AppRelease.Secrets.Bundle

/-!
# Secrets that are written as lines

Program: `readDotenv` cuts a text into lines and reads them one after the other, up to the first
that cannot be read.

Specification: `Dotenv.accepts_exactly_its_grammar`. A text is accepted exactly when every line with
an entry assigns something to a key, the last assignment of a key counts, and an error has the
number of the first line that offends.

1. **Texts.** `Text.IsLines`, `Text.Trims` and `Text.Unquotes` say what the lines of a text are,
   what is left without the blanks around it and what is left without quotes. None of them says how
   it is found, and each leaves no choice (`isLines_iff`, `trims_iff`, `unquotes_iff`).
2. **Lines.** With these a line `Assigns` a value to a key, or it `Offends`, or it has no entry.
   `readLine_cases` says that reading a line tells the three apart.
3. **The crux.** The number of a line counts all lines before it, also those without an entry, while
   a key only sees the lines that assign to it. So both are stated as a split of the lines around
   one line (`readLines_cases`, `lastEntry_assignments`).
-/

namespace AppRelease

/-! ## Texts -/

namespace Text

/-- A line without the carriage return at its end. -/
def withoutReturn (line : List Char) : List Char :=
  if line.getLast? = some '\r' then line.dropLast else line

/-- The lines of a text. A line feed ends a line, and a carriage return before it belongs to the
end. What follows the last line feed is a line too, if there is anything. -/
inductive IsLines : List Char → List (List Char) → Prop where
  | nothing : IsLines [] []
  | last {line : List Char} : line ≠ [] → '\n' ∉ line → IsLines line [line]
  | ended {line rest : List Char} {lines : List (List Char)} :
      '\n' ∉ line → IsLines rest lines →
        IsLines (line ++ '\n' :: rest) (withoutReturn line :: lines)

/-- What is left of a text without the blanks around it. -/
structure Trims (text core : List Char) : Prop where
  split : ∃ before after, text = before ++ core ++ after ∧
    (∀ c ∈ before, isBlank c = true) ∧ ∀ c ∈ after, isBlank c = true
  first : ∀ c, core.head? = some c → isBlank c = false
  last : ∀ c, core.getLast? = some c → isBlank c = false

/-- A text with the same quote at both ends, and what is between them. -/
def IsQuoted (text inner : List Char) : Prop :=
  ∃ quote, (quote = '"' ∨ quote = '\'') ∧ text = quote :: (inner ++ [quote])

/-- What is left of a text without one pair of quotes around it. -/
def Unquotes (text inner : List Char) : Prop :=
  IsQuoted text inner ∨ (¬ ∃ inner', IsQuoted text inner') ∧ inner = text

section Lines

variable {line rest : List Char}

theorem lines_cons_of_ne {c : Char} (hfeed : c ≠ '\n')
    (hreturn : ¬ (c = '\r' ∧ rest.head? = some '\n')) :
    lines (c :: rest) = match lines rest with
      | [] => [[c]]
      | first :: others => (c :: first) :: others := by
  have hends : ∀ others, c = '\r' → rest = '\n' :: others → False := by
    rintro others rfl rfl
    exact hreturn ⟨rfl, rfl⟩
  exact lines.eq_4 c rest hfeed hends

theorem lines_of_not_mem (hne : line ≠ []) (hfeed : '\n' ∉ line) : lines line = [line] := by
  induction line with
  | nil => exact absurd rfl hne
  | cons c rest ih =>
    rw [List.mem_cons, not_or] at hfeed
    have hhead : rest.head? ≠ some '\n' := fun heq => hfeed.2 (List.mem_of_head? heq)
    rw [lines_cons_of_ne (Ne.symm hfeed.1) fun h => hhead h.2]
    by_cases hrest : rest = []
    · subst hrest
      rfl
    · rw [ih hrest hfeed.2]

theorem withoutReturn_cons {c : Char} (h : ¬ (c = '\r' ∧ line = [])) :
    withoutReturn (c :: line) = c :: withoutReturn line := by
  cases line with
  | nil =>
    have hc : c ≠ '\r' := fun heq => h ⟨heq, rfl⟩
    simp [withoutReturn, hc]
  | cons d line =>
    rw [withoutReturn, withoutReturn, List.getLast?_cons_cons]
    split
    · rfl
    · rfl

theorem lines_append_feed (hfeed : '\n' ∉ line) :
    lines (line ++ '\n' :: rest) = withoutReturn line :: lines rest := by
  induction line with
  | nil => rfl
  | cons c line ih =>
    rw [List.mem_cons, not_or] at hfeed
    by_cases hreturn : c = '\r' ∧ line = []
    · obtain ⟨rfl, rfl⟩ := hreturn
      rfl
    · have hhead : ¬ (c = '\r' ∧ (line ++ '\n' :: rest).head? = some '\n') := by
        rintro ⟨rfl, heq⟩
        cases line with
        | nil => exact hreturn ⟨rfl, rfl⟩
        | cons d line => exact hfeed.2 (List.mem_of_head? heq)
      rw [List.cons_append, lines_cons_of_ne (Ne.symm hfeed.1) hhead, ih hfeed.2,
        withoutReturn_cons hreturn]

/-- **A text has one list of lines**, and it is the one that is computed. -/
theorem isLines_iff {text : List Char} {found : List (List Char)} : IsLines text found ↔
    lines text = found := by
  constructor
  · intro h
    induction h with
    | nothing => rfl
    | last hne hfeed => exact lines_of_not_mem hne hfeed
    | ended hfeed _ ih => rw [lines_append_feed hfeed, ih]
  · rintro rfl
    -- on the length of the text, as what follows the first line feed is shorter
    induction hlength : text.length using Nat.strongRecOn generalizing text with
    | ind n ih =>
      cases hcut : cutAt '\n' text with
      | none =>
        have hfeed := cutAt_eq_none_iff.mp hcut
        by_cases hne : text = []
        · subst hne
          exact .nothing
        · rw [lines_of_not_mem hne hfeed]
          exact .last hne hfeed
      | some parts =>
        obtain ⟨line, rest⟩ := parts
        obtain ⟨rfl, hfeed⟩ := cutAt_eq_some_iff.mp hcut
        rw [lines_append_feed hfeed]
        refine .ended hfeed (ih rest.length ?_ rfl)
        rw [← hlength, List.length_append, List.length_cons]
        omega

example : lines "a\r\n\nb\r".toList = ["a".toList, [], "b\r".toList] := by decide

end Lines

section Trimming

variable {text core : List Char}

theorem dropEndWhile_append_of_all {p : Char → Bool} {front back : List Char}
    (h : ∀ c ∈ back, p c = true) :
    dropEndWhile p (front ++ back) = dropEndWhile p front := by
  induction back generalizing front with
  | nil => rw [List.append_nil]
  | cons c back ih =>
    have hsplit : front ++ c :: back = (front ++ [c]) ++ back := by simp
    rw [hsplit, ih fun d hd => h d (List.mem_cons_of_mem _ hd),
      dropEndWhile_append_of_pos _ (h c List.mem_cons_self)]

/-- **What is left without blanks is what trimming gives.** -/
theorem trims_iff : Trims text core ↔ trimChars text = core := by
  constructor
  · rintro ⟨⟨before, after, rfl, hbefore, hafter⟩, hfirst, hlast⟩
    have hstart : (before ++ core ++ after).dropWhile isBlank =
        (core ++ after).dropWhile isBlank := by
      rw [List.append_assoc, List.dropWhile_append_of_pos hbefore]
    cases core with
    | nil =>
      have hnothing : after.dropWhile isBlank = [] := by
        rw [← List.append_nil after, List.dropWhile_append_of_pos hafter]
        rfl
      rw [trimChars, hstart, List.nil_append, hnothing]
      rfl
    | cons c core =>
      have hc : ¬ isBlank c = true := by simp [hfirst c rfl]
      rw [trimChars, hstart, List.cons_append, List.dropWhile_cons_of_neg hc, ← List.cons_append,
        dropEndWhile_append_of_all hafter, dropEndWhile_eq_self hlast]
  · rintro rfl
    obtain ⟨dropped, hdropped, hblank⟩ :=
      exists_append_dropEndWhile isBlank (text.dropWhile isBlank)
    refine ⟨⟨text.takeWhile isBlank, dropped, ?_, ?_, hblank⟩, ?_,
      fun c => of_mem_getLast?_dropEndWhile⟩
    · rw [trimChars, List.append_assoc, ← hdropped, List.takeWhile_append_dropWhile]
    · intro c hc
      exact List.all_eq_true.mp List.all_takeWhile c hc
    · intro c hc
      -- the first that is kept is the first that is not blank
      have hhead : (text.dropWhile isBlank).head? = some c := by
        rw [hdropped, List.head?_append]
        exact Option.or_eq_some_iff.mpr (.inl hc)
      simpa only [hhead] using List.head?_dropWhile_not isBlank text

theorem trims_self (hfirst : ∀ c, text.head? = some c → isBlank c = false)
    (hlast : ∀ c, text.getLast? = some c → isBlank c = false) : Trims text text :=
  ⟨⟨[], [], by simp, by simp, by simp⟩, hfirst, hlast⟩

/-- A text is blank when nothing is left of it. -/
theorem trims_nil_iff : Trims text [] ↔ ∀ c ∈ text, isBlank c = true := by
  constructor
  · rintro ⟨⟨before, after, rfl, hbefore, hafter⟩, -, -⟩ c hc
    rw [List.append_nil] at hc
    rcases List.mem_append.mp hc with hc | hc
    · exact hbefore c hc
    · exact hafter c hc
  · intro h
    exact ⟨⟨text, [], by simp, h, by simp⟩, by simp, by simp⟩

end Trimming

theorem unquoteWith_eq_some_iff {quote : Char} {text inner : List Char} :
    Secrets.unquoteWith quote text = some inner ↔ text = quote :: (inner ++ [quote]) := by
  cases text with
  | nil => simp [Secrets.unquoteWith]
  | cons first rest =>
    rw [Secrets.unquoteWith, List.cons.injEq]
    constructor
    · intro h
      split at h
      next hends =>
        obtain ⟨middle, rfl⟩ := List.getLast?_eq_some_iff.mp hends.2
        rw [List.dropLast_concat, Option.some.injEq] at h
        exact ⟨hends.1, by rw [h]⟩
      next => exact absurd h (by simp)
    · rintro ⟨rfl, rfl⟩
      simp

/-- **What is left without quotes is one text**, and it is the one that is computed. -/
theorem unquotes_iff {text inner : List Char} : Unquotes text inner ↔
    Secrets.unquote text = inner := by
  have hquoted : ∀ {inner'}, IsQuoted text inner' ↔
      Secrets.unquoteWith '"' text = some inner' ∨ Secrets.unquoteWith '\'' text = some inner' := by
    intro inner'
    rw [unquoteWith_eq_some_iff, unquoteWith_eq_some_iff]
    constructor
    · rintro ⟨quote, rfl | rfl, rfl⟩
      · exact .inl rfl
      · exact .inr rfl
    · rintro (rfl | rfl)
      · exact ⟨_, .inl rfl, rfl⟩
      · exact ⟨_, .inr rfl, rfl⟩
  rw [Unquotes, hquoted, Secrets.unquote]
  simp only [hquoted]
  cases hdouble : Secrets.unquoteWith '"' text with
  | some inner' =>
    -- a text does not start with both quotes
    have hsingle : Secrets.unquoteWith '\'' text = none := by
      rw [unquoteWith_eq_some_iff.mp hdouble]
      simp [Secrets.unquoteWith]
    simp [hsingle]
  | none =>
    cases hsingle : Secrets.unquoteWith '\'' text with
    | some inner' => simp
    | none => simp [eq_comm]

end Text

/-! ## Lines -/

namespace Secrets

namespace Dotenv

/-- What a text says after one `export ` at its start. -/
def WithoutExport (text entry : List Char) : Prop :=
  text = "export ".toList ++ entry ∨ (¬ "export ".toList <+: text) ∧ entry = text

/-- A line that is neither blank nor a comment, and what it says. -/
structure HasEntry (line trimmed entry : List Char) : Prop where
  trims : Text.Trims line trimmed
  nonempty : trimmed ≠ []
  noComment : trimmed.head? ≠ some '#'
  exported : WithoutExport trimmed entry

/-- If the line has an entry, there is an equals sign in it with something before the first one. -/
def Acceptable (line : List Char) : Prop :=
  ∀ trimmed entry, HasEntry line trimmed entry →
    ∃ before after, entry = before ++ '=' :: after ∧ '=' ∉ before ∧
    ∃ c ∈ before, Text.isBlank c = false

/-- The line gives a value to a key: what stands before and after the first equals sign, without the
blanks around it, and the value without quotes. -/
def Assigns (line : List Char) (key value : String) : Prop :=
  ∃ trimmed entry before after quoted, HasEntry line trimmed entry ∧
    entry = before ++ '=' :: after ∧ '=' ∉ before ∧
    Text.Trims before key.toList ∧ key ≠ "" ∧ Text.Trims after quoted ∧
      Text.Unquotes quoted value.toList

/-- Why a line cannot be read. -/
inductive Offends (line : List Char) : Fault → Prop where
  | noAssignment {trimmed entry : List Char} : HasEntry line trimmed entry → '=' ∉ entry →
      Offends line (.noAssignment (String.ofList trimmed))
  | emptyKey {trimmed before after : List Char} : HasEntry line trimmed (before ++ '=' :: after) →
      '=' ∉ before →
      (∀ c ∈ before, Text.isBlank c = true) → Offends line .emptyKey

variable {line trimmed entry : List Char} {key value : String} {fault : Fault}

theorem withoutExport_iff : WithoutExport trimmed entry ↔ withoutExport trimmed = entry := by
  rw [WithoutExport, withoutExport]
  generalize "export ".toList = lead
  rw [← Text.after?_eq_some_iff]
  cases hafter : Text.after? lead trimmed with
  | some rest =>
    have hlead : lead <+: trimmed := ⟨rest, (Text.after?_eq_some_iff.mp hafter).symm⟩
    simp [hlead]
  | none =>
    have hlead : ¬ lead <+: trimmed := by
      rintro ⟨rest, hrest⟩
      rw [Text.after?_eq_some_iff.mpr hrest.symm] at hafter
      exact absurd hafter (by simp)
    simp [hlead, eq_comm]

/-- A line has one entry at most. -/
theorem hasEntry_iff : HasEntry line trimmed entry ↔
    trimmed = Text.trimChars line ∧ ¬ (trimmed = [] ∨ trimmed.head? = some '#') ∧
      entry = withoutExport trimmed := by
  constructor
  · rintro ⟨htrims, hne, hcomment, hexport⟩
    exact ⟨(Text.trims_iff.mp htrims).symm, by simp [hne, hcomment],
      (withoutExport_iff.mp hexport).symm⟩
  · rintro ⟨htrims, hcounts, hexport⟩
    rw [not_or] at hcounts
    exact ⟨Text.trims_iff.mpr htrims.symm, hcounts.1, hcounts.2, withoutExport_iff.mpr hexport.symm⟩

theorem HasEntry.readLine_of_no_cut (h : HasEntry line trimmed entry)
    (hcut : Text.cutAt '=' entry = none) :
    readLine line = .error (.noAssignment (String.ofList trimmed)) := by
  obtain ⟨rfl, hcounts, rfl⟩ := hasEntry_iff.mp h
  simp only [readLine, if_neg hcounts, hcut]

theorem HasEntry.readLine_of_cut (h : HasEntry line trimmed entry) {before after : List Char}
    (hcut : Text.cutAt '=' entry = some (before, after)) : readLine line =
      if Text.trimChars before = [] then .error .emptyKey
      else .ok (.assignment (String.ofList (Text.trimChars before))
        (String.ofList (unquote (Text.trimChars after)))) := by
  obtain ⟨rfl, hcounts, rfl⟩ := hasEntry_iff.mp h
  simp only [readLine, if_neg hcounts, hcut]

theorem Assigns.readLine_eq (h : Assigns line key value) :
    readLine line = .ok (.assignment key value) := by
  obtain ⟨trimmed, entry, before, after, quoted, hentry, hcut, hfirst, hkey, hne, hvalue,
      hquotes⟩ := h
  have hkeyList : key.toList ≠ [] := fun hnil => hne (String.toList_inj.mp hnil)
  rw [hentry.readLine_of_cut (Text.cutAt_eq_some_iff.mpr ⟨hcut, hfirst⟩),
    Text.trims_iff.mp hkey, Text.trims_iff.mp hvalue, Text.unquotes_iff.mp hquotes, if_neg hkeyList,
    String.ofList_toList, String.ofList_toList]

theorem Offends.readLine_eq (h : Offends line fault) : readLine line = .error fault := by
  cases h with
  | noAssignment hentry hnone => exact hentry.readLine_of_no_cut (Text.cutAt_eq_none_iff.mpr hnone)
  | emptyKey hentry hfirst hblank =>
    have hkey := Text.trims_iff.mp (Text.trims_nil_iff.mpr hblank)
    rw [hentry.readLine_of_cut (Text.cutAt_eq_some_iff.mpr ⟨rfl, hfirst⟩), if_pos hkey]

/-- **What comes of reading a line.** It has no entry, or it assigns, or it offends. -/
theorem readLine_cases (line : List Char) :
    (readLine line = .ok .skipped ∧ ∀ trimmed entry, ¬ HasEntry line trimmed entry) ∨
    (∃ key value, readLine line = .ok (.assignment key value) ∧ Assigns line key value) ∨
    ∃ fault, readLine line = .error fault ∧ Offends line fault := by
  by_cases hcounts : Text.trimChars line = [] ∨ (Text.trimChars line).head? = some '#'
  · refine .inl ⟨by simp only [readLine, if_pos hcounts], fun trimmed entry hentry => ?_⟩
    obtain ⟨rfl, hnot, -⟩ := hasEntry_iff.mp hentry
    exact hnot hcounts
  · have hentry : HasEntry line (Text.trimChars line) (withoutExport (Text.trimChars line)) :=
      hasEntry_iff.mpr ⟨rfl, hcounts, rfl⟩
    cases hcut : Text.cutAt '=' (withoutExport (Text.trimChars line)) with
    | none =>
      have hoffends := Offends.noAssignment hentry (Text.cutAt_eq_none_iff.mp hcut)
      exact .inr (.inr ⟨_, hoffends.readLine_eq, hoffends⟩)
    | some parts =>
      obtain ⟨before, after⟩ := parts
      obtain ⟨hsplit, hfirst⟩ := Text.cutAt_eq_some_iff.mp hcut
      by_cases hkey : Text.trimChars before = []
      · have hoffends := Offends.emptyKey (hsplit ▸ hentry) hfirst
          (Text.trims_nil_iff.mp (Text.trims_iff.mpr hkey))
        exact .inr (.inr ⟨_, hoffends.readLine_eq, hoffends⟩)
      · have hassigns : Assigns line (String.ofList (Text.trimChars before))
            (String.ofList (unquote (Text.trimChars after))) := by
          refine ⟨_, _, before, after, _, hentry, hsplit, hfirst, ?_, ?_,
            Text.trims_iff.mpr rfl, ?_⟩
          · rw [String.toList_ofList]
            exact Text.trims_iff.mpr rfl
          · intro hempty
            exact hkey (by simpa using congrArg String.toList hempty)
          · rw [String.toList_ofList]
            exact Text.unquotes_iff.mpr rfl
        exact .inr (.inl ⟨_, _, hassigns.readLine_eq, hassigns⟩)

theorem assigns_iff : Assigns line key value ↔ readLine line = .ok (.assignment key value) := by
  refine ⟨Assigns.readLine_eq, fun h => ?_⟩
  rcases readLine_cases line with ⟨hread, -⟩ | ⟨key', value', hread, hassigns⟩ | ⟨fault, hread, -⟩
  · rw [hread] at h
    exact absurd h (by simp)
  · rw [hread] at h
    simp only [Except.ok.injEq, Line.assignment.injEq] at h
    rwa [← h.1, ← h.2]
  · rw [hread] at h
    exact absurd h (by simp)

theorem offends_iff : Offends line fault ↔ readLine line = .error fault := by
  refine ⟨Offends.readLine_eq, fun h => ?_⟩
  rcases readLine_cases line with ⟨hread, -⟩ | ⟨key, value, hread, -⟩ | ⟨fault', hread, hoffends⟩
  · rw [hread] at h
    exact absurd h (by simp)
  · rw [hread] at h
    exact absurd h (by simp)
  · rw [hread] at h
    rwa [← Except.error.inj h]

/-- A line is acceptable exactly when it can be read. -/
theorem acceptable_iff : Acceptable line ↔ ∃ held, readLine line = .ok held := by
  constructor
  · intro haccepted
    rcases readLine_cases line with ⟨hread, -⟩ | ⟨key, value, hread, -⟩ | ⟨fault, hread, hoffends⟩
    · exact ⟨_, hread⟩
    · exact ⟨_, hread⟩
    · cases hoffends with
      | noAssignment hentry hnone =>
        obtain ⟨before, after, rfl, -⟩ := haccepted _ _ hentry
        exact absurd (by simp) hnone
      | emptyKey hentry hfirst hblank =>
        obtain ⟨before', after', hsplit, hfirst', c, hc, hnot⟩ := haccepted _ _ hentry
        -- there is one first equals sign
        have hcut := (Text.cutAt_eq_some_iff.mpr ⟨hsplit, hfirst'⟩).symm.trans
          (Text.cutAt_eq_some_iff.mpr ⟨rfl, hfirst⟩)
        simp only [Option.some.injEq, Prod.mk.injEq] at hcut
        rw [hblank c (hcut.1 ▸ hc)] at hnot
        exact absurd hnot (by simp)
  · rintro ⟨held, hread⟩ trimmed entry hentry
    have hno : ∀ fault, ¬ Offends line fault := by
      intro fault hoffends
      rw [hoffends.readLine_eq] at hread
      exact absurd hread (by simp)
    cases hcut : Text.cutAt '=' entry with
    | none => exact absurd (.noAssignment hentry (Text.cutAt_eq_none_iff.mp hcut)) (hno _)
    | some parts =>
      obtain ⟨before, after⟩ := parts
      obtain ⟨rfl, hfirst⟩ := Text.cutAt_eq_some_iff.mp hcut
      refine ⟨before, after, rfl, hfirst, ?_⟩
      cases hany : before.any (fun c => !Text.isBlank c) with
      | true => simpa using hany
      | false => exact absurd (.emptyKey hentry hfirst (by simpa using hany)) (hno _)

/-- What a line assigns, if it does. -/
def assignment? (line : List Char) : Option (String × String) :=
  match readLine line with
  | .ok (.assignment key value) => some (key, value)
  | _ => none

theorem assignment?_eq_some_iff : assignment? line = some (key, value) ↔
    Assigns line key value := by
  rw [assigns_iff, assignment?]
  split
  next key' value' hread => simp [hread]
  next hnone =>
    refine ⟨fun h => absurd h (by simp), fun h => absurd h ?_⟩
    exact hnone key value

/-! ## Files -/

section Files

variable {number : Nat} {rest : List (List Char)} {held : Line}

theorem readLines_cons_of_ok (hread : readLine line = .ok held)
    (hrest : readLines (number + 1) rest = .ok (rest.filterMap assignment?)) :
    readLines number (line :: rest) = .ok ((line :: rest).filterMap assignment?) := by
  cases held with
  | skipped => simp only [readLines, hread, hrest, List.filterMap_cons, assignment?]
  | assignment key value =>
    simp only [readLines, hread, hrest, List.filterMap_cons, assignment?]
    rfl

theorem readLines_cons_of_error {error : Nat × Fault} (hread : readLine line = .ok held)
    (hrest : readLines (number + 1) rest = .error error) : readLines number (line :: rest) =
    .error error := by
  cases held with
  | skipped => simp only [readLines, hread, hrest]
  | assignment key value =>
    simp only [readLines, hread, hrest]
    rfl

/-- **What comes of reading lines from a number on.** All of them are acceptable and give what they
assign, or the first that offends gives its number. -/
theorem readLines_cases (number : Nat) (lines : List (List Char)) :
    (∀ line ∈ lines, Acceptable line) ∧ readLines number lines = .ok (lines.filterMap assignment?) ∨
    ∃ before line after fault, lines = before ++ line :: after ∧ (∀ l ∈ before, Acceptable l) ∧
      Offends line fault ∧ readLines number lines = .error (number + before.length, fault) := by
  induction lines generalizing number with
  | nil => exact .inl ⟨by simp, rfl⟩
  | cons line rest ih =>
    cases hread : readLine line with
    | error fault =>
      exact .inr ⟨[], line, rest, fault, rfl, by simp, offends_iff.mpr hread,
        by simp [readLines, hread]⟩
    | ok held =>
      have haccepted : Acceptable line := acceptable_iff.mpr ⟨held, hread⟩
      rcases ih (number + 1) with
        ⟨hall, hrest⟩ | ⟨before, other, after, fault, rfl, hbefore, hoffends, hrest⟩
      · exact .inl ⟨List.forall_mem_cons.mpr ⟨haccepted, hall⟩, readLines_cons_of_ok hread hrest⟩
      · -- the line is counted whether it assigns or not
        have hnumber : number + 1 + before.length = number + (line :: before).length := by
          rw [List.length_cons]
          omega
        rw [hnumber] at hrest
        exact .inr ⟨line :: before, other, after, fault, rfl,
          List.forall_mem_cons.mpr ⟨haccepted, hbefore⟩, hoffends,
          readLines_cons_of_error hread hrest⟩

end Files

/-- The last entry of a key is what the last line that assigns to it assigns. -/
theorem lastEntry_assignments {lines : List (List Char)} :
    LastEntry (lines.filterMap assignment?) key value ↔
    ∃ before line after, lines = before ++ line :: after ∧ Assigns line key value ∧
      ∀ l ∈ after, ∀ other, ¬ Assigns l key other := by
  constructor
  · rintro ⟨front, back, hsplit, hback⟩
    obtain ⟨before, others, rfl, -, hothers⟩ := List.filterMap_eq_append_iff.mp hsplit
    obtain ⟨skipped, line, after, rfl, -, hline, rfl⟩ := List.filterMap_eq_cons_iff.mp hothers
    refine ⟨before ++ skipped, line, after, by simp, assignment?_eq_some_iff.mp hline, ?_⟩
    intro l hl other hassigns
    exact hback (key, other) (List.mem_filterMap.mpr ⟨l, hl,
      assignment?_eq_some_iff.mpr hassigns⟩) rfl
  · rintro ⟨before, line, after, rfl, hassigns, hafter⟩
    refine ⟨before.filterMap assignment?, after.filterMap assignment?, ?_, ?_⟩
    · rw [List.filterMap_append, List.filterMap_cons_some (assignment?_eq_some_iff.mpr hassigns)]
    · rintro ⟨key', other⟩ hmem rfl
      obtain ⟨l, hl, hl'⟩ := List.mem_filterMap.mp hmem
      exact hafter l hl other (assignment?_eq_some_iff.mp hl')

/-- **Reading accepts exactly the grammar.** A text has one list of lines. It is read if and only if
every line with an entry has an equals sign with something before it. Then the keys are those that
lines assign to, each with the value of its last line. Otherwise the error has the number of the
first line that offends, and no column. -/
theorem accepts_exactly_its_grammar (root path content : String) :
    ∃ lines, (∀ other, Text.IsLines content.toList other ↔ other = lines) ∧
      ((∃ entries, (Store.mk root .dotenv).readPlain path content = .ok entries) ↔
        ∀ line ∈ lines, Acceptable line) ∧
      (∀ entries, (Store.mk root .dotenv).readPlain path content = .ok entries → ∀ key,
        (key ∈ (Dict.ofList entries).keys ↔ ∃ line ∈ lines, ∃ value, Assigns line key value) ∧
        ∀ value, (Dict.ofList entries).get? key = some value ↔
          ∃ before line after, lines = before ++ line :: after ∧ Assigns line key value ∧
            ∀ l ∈ after, ∀ other, ¬ Assigns l key other) ∧
      ∀ error, (Store.mk root .dotenv).readPlain path content = .error error →
        ∃ before line after fault, lines = before ++ line :: after ∧ (∀ l ∈ before, Acceptable l) ∧
          Offends line fault ∧ error = .secretsFile path (some (before.length + 1)) none fault := by
  refine ⟨Text.lines content.toList, fun other => by rw [Text.isLines_iff, eq_comm], ?_⟩
  rcases readLines_cases 1 (Text.lines content.toList) with
    ⟨hall, hread⟩ | ⟨before, line, after, fault, hsplit, hbefore, hoffends, hread⟩
  · have hplain : (Store.mk root .dotenv).readPlain path content =
        .ok ((Text.lines content.toList).filterMap assignment?) := by
      simp only [Store.readPlain, readDotenv, hread]
    rw [hplain]
    refine ⟨⟨fun _ => hall, fun _ => ⟨_, rfl⟩⟩, ?_, fun error h => absurd h (by simp)⟩
    intro entries hentries key
    rw [← Except.ok.inj hentries]
    constructor
    · rw [Dict.mem_keys_ofList]
      simp only [List.mem_filterMap, assignment?_eq_some_iff]
      exact ⟨fun ⟨value, l, hl, h⟩ => ⟨l, hl, value, h⟩, fun ⟨l, hl, value, h⟩ => ⟨value, l, hl, h⟩⟩
    · intro value
      rw [Dict.get?_ofList, lastValue?_eq_some_iff, lastEntry_assignments]
  · have hplain : (Store.mk root .dotenv).readPlain path content =
        .error (.secretsFile path (some (1 + before.length)) none fault) := by
      simp only [Store.readPlain, readDotenv, hread]
    have hnot : ¬ Acceptable line := by
      rw [acceptable_iff, offends_iff.mp hoffends]
      simp
    rw [hplain]
    refine ⟨⟨fun ⟨entries, h⟩ => absurd h (by simp), fun hall => ?_⟩,
      fun entries h => absurd h (by simp), ?_⟩
    · exact absurd (hall line (by simp [hsplit])) hnot
    · intro error herror
      refine ⟨before, line, after, fault, hsplit, hbefore, hoffends, ?_⟩
      rw [← Except.error.inj herror, Nat.add_comm]

example : readDotenv "# keys\r\nexport A = 'x=\"y\"'\r\n\nB=\"\nA=$B\r" =
    .ok [("A", "x=\"y\""), ("B", "\""), ("A", "$B")] := by decide
example : readDotenv "# keys\n\nA=1\n export =" = .error (4, .emptyKey) := by decide

end Dotenv

end Secrets

end AppRelease
