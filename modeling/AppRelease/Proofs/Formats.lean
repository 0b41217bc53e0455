import AppRelease.Proofs.Assembly
import AppRelease.Proofs.Dotenv
import AppRelease.Proofs.Files
import AppRelease.Proofs.Spelling

/-!
# Two formats for the same secrets

Program: `Store.load` reads the secrets of an application from lines or from a JSON object, as the
store says.

Specification: `Secrets.formats_agree`. Take any secrets whose keys can stand before an equals sign
and whose values have no line feed. Written as lines `KEY="VALUE"` or as an object of texts, in any
order, they are loaded as the same bundle, and it has each value in base 64.

1. **Lines.** `Dotenv.Writes` says how secrets are written as lines. Each of them assigns what it is
   to assign, because the quotes keep blanks and quotes in a value from being taken away
   (`assigns_quotedLine`).
2. **Objects.** `Json.SpellsObject` says how they are written as an object. The writer of this
   project writes them so (`spellsObject_toJson`), and it is one way of many.
3. **The crux.** Both readers give the entries in some order, and as no key is there twice, the
   order is lost in the dictionary (`Dict.ofList_of_perm`).
-/

namespace AppRelease

namespace Secrets

/-! ## Lines -/

namespace Dotenv

/-- A key that can stand before the equals sign of a line. -/
structure IsKey (key : String) : Prop where
  nonempty : key ≠ ""
  first : ∀ c, key.toList.head? = some c → Text.isBlank c = false
  last : ∀ c, key.toList.getLast? = some c → Text.isBlank c = false
  noEquals : '=' ∉ key.toList
  noFeed : '\n' ∉ key.toList
  noComment : key.toList.head? ≠ some '#'
  noExport : ¬ "export ".toList <+: key.toList

/-- A key, an equals sign and a value in double quotes. -/
def quotedLine (entry : String × String) : List Char :=
  entry.1.toList ++ '=' :: '"' :: (entry.2.toList ++ ['"'])

/-- The ways to write secrets one a line. A line ends in a line feed, with or without a carriage
return, and the last one need not end. -/
inductive Writes : List (String × String) → List Char → Prop where
  | nothing : Writes [] []
  | last {entry : String × String} : Writes [entry] (quotedLine entry)
  | ended {entry : String × String} {entries : List (String × String)} {rest : List Char} :
      Writes entries rest → Writes (entry :: entries) (quotedLine entry ++ '\n' :: rest)
  | endedByReturn {entry : String × String} {entries : List (String × String)} {rest : List Char} :
      Writes entries rest → Writes (entry :: entries) (quotedLine entry ++ '\r' :: '\n' :: rest)

variable {key value : String} {entry : String × String}

theorem getLast?_quotedLine (entry : String × String) : (quotedLine entry).getLast? = some '"' := by
  have hsplit : quotedLine entry = (entry.1.toList ++ '=' :: '"' :: entry.2.toList) ++ ['"'] := by
    simp [quotedLine]
  rw [hsplit, List.getLast?_concat]

/-- A line does not start with `export ` when its key does not. -/
theorem not_export_quotedLine (hkey : IsKey key) (value : String) :
    ¬ "export ".toList <+: quotedLine (key, value) := by
  rintro ⟨tail, htail⟩
  rcases List.append_eq_append_iff.mp htail with ⟨middle, hmiddle, -⟩ | ⟨middle, hmiddle, hrest⟩
  · exact hkey.noExport ⟨middle, hmiddle.symm⟩
  · -- the word would have to go on over the equals sign
    cases middle with
    | nil => exact hkey.noExport ⟨[], by simpa using hmiddle⟩
    | cons c middle =>
      have hequals : '=' ∈ "export ".toList := by
        rw [hmiddle, (List.cons.inj hrest).1]
        simp
      exact absurd hequals (by decide)

/-- **A line with a key and a value in quotes assigns the value**, whatever it is. -/
theorem assigns_quotedLine (hkey : IsKey key) (value : String) :
    Assigns (quotedLine (key, value)) key value := by
  have hkeyList : key.toList ≠ [] := fun hnil => hkey.nonempty (String.toList_inj.mp hnil)
  have hquote : Text.isBlank '"' = false := by decide
  have hstart : (quotedLine (key, value)).head? = key.toList.head? := by
    obtain ⟨first, others, hlist⟩ := List.exists_cons_of_ne_nil hkeyList
    rw [quotedLine, hlist]
    rfl
  have hline : Text.Trims (quotedLine (key, value)) (quotedLine (key, value)) := by
    refine Text.trims_self (by rw [hstart]; exact hkey.first) ?_
    intro c hc
    rw [getLast?_quotedLine, Option.some.injEq] at hc
    rwa [← hc]
  have hvalue : Text.Trims ('"' :: (value.toList ++ ['"'])) ('"' :: (value.toList ++ ['"'])) := by
    refine Text.trims_self ?_ ?_
    · intro c hc
      rwa [← Option.some.inj hc]
    · intro c hc
      rw [← List.cons_append, List.getLast?_concat, Option.some.injEq] at hc
      rwa [← hc]
  have hentry :
      HasEntry (quotedLine (key, value)) (quotedLine (key, value)) (quotedLine (key, value)) := by
    refine ⟨hline, by simp [quotedLine], ?_, .inr ⟨not_export_quotedLine hkey value, rfl⟩⟩
    rw [hstart]
    exact hkey.noComment
  exact ⟨_, _, key.toList, _, _, hentry, rfl, hkey.noEquals, Text.trims_self hkey.first hkey.last,
    hkey.nonempty, hvalue, .inl ⟨'"', .inl rfl, rfl⟩⟩

/-- The lines of secrets are those that they are written with. -/
theorem Writes.isLines {entries : List (String × String)} {text : List Char}
    (h : Writes entries text) (hfeed : ∀ entry ∈ entries, '\n' ∉ quotedLine entry) :
    Text.IsLines text (entries.map quotedLine) := by
  have hreturn : ∀ entry, Text.withoutReturn (quotedLine entry) = quotedLine entry := by
    intro entry
    simp [Text.withoutReturn, getLast?_quotedLine]
  induction h with
  | nothing => exact .nothing
  | @last entry =>
    refine .last ?_ (hfeed entry List.mem_cons_self)
    simp [quotedLine]
  | @ended entry entries rest _ ih =>
    have hrest := Text.IsLines.ended (hfeed entry List.mem_cons_self)
      (ih fun other hother => hfeed other (List.mem_cons_of_mem _ hother))
    rwa [hreturn] at hrest
  | @endedByReturn entry entries rest _ ih =>
    have hline : '\n' ∉ quotedLine entry ++ ['\r'] := by simp [hfeed entry List.mem_cons_self]
    have hrest :=
      Text.IsLines.ended hline (ih fun other hother => hfeed other (List.mem_cons_of_mem _ hother))
    have hdropped : Text.withoutReturn (quotedLine entry ++ ['\r']) = quotedLine entry := by
      simp [Text.withoutReturn]
    rw [hdropped] at hrest
    simpa using hrest

theorem filterMap_quotedLine {entries : List (String × String)}
    (hkeys : ∀ entry ∈ entries, IsKey entry.1) :
    (entries.map quotedLine).filterMap assignment? = entries := by
  induction entries with
  | nil => rfl
  | cons entry rest ih =>
    obtain ⟨hentry, hrest⟩ := List.forall_mem_cons.mp hkeys
    have hassigns := assignment?_eq_some_iff.mpr (assigns_quotedLine hentry entry.2)
    rw [List.map_cons, List.filterMap_cons_some hassigns, ih hrest]

/-- **Secrets that are written as lines are read in order.** -/
theorem readDotenv_of_writes {entries : List (String × String)} {content : String}
    (h : Writes entries content.toList) (hkeys : ∀ entry ∈ entries, IsKey entry.1)
    (hvalues : ∀ entry ∈ entries, '\n' ∉ entry.2.toList) : readDotenv content = .ok entries := by
  have hfeed : ∀ entry ∈ entries, '\n' ∉ quotedLine entry := by
    intro entry hentry
    simp [quotedLine, (hkeys entry hentry).noFeed, hvalues entry hentry]
  rw [readDotenv, Text.isLines_iff.mp (h.isLines hfeed)]
  rcases readLines_cases 1 (entries.map quotedLine) with
    ⟨-, hread⟩ | ⟨before, line, after, fault, hsplit, -, hoffends, -⟩
  · rw [hread, filterMap_quotedLine hkeys]
  · -- a line that offends does not assign
    have hline : line ∈ entries.map quotedLine := by simp [hsplit]
    obtain ⟨entry, hentry, rfl⟩ := List.mem_map.mp hline
    have hread := (assigns_quotedLine (hkeys entry hentry) entry.2).readLine_eq
    rw [hoffends.readLine_eq] at hread
    exact absurd hread (by simp)

end Dotenv

/-! ## Objects -/

theorem scalarMembers_asValue (entries : List (String × String)) :
    scalarMembers (entries.map Json.asValue) = .ok entries := by
  induction entries with
  | nil => rfl
  | cons entry rest ih =>
    rw [List.map_cons, Json.asValue]
    simp only [scalarMembers, scalarText, ih]
    rfl

/-- Secrets that are written as an object are taken from it by ascending key. -/
theorem scalars_asValue {plain : Dict String} {entries : List (String × String)}
    (h : entries.Perm plain.entries) :
    scalars (entries.map Json.asValue) = .ok plain.entries := by
  have hdict : Dict.ofList (entries.map Json.asValue) = plain.mapValues fun _ value =>
      .text value :=
    Dict.ofList_of_perm (h.map Json.asValue)
  rw [scalars, hdict]
  exact scalarMembers_asValue plain.entries

/-! ## Files -/

section Loading

variable {s : Store} {files : FileTree} {application content : String} {e : Environment}
  {plain : Dict String} {entries : List (String × String)}

/-- A dictionary with each value in base 64. -/
def encoded (plain : Dict String) : Dict String :=
  plain.mapValues fun _ value => Base64.standard (Text.bytesOf value)

/-- **Secrets are loaded in base 64** when their file is read, in whatever order. -/
theorem Store.load_of_readPlain
    (hfile : files.nodeAt? (s.pathFor application e) = some (.file (Text.bytesOf content)))
    (hread : s.readPlain (s.pathFor application e) content = .ok entries)
    (horder : entries.Perm plain.entries) :
    s.load files application e = .ok ⟨application, e, s.pathFor application e, encoded plain⟩ := by
  refine load_eq_ok_iff.mpr ⟨FileTree.isFile_iff.mpr ⟨_, hfile⟩, content, entries,
    FileTree.readText_eq_ok_iff.mpr hfile, hread, ?_⟩
  rw [Bundle.ofPlain, List.map_map, encoded]
  simp only [← Base64.encode_eq_standard]
  exact congrArg (Bundle.mk _ _ _)
    (Dict.ofList_of_perm (horder.map fun entry =>
      (entry.1, Base64.encode (Text.bytesOf entry.2)))).symm

/-- **Both formats stand for the same secrets.** Secrets that can be written as lines are loaded in
base 64, from lines in any order and from an object of texts in any order, however that is
written. -/
theorem formats_agree (plain : Dict String) (hkeys : ∀ key ∈ plain.keys, Dotenv.IsKey key)
    (hvalues : ∀ key value, plain.get? key = some value → '\n' ∉ value.toList)
    (horder : entries.Perm plain.entries) (root : String) (files : FileTree) (application : String)
    (e : Environment) :
    (∀ content, Dotenv.Writes entries content.toList →
      files.nodeAt? ((Store.mk root .dotenv).pathFor application e) =
        some (.file (Text.bytesOf content)) →
      (Store.mk root .dotenv).load files application e =
        .ok ⟨application, e, (Store.mk root .dotenv).pathFor application e, encoded plain⟩) ∧
    ∀ content, Json.SpellsObject entries content.toList →
      files.nodeAt? ((Store.mk root .json).pathFor application e) =
        some (.file (Text.bytesOf content)) →
      (Store.mk root .json).load files application e =
        .ok ⟨application, e, (Store.mk root .json).pathFor application e, encoded plain⟩ := by
  have hmem : ∀ entry ∈ entries, plain.get? entry.1 = some entry.2 :=
    fun entry hentry => (Dict.get?_eq_some_iff _).mpr (horder.mem_iff.mp hentry)
  refine ⟨?_, ?_⟩
  · intro content hwrites hfile
    refine Store.load_of_readPlain hfile ?_ horder
    have hentryKeys : ∀ entry ∈ entries, Dotenv.IsKey entry.1 :=
      fun entry hentry => hkeys entry.1 (plain.mem_keys_iff.mpr (by simp [hmem entry hentry]))
    have hentryValues : ∀ entry ∈ entries, '\n' ∉ entry.2.toList :=
      fun entry hentry => hvalues entry.1 entry.2 (hmem entry hentry)
    simp only [Store.readPlain, Dotenv.readDotenv_of_writes hwrites hentryKeys hentryValues]
  · intro content hspells hfile
    refine Store.load_of_readPlain hfile ?_ (.refl plain.entries)
    simp only [Store.readPlain, Json.readObject_of_spells hspells, scalars_asValue horder]

end Loading

/-- Secrets with quotes, a comment sign, a backslash, a carriage return and blanks in their
values. -/
def passwords : Dict String := Dict.ofList [("DB", "\"a\" "), ("export", " # $DB=\\n\r")]

/-- The same in descending order of keys. -/
def passwordEntries : List (String × String) := [("export", " # $DB=\\n\r"), ("DB", "\"a\" ")]

/-- A file in each format. -/
def passwordFiles : FileTree where
  nodes := [(["vault"], .directory), (["vault", "staging"], .directory),
    (["vault", "staging", "demo.env"],
      .file (Text.bytesOf "export=\" # $DB=\\n\r\"\r\nDB=\"\"a\" \"")),
    (["vault", "staging", "demo.json"],
      .file (Text.bytesOf (Document.record (passwordEntries.map Json.asField)).toJson))]

theorem formats_agree_passwords : passwordEntries.Perm passwords.entries ∧
    (Store.mk "vault" .dotenv).load passwordFiles "demo" .staging =
      .ok ⟨"demo", .staging, "vault/staging/demo.env", encoded passwords⟩ ∧
    (Store.mk "vault" .json).load passwordFiles "demo" .staging =
      .ok ⟨"demo", .staging, "vault/staging/demo.json", encoded passwords⟩ := by
  have hentries : passwords.entries = [("DB", "\"a\" "), ("export", " # $DB=\\n\r")] := by decide
  have horder : passwordEntries.Perm passwords.entries := by decide
  have hkeys : ∀ key ∈ passwords.keys, Dotenv.IsKey key := by
    have hlist : passwords.keys = ["DB", "export"] := by decide
    rw [hlist]
    intro key hkey
    simp only [List.mem_cons, List.not_mem_nil, or_false] at hkey
    rcases hkey with rfl | rfl
    · exact ⟨by decide, by simp; decide, by simp; decide, by decide, by decide, by decide,
        by decide⟩
    · exact ⟨by decide, by simp; decide, by simp; decide, by decide, by decide, by decide,
        by decide⟩
  have hvalues : ∀ key value, passwords.get? key = some value → '\n' ∉ value.toList := by
    intro key value hvalue
    rw [Dict.get?_eq_some_iff, hentries] at hvalue
    simp only [List.mem_cons, Prod.mk.injEq, List.not_mem_nil, or_false] at hvalue
    rcases hvalue with ⟨-, rfl⟩ | ⟨-, rfl⟩
    · decide
    · decide
  obtain ⟨hlines, hobject⟩ :=
    formats_agree passwords hkeys hvalues horder "vault" passwordFiles "demo" .staging
  refine ⟨horder, ?_, ?_⟩
  · have hwrites :
        Dotenv.Writes passwordEntries "export=\" # $DB=\\n\r\"\r\nDB=\"\"a\" \"".toList :=
      .endedByReturn .last
    exact hlines _ hwrites (by decide +kernel)
  · exact hobject _ (Json.spellsObject_toJson passwordEntries) (by decide +kernel)

end Secrets

end AppRelease
