import PettyFlow.Foundation.Separators
import PettyFlow.Migrations.Discovery

/-! What discovery makes of the names of scripts, in whatever order they are listed. -/

namespace PettyFlow.Migrations

open Foundation

variable (tables : CharTables)

/-! ### Names -/

/-- A name of the form that scripts have: the letter, digits, two bars and a name on one line. -/
structure ScriptForm (letter : Char) (file : String) (digits : List Char) (name : String)
    : Prop where
  spelled
    : file.toList = letter :: digits ++ ("__".toList ++ (name.toList ++ ".sql".toList))
  someDigits : digits ≠ []
  decimal : ∀ c ∈ digits, tables.isDecimal c = true
  named : name ≠ ""
  oneLine : '\n' ∉ name.toList

variable {tables} {letter : Char} {file : String} {digits : List Char} {name : String}

theorem ScriptForm.isSqlFile (form : ScriptForm tables letter file digits name)
    : isSqlFile file = true := by
  rw [Migrations.isSqlFile, List.isSuffixOf_iff_suffix, form.spelled]
  exact ⟨letter :: digits ++ ("__".toList ++ name.toList), by simp [List.append_assoc]⟩

/-- A file has at most one version and name: the digits end at the first bar. -/
theorem ScriptForm.unique {digits' : List Char} {name' : String}
    (form : ScriptForm tables letter file digits name)
    (form' : ScriptForm tables letter file digits' name')
    : digits = digits' ∧ name = name' := by
  have noBar {word : List Char} (decimal : ∀ c ∈ word, tables.isDecimal c = true) : '_' ∉ word := by
    intro member
    have bar := decimal '_' member
    rw [tables.isDecimal_ascii (by decide)] at bar
    cases bar
  have same := (List.cons.inj (form.spelled.symm.trans form'.spelled)).2
  obtain ⟨sameDigits, tails⟩ := split_first (noBar form.decimal) (noBar form'.decimal) same
  have sameName : name.toList = name'.toList :=
    (List.append_left_inj ".sql".toList).mp (List.cons.inj tails).2
  exact ⟨sameDigits, String.toList_injective sameName⟩

/-- What the pattern reads: a name of the form, and perhaps a line feed behind it. -/
theorem reads_scriptPattern {text : List Char} {groups : List (List Char)}
    : (∃ place, (scriptPattern tables letter).Reads (.start text) (place, groups))
      ↔ ∃ digits name rest,
          text = letter :: digits ++ ("__".toList ++ (name ++ (".sql".toList ++ rest)))
          ∧ (∀ c ∈ digits, tables.isDecimal c = true)
          ∧ digits ≠ []
          ∧ '\n' ∉ name
          ∧ name ≠ []
          ∧ (rest = [] ∨ rest = ['\n'])
          ∧ groups = [digits, name] := by
  simp only [scriptPattern, Pattern.sequence, Pattern.reads_atStart_next, Pattern.reads_one_next,
    Pattern.reads_group_run_next, Pattern.reads_word_next, Place.start, true_and]
  constructor
  · intro reads
    obtain ⟨_, c, _, rfl, isLetter, digits, _, rfl, decimal, someDigits, _, nameRead, same⟩ := reads
    obtain ⟨_, rfl, name, _, rfl, clean, named, _, endingRead, rfl⟩ := nameRead
    obtain ⟨rest, rfl, _, _, ⟨ending, rfl⟩, rfl, rfl⟩ := endingRead
    have oneLine (member : '\n' ∈ name) : False := of_decide_eq_true (clean '\n' member) rfl
    obtain rfl := of_decide_eq_true isLetter
    exact ⟨digits, name, rest, rfl, decimal, List.ne_nil_of_length_pos someDigits, oneLine,
      List.ne_nil_of_length_pos named, ending, (Prod.mk.inj same).2⟩
  · intro ⟨digits, name, rest, split, decimal, someDigits, clean, named, ending, groups⟩
    have oneLine (c : Char) (member : c ∈ name) : decide (c ≠ '\n') = true :=
      decide_eq_true (fun feed => clean (feed ▸ member))
    exact ⟨_, letter, _, split, decide_eq_true rfl, digits, _, rfl, decimal,
      List.length_pos_of_ne_nil someDigits, _,
      ⟨_, rfl, name, _, rfl, oneLine, List.length_pos_of_ne_nil named, _,
        ⟨rest, rfl, _, _, ⟨ending, rfl⟩, rfl, rfl⟩, rfl⟩,
      Prod.ext rfl groups⟩

/-- What the pattern reads of a name that ends in `.sql` is of the form. -/
theorem form_of_reads (listed : isSqlFile file = true) {groups : List (List Char)} {place : Place}
    (reads : (scriptPattern tables letter).Reads (.start file.toList) (place, groups))
    : ∃ digits name,
        ScriptForm tables letter file digits (String.ofList name) ∧ groups = [digits, name] := by
  obtain ⟨digits, name, rest, split, decimal, someDigits, clean, named, ending, same⟩ :=
    reads_scriptPattern.mp ⟨place, reads⟩
  obtain ⟨front, tail⟩ := List.isSuffixOf_iff_suffix.mp listed
  have noFeed : rest = [] := by
    refine ending.resolve_right (fun feed => ?_)
    have lasts : file.toList.getLast? = some '\n' := by
      rw [split, feed]
      simp only [← List.append_assoc]
      exact List.getLast?_concat
    rw [← tail] at lasts
    simp at lasts
  refine ⟨digits, name, ⟨?_, someDigits, decimal, ?_, ?_⟩, same⟩
  · rw [split, noFeed, List.append_nil, @String.toList_ofList name]
  · rwa [Ne, String.ofList_eq_empty_iff]
  · rwa [String.toList_ofList]

/-- The pattern matches the names of the form among those that are listed. -/
theorem scriptName?_eq_some (listed : isSqlFile file = true)
    : scriptName? tables letter file = some (digits, name)
      ↔ ScriptForm tables letter file digits name := by
  constructor
  · intro found
    unfold scriptName? at found
    cases matched : (scriptPattern tables letter).matchAt (.start file.toList) with
    | none => simp [matched] at found
    | some result =>
        obtain ⟨place, groups⟩ := result
        obtain ⟨digits', name', form, rfl⟩ :=
          form_of_reads listed (Pattern.reads_of_matchAt matched)
        rw [matched] at found
        obtain ⟨rfl, rfl⟩ := Prod.mk.inj (Option.some.inj found)
        exact form
  · intro form
    obtain ⟨place, reads⟩ := reads_scriptPattern.mpr
      ⟨digits, name.toList, [], (List.append_nil ".sql".toList).symm ▸ form.spelled, form.decimal,
        form.someDigits, form.oneLine, mt String.toList_eq_nil_iff.mp form.named, Or.inl rfl, rfl⟩
    cases matched : (scriptPattern tables letter).matchAt (.start file.toList) with
    | none => exact absurd reads (Pattern.matchAt_eq_none.mp matched _)
    | some result =>
        obtain ⟨place', groups⟩ := result
        obtain ⟨digits', name', form', rfl⟩ :=
          form_of_reads listed (Pattern.reads_of_matchAt matched)
        obtain ⟨rfl, rfl⟩ := form.unique form'
        simp only [scriptName?, matched]

/-- No file has a name of the form for two letters. -/
theorem ScriptForm.letter_unique {letter' : Char} {digits' : List Char} {name' : String}
    (form : ScriptForm tables letter file digits name)
    (form' : ScriptForm tables letter' file digits' name')
    : letter = letter' :=
  (List.cons.inj (form.spelled.symm.trans form'.spelled)).1

theorem scriptPath_injective {migrationsDir file file' : String}
    (same : scriptPath migrationsDir file = scriptPath migrationsDir file')
    : file = file' := by
  unfold scriptPath at same
  split at same
  · exact same
  · split at same
    · exact String.append_right_inj _ |>.mp same
    · exact String.append_right_inj _ |>.mp same

/-! ### Collected scripts -/

/-- A dictionary holds the scripts of a letter that some files are: each of its entries is one,
and each has an entry under its version.
-/
structure Holds {υ : Type} (tables : CharTables) (letter : Char) (files : List String)
    (entry : String → String → υ) (held : Dict Nat υ)
    : Prop where
  known
    : ∀ version value,
        held.get? version = some value
        → ∃ file ∈ files,
            ∃ digits name,
              ScriptForm tables letter file digits name
              ∧ tables.number digits = version
              ∧ value = entry file name
  complete
    : ∀ file ∈ files,
        ∀ digits name,
          ScriptForm tables letter file digits name
          → (held.get? (tables.number digits)).isSome

section Holds

variable {υ : Type} {files : List String} {entry : String → String → υ} {held : Dict Nat υ}

theorem Holds.empty : Holds tables letter [] entry .empty where
  known version value found := by cases found
  complete file member := by cases member

theorem Holds.set (holds : Holds tables letter files entry held)
    (form : ScriptForm tables letter file digits name)
    : Holds tables letter (files ++ [file]) entry
        (held.set (tables.number digits) (entry file name)) where
  known version value found := by
    rw [Dict.get?_set] at found
    split at found
    · rename_i same
      cases found
      exact ⟨file, by simp, digits, name, form, same, rfl⟩
    · obtain ⟨other, member, spelled⟩ := holds.known version value found
      exact ⟨other, List.mem_append_left _ member, spelled⟩
  complete other member digits' name' form' := by
    rw [Dict.get?_set]
    split
    · rfl
    · rename_i different
      rcases List.mem_append.mp member with earlier | last
      · exact holds.complete other earlier digits' name' form'
      · rw [List.mem_singleton.mp last] at form'
        exact absurd (form.unique form').1 (fun same => different (same ▸ rfl))

theorem Holds.skip (holds : Holds tables letter files entry held)
    (other : ∀ digits name, ¬ ScriptForm tables letter file digits name)
    : Holds tables letter (files ++ [file]) entry held where
  known version value found := by
    obtain ⟨file, member, spelled⟩ := holds.known version value found
    exact ⟨file, List.mem_append_left _ member, spelled⟩
  complete known member digits name form := by
    rcases List.mem_append.mp member with earlier | last
    · exact holds.complete known earlier digits name form
    · rw [List.mem_singleton.mp last] at form
      exact absurd form (other digits name)

/-- Only names that are listed matter. -/
theorem Holds.of_mem {files' : List String} (holds : Holds tables letter files entry held)
    (same : ∀ file, isSqlFile file = true → (file ∈ files ↔ file ∈ files'))
    : Holds tables letter files' entry held where
  known version value found := by
    obtain ⟨file, member, digits, name, form, spelled⟩ := holds.known version value found
    exact ⟨file, (same file form.isSqlFile).mp member, digits, name, form, spelled⟩
  complete file member digits name form :=
    holds.complete file ((same file form.isSqlFile).mpr member) digits name form

end Holds

variable {migrationsDir : String} {found result : ScriptFiles} {files rest : List String}

/-- A file is an up script, a down script or neither. -/
theorem collectFiles_cons (listed : isSqlFile file = true)
    : (∃ digits name,
        ScriptForm tables 'V' file digits name
        ∧ collectFiles tables migrationsDir (file :: rest) found
          = (readVersion tables digits).bind (fun version =>
              collectFiles tables migrationsDir rest
                {
                  found with
                    upFiles := found.upFiles.set version (name, scriptPath migrationsDir file)
                }))
      ∨ (∃ digits name,
        ScriptForm tables 'U' file digits name
        ∧ collectFiles tables migrationsDir (file :: rest) found
          = (readVersion tables digits).bind (fun version =>
              collectFiles tables migrationsDir rest
                {
                  found with
                    downFiles := found.downFiles.set version (scriptPath migrationsDir file)
                }))
      ∨ (∀ digits name,
          ¬ ScriptForm tables 'V' file digits name ∧ ¬ ScriptForm tables 'U' file digits name)
        ∧ collectFiles tables migrationsDir (file :: rest) found
          = collectFiles tables migrationsDir rest found := by
  cases up : scriptName? tables 'V' file with
  | some script =>
      obtain ⟨digits, name⟩ := script
      refine Or.inl ⟨digits, name, (scriptName?_eq_some listed).mp up, ?_⟩
      rw [collectFiles, up]
      rfl
  | none =>
      cases down : scriptName? tables 'U' file with
      | some script =>
          obtain ⟨digits, name⟩ := script
          refine Or.inr (Or.inl ⟨digits, name, (scriptName?_eq_some listed).mp down, ?_⟩)
          rw [collectFiles, up, down]
          rfl
      | none =>
          refine Or.inr (Or.inr ⟨fun digits name => ⟨fun form => ?_, fun form => ?_⟩, ?_⟩)
          · rw [(scriptName?_eq_some listed).mpr form] at up
            cases up
          · rw [(scriptName?_eq_some listed).mpr form] at down
            cases down
          · rw [collectFiles, up, down]

/-- A file is a script whose version has more digits than a number may be read from. -/
def Oversized (tables : CharTables) (file : String) : Prop :=
  ∃ letter ∈ ['V', 'U'],
    ∃ digits name, ScriptForm tables letter file digits name ∧ maxStrDigits < digits.length

/-- A script of known form decides by its own digits. -/
theorem ScriptForm.oversized_iff (form : ScriptForm tables letter file digits name)
    (known : letter ∈ ['V', 'U'])
    : Oversized tables file ↔ maxStrDigits < digits.length := by
  refine ⟨?_, fun long => ⟨letter, known, digits, name, form, long⟩⟩
  intro ⟨letter', _, digits', name', form', long⟩
  obtain rfl := form.letter_unique form'
  exact (form.unique form').1 ▸ long

/-- How a run begins if it goes through the first file. -/
theorem readVersion_bind {α : Type} {next : Nat → Except DiscoveryFailure α}
    : (readVersion tables digits).bind next
      = if digits.length ≤ maxStrDigits then
          next (tables.number digits)
        else
          .error (.valueError (tooManyDigits digits.length)) := by
  unfold readVersion
  split <;> rfl

/-- A run fails exactly if a version is oversized, by induction over the files. -/
theorem collectFiles_fails (listed : ∀ file ∈ rest, isSqlFile file = true)
    : (∃ failure, collectFiles tables migrationsDir rest found = .error failure)
      ↔ ∃ file ∈ rest, Oversized tables file := by
  induction rest generalizing found with
  | nil => simp [collectFiles]
  | cons file rest ih =>
      have later (found : ScriptFiles) := @ih found
        (fun file member => listed file (List.mem_cons_of_mem _ member))
      have here := listed file List.mem_cons_self
      rcases @collectFiles_cons tables file migrationsDir found rest here with
        ⟨digits, name, form, step⟩ | ⟨digits, name, form, step⟩ | ⟨neither, step⟩
      · rw [step, readVersion_bind, List.exists_mem_cons_iff, form.oversized_iff (by decide)]
        split
        · rw [later]
          exact (or_iff_right (by omega)).symm
        · exact iff_of_true ⟨_, rfl⟩ (Or.inl (by omega))
      · rw [step, readVersion_bind, List.exists_mem_cons_iff, form.oversized_iff (by decide)]
        split
        · rw [later]
          exact (or_iff_right (by omega)).symm
        · exact iff_of_true ⟨_, rfl⟩ (Or.inl (by omega))
      · rw [step, later, List.exists_mem_cons_iff]
        refine (or_iff_right ?_).symm
        intro ⟨letter, known, digits, name, form, _⟩
        rcases List.mem_pair.mp known with rfl | rfl
        · exact (neither digits name).1 form
        · exact (neither digits name).2 form

/-- What a run collects, by induction over the files. -/
theorem collectFiles_holds {done : List String}
    (listed : ∀ file ∈ rest, isSqlFile file = true)
    (up
      : Holds tables 'V' done (fun file name => (name, scriptPath migrationsDir file))
          found.upFiles)
    (down : Holds tables 'U' done (fun file _ => scriptPath migrationsDir file) found.downFiles)
    (collected : collectFiles tables migrationsDir rest found = .ok result)
    : Holds tables 'V' (done ++ rest) (fun file name => (name, scriptPath migrationsDir file))
        result.upFiles
      ∧ Holds tables 'U' (done ++ rest) (fun file _ => scriptPath migrationsDir file)
          result.downFiles := by
  induction rest generalizing found done with
  | nil =>
      cases collected
      rw [List.append_nil]
      exact ⟨up, down⟩
  | cons file rest ih =>
      have later := fun file member => listed file (List.mem_cons_of_mem _ member)
      rw [List.append_cons]
      have here := listed file List.mem_cons_self
      rcases @collectFiles_cons tables file migrationsDir found rest here with
        ⟨digits, name, form, step⟩ | ⟨digits, name, form, step⟩ | ⟨neither, step⟩
      · rw [step, readVersion_bind] at collected
        split at collected
        · refine ih later ?_ ?_ collected
          · exact up.set form
          · exact down.skip (fun _ _ other => nomatch form.letter_unique other)
        · cases collected
      · rw [step, readVersion_bind] at collected
        split at collected
        · refine ih later ?_ ?_ collected
          · exact up.skip (fun _ _ other => nomatch form.letter_unique other)
          · exact down.set form
        · cases collected
      · rw [step] at collected
        exact ih later (up.skip (fun digits name => (neither digits name).1))
          (down.skip (fun digits name => (neither digits name).2)) collected

/-! ### Directories -/

/-- How the file system may list a set of names: in any order, and not at all if there are none. -/
def Lists (names : Finset String) : Option (List String) → Prop
  | none => names = ∅
  | some listing => (listing : Multiset String) = names.val

/-- A file is a script of a letter and a version. -/
def IsScript (tables : CharTables) (letter : Char) (version : Nat) (file : String) : Prop :=
  ∃ digits name, ScriptForm tables letter file digits name ∧ tables.number digits = version

/-- The migrations that a directory describes: one for each up script, in the order of their
versions, each with the down script of its version if there is exactly one.
-/
structure Catalogue (tables : CharTables) (migrationsDir : String) (names : Finset String)
    (migrations : List Migration) : Prop where
  increasing : migrations.Pairwise (fun first second => first.version < second.version)
  listed
    : ∀ file ∈ names,
        ∀ digits name,
          ScriptForm tables 'V' file digits name
          → ∃ m ∈ migrations,
              m.version = tables.number digits
              ∧ m.name = name
              ∧ m.upScriptPath = scriptPath migrationsDir file
  only
    : ∀ m ∈ migrations,
        ∃ file ∈ names,
          ∃ digits,
            ScriptForm tables 'V' file digits m.name
            ∧ m.version = tables.number digits
            ∧ m.upScriptPath = scriptPath migrationsDir file
  paired
    : ∀ m ∈ migrations,
        ∀ path,
          m.downScriptPath = some path
          ↔ ∃ file ∈ names,
              IsScript tables 'U' m.version file
              ∧ (∀ other ∈ names, IsScript tables 'U' m.version other → other = file)
              ∧ path = scriptPath migrationsDir file

/-- No two up scripts have one version, and no two down scripts have that of an up script. -/
structure VersionsDistinct (tables : CharTables) (names : Finset String) : Prop where
  up
    : ∀ version,
        ∀ file ∈ names,
          ∀ file' ∈ names,
            IsScript tables 'V' version file → IsScript tables 'V' version file' → file = file'
  down
    : ∀ version,
        (∃ file ∈ names, IsScript tables 'V' version file)
        → ∀ file ∈ names,
            ∀ file' ∈ names,
              IsScript tables 'U' version file → IsScript tables 'U' version file' → file = file'

variable {names : Finset String} {listing : Option (List String)}
  {migrations migrations' : List Migration}

instance : Std.Asymm (fun first second : Migration => first.version < second.version) :=
  ⟨fun _ _ less greater => Nat.lt_asymm less greater⟩

/-- A directory has one catalogue. -/
theorem Catalogue.unique (catalogue : Catalogue tables migrationsDir names migrations)
    (catalogue' : Catalogue tables migrationsDir names migrations')
    : migrations = migrations' := by
  have included {these those : List Migration}
      (catalogue : Catalogue tables migrationsDir names these)
      (catalogue' : Catalogue tables migrationsDir names those) (m : Migration) (member : m ∈ these)
      : m ∈ those := by
    obtain ⟨file, present, digits, form, version, path⟩ := catalogue.only m member
    obtain ⟨m', member', version', name', path'⟩ :=
      catalogue'.listed file present digits m.name form
    have downs : m.downScriptPath = m'.downScriptPath := by
      ext path
      rw [catalogue.paired m member, catalogue'.paired m' member', version, version']
    have same : m = m' := by
      obtain ⟨_, _, _, _⟩ := m
      obtain ⟨_, _, _, _⟩ := m'
      simp only at *
      subst version version' name' path path' downs
      rfl
    exact same ▸ member'
  exact catalogue.increasing.eq_of_mem_iff catalogue'.increasing
    (fun m => ⟨included catalogue catalogue' m, included catalogue' catalogue m⟩)

/-- What discovery returns for what it has collected. -/
theorem mem_migrations {m : Migration}
    : m ∈ (result.upFiles.entries.map Prod.fst).mergeSort.filterMap result.migration?
      ↔ result.upFiles.get? m.version = some (m.name, m.upScriptPath)
        ∧ result.downFiles.get? m.version = m.downScriptPath := by
  rw [List.mem_filterMap]
  constructor
  · intro ⟨version, _, made⟩
    obtain ⟨entry, found, rfl⟩ := Option.map_eq_some_iff.mp made
    exact ⟨found, rfl⟩
  · intro ⟨found, down⟩
    refine ⟨m.version, ?_, ?_⟩
    · exact List.mem_mergeSort.mpr
        (List.mem_map.mpr ⟨_, (result.upFiles.mem_entries_iff _ _).mpr found, rfl⟩)
    · rw [ScriptFiles.migration?, found, Option.map_some, down]

theorem migrations_increasing (result : ScriptFiles)
    : ((result.upFiles.entries.map Prod.fst).mergeSort.filterMap result.migration?).Pairwise
        (fun first second => first.version < second.version) := by
  have strict
      : (result.upFiles.entries.map Prod.fst).mergeSort.Pairwise (· < ·) := by
    have unique := (List.mergeSort_perm (result.upFiles.entries.map Prod.fst)
      (fun first second => decide (first ≤ second))).nodup_iff.mpr result.upFiles.keysUnique
    have sorted := List.pairwise_mergeSort' (· ≤ ·) (result.upFiles.entries.map Prod.fst)
    exact (sorted.and unique).imp (fun both => Nat.lt_of_le_of_ne both.1 both.2)
  refine List.Pairwise.filterMap _ ?_ strict
  intro version version' less m made m' made'
  obtain ⟨_, _, rfl⟩ := Option.map_eq_some_iff.mp made
  obtain ⟨_, _, rfl⟩ := Option.map_eq_some_iff.mp made'
  exact less

/-- What is listed of a directory are its files. -/
theorem Lists.mem_iff {listing : List String} (lists : Lists names (some listing)) (file : String)
    : file ∈ listing ↔ file ∈ names := by
  rw [← Finset.mem_val, ← show (listing : Multiset String) = names.val from lists,
    Multiset.mem_coe]

/-- A version is oversized among the scripts that are listed if one is in the directory. -/
theorem Lists.oversized_iff {listing : List String} (lists : Lists names (some listing))
    : (∃ file ∈ listing.filter isSqlFile, Oversized tables file)
      ↔ ∃ file ∈ names, Oversized tables file := by
  refine exists_congr (fun file => ?_)
  constructor
  · intro ⟨member, long⟩
    exact ⟨(lists.mem_iff file).mp (List.mem_of_mem_filter member), long⟩
  · intro ⟨member, long⟩
    obtain ⟨_, _, _, _, form, _⟩ := id long
    exact ⟨List.mem_filter.mpr ⟨(lists.mem_iff file).mpr member, form.isSqlFile⟩, long⟩

/-- Discovery fails exactly if a version is oversized, and otherwise returns the migrations of
what it has collected.
-/
theorem discoverMigrations_outcome (lists : Lists names listing)
    : (∃ file ∈ names, Oversized tables file)
        ∧ (∃ failure, discoverMigrations tables migrationsDir listing = .error failure)
      ∨ (¬ ∃ file ∈ names, Oversized tables file)
        ∧ ∃ result : ScriptFiles,
            discoverMigrations tables migrationsDir listing
              = .ok
                  ((result.upFiles.entries.map Prod.fst).mergeSort.filterMap result.migration?)
            ∧ Holds tables 'V' names.toList
                (fun file name => (name, scriptPath migrationsDir file)) result.upFiles
            ∧ Holds tables 'U' names.toList (fun file _ => scriptPath migrationsDir file)
                result.downFiles := by
  cases listing with
  | none =>
      obtain rfl : names = ∅ := lists
      refine Or.inr ⟨by simp, ⟨.empty, .empty⟩, ?_, ?_, ?_⟩
      · rw [discoverMigrations, Dict.empty]
        simp
      · rw [Finset.toList_empty]
        exact Holds.empty
      · rw [Finset.toList_empty]
        exact Holds.empty
  | some listing =>
      have filtered (file : String) (sql : isSqlFile file = true)
          : file ∈ listing.filter isSqlFile ↔ file ∈ names.toList := by
        rw [List.mem_filter, Finset.mem_toList, lists.mem_iff]
        exact and_iff_left sql
      have sqlFiles (file : String) (member : file ∈ listing.filter isSqlFile) :=
        (List.mem_filter.mp member).2
      have fails :=
        @collectFiles_fails tables migrationsDir ⟨.empty, .empty⟩ (listing.filter isSqlFile)
          sqlFiles
      rw [lists.oversized_iff] at fails
      cases collected
          : collectFiles tables migrationsDir (listing.filter isSqlFile) ⟨.empty, .empty⟩ with
      | error failure =>
          refine Or.inl ⟨fails.mp ⟨failure, collected⟩, failure, ?_⟩
          rw [discoverMigrations, collected]
          rfl
      | ok result =>
          refine Or.inr ⟨fun long => ?_, result, ?_, ?_⟩
          · obtain ⟨failure, failed⟩ := fails.mpr long
            rw [collected] at failed
            cases failed
          · rw [discoverMigrations, collected]
            rfl
          · obtain ⟨up, down⟩ :=
              collectFiles_holds sqlFiles Holds.empty Holds.empty collected
            exact ⟨up.of_mem filtered, down.of_mem filtered⟩

/-- With distinct versions nothing is filed over anything else. -/
theorem catalogue_of_distinct
    (up
      : Holds tables 'V' names.toList (fun file name => (name, scriptPath migrationsDir file))
          result.upFiles)
    (down
      : Holds tables 'U' names.toList (fun file _ => scriptPath migrationsDir file)
          result.downFiles)
    (distinct : VersionsDistinct tables names)
    : Catalogue tables migrationsDir names
        ((result.upFiles.entries.map Prod.fst).mergeSort.filterMap result.migration?) where
  increasing := migrations_increasing result
  listed file present digits name form := by
    obtain ⟨entry, found⟩ := Option.isSome_iff_exists.mp
      (up.complete file (Finset.mem_toList.mpr present) digits name form)
    obtain ⟨other, known, digits', name', form', version, rfl⟩ := up.known _ _ found
    obtain rfl := distinct.up _ file present other (Finset.mem_toList.mp known)
      ⟨digits, name, form, rfl⟩ ⟨digits', name', form', version⟩
    obtain ⟨rfl, rfl⟩ := form.unique form'
    let version := tables.number digits
    exact ⟨⟨version, name, scriptPath migrationsDir file, result.downFiles.get? version⟩,
      mem_migrations.mpr ⟨found, rfl⟩, rfl, rfl, rfl⟩
  only m member := by
    obtain ⟨file, known, digits, name, form, version, same⟩ :=
      up.known _ _ (mem_migrations.mp member).1
    obtain ⟨sameName, samePath⟩ := Prod.mk.inj same
    exact ⟨file, Finset.mem_toList.mp known, digits, sameName ▸ form, version.symm, samePath⟩
  paired m member path := by
    obtain ⟨upFound, downFound⟩ := mem_migrations.mp member
    obtain ⟨upFile, upKnown, upDigits, upName, upForm, upVersion, _⟩ := up.known _ _ upFound
    have single := distinct.down m.version
      ⟨upFile, Finset.mem_toList.mp upKnown, upDigits, upName, upForm, upVersion⟩
    rw [← downFound]
    constructor
    · intro found
      obtain ⟨file, known, digits, name, form, version, rfl⟩ := down.known _ _ found
      have present := Finset.mem_toList.mp known
      have script : IsScript tables 'U' m.version file := ⟨digits, name, form, version⟩
      exact ⟨file, present, script,
        fun other known' script' => single other known' file present script' script, rfl⟩
    · intro ⟨file, present, ⟨digits, name, form, version⟩, alone, same⟩
      obtain ⟨path', found⟩ := Option.isSome_iff_exists.mp
        (down.complete file (Finset.mem_toList.mpr present) digits name form)
      rw [version] at found
      obtain ⟨other, known, digits', name', form', version', rfl⟩ := down.known _ _ found
      obtain rfl := alone other (Finset.mem_toList.mp known) ⟨digits', name', form', version'⟩
      rw [found, same]

/-- A catalogue has no room for two scripts of one version. -/
theorem distinct_of_catalogue
    (down
      : Holds tables 'U' names.toList (fun file _ => scriptPath migrationsDir file)
          result.downFiles)
    (catalogue
      : Catalogue tables migrationsDir names
          ((result.upFiles.entries.map Prod.fst).mergeSort.filterMap result.migration?))
    : VersionsDistinct tables names where
  up version file present file' present' script script' := by
    obtain ⟨digits, name, form, value⟩ := script
    obtain ⟨digits', name', form', value'⟩ := script'
    obtain ⟨m, member, version, _, path⟩ := catalogue.listed file present digits name form
    obtain ⟨m', member', version', _, path'⟩ := catalogue.listed file' present' digits' name' form'
    have found := (mem_migrations.mp member).1
    have found' := (mem_migrations.mp member').1
    rw [version, value] at found
    rw [version', value', found] at found'
    have samePath := (Prod.mk.inj (Option.some.inj found')).2
    exact scriptPath_injective (path.symm.trans (samePath.trans path'))
  down version upScript file present file' present' script script' := by
    obtain ⟨upFile, upPresent, digits, name, form, value⟩ := upScript
    obtain ⟨m, member, version', _⟩ := catalogue.listed upFile upPresent digits name form
    obtain ⟨downDigits, downName, downForm, downValue⟩ := id script
    obtain ⟨path, found⟩ := Option.isSome_iff_exists.mp
      (down.complete file (Finset.mem_toList.mpr present) downDigits downName downForm)
    have sameVersion : m.version = version := version'.trans value
    rw [downValue, ← sameVersion, (mem_migrations.mp member).2] at found
    obtain ⟨only, _, _, alone, _⟩ := (catalogue.paired m member path).mp found
    rw [sameVersion] at alone
    exact (alone file present script).trans (alone file' present' script').symm

/-- Discovery returns the catalogue of a directory, whatever the order in which its files are
listed, exactly if a version is oversized, so that it raises, or versions are distinct.
-/
theorem discoverMigrations_catalogue_iff (tables : CharTables) (migrationsDir : String)
    (names : Finset String)
    : ((∀ listing,
          Lists names listing
          → ∀ migrations,
              discoverMigrations tables migrationsDir listing = .ok migrations
              → Catalogue tables migrationsDir names migrations)
        ∧ ∀ listing listing',
            Lists names listing
            → Lists names listing'
            → (discoverMigrations tables migrationsDir listing).toOption
              = (discoverMigrations tables migrationsDir listing').toOption)
      ↔ (∃ file ∈ names, Oversized tables file) ∨ VersionsDistinct tables names := by
  have outcome (listing : Option (List String)) (lists : Lists names listing) :=
    @discoverMigrations_outcome tables migrationsDir names listing lists
  constructor
  · intro ⟨right, _⟩
    refine or_iff_not_imp_left.mpr (fun short => ?_)
    have lists : Lists names (some names.toList) := Finset.coe_toList names
    rcases outcome _ lists with ⟨long, _⟩ | ⟨_, result, returned, up, down⟩
    · exact absurd long short
    · exact distinct_of_catalogue down (right _ lists _ returned)
  · intro condition
    have right (listing : Option (List String)) (lists : Lists names listing)
        (migrations : List Migration)
        (returned : discoverMigrations tables migrationsDir listing = .ok migrations)
        : Catalogue tables migrationsDir names migrations := by
      rcases outcome listing lists with ⟨_, failure, failed⟩ | ⟨short, result, made, up, down⟩
      · rw [failed] at returned
        cases returned
      · rw [made] at returned
        cases returned
        exact catalogue_of_distinct up down (condition.resolve_left short)
    refine ⟨right, fun listing listing' lists lists' => ?_⟩
    rcases outcome listing lists with ⟨long, _, failed⟩ | ⟨short, _, made, _⟩
    · rcases outcome listing' lists' with ⟨_, _, failed'⟩ | ⟨short, _⟩
      · rw [failed, failed']
        rfl
      · exact absurd long short
    · rcases outcome listing' lists' with ⟨long, _⟩ | ⟨_, _, made', _⟩
      · exact absurd long short
      · rw [made, made', (right _ lists _ made).unique (right _ lists' _ made')]

/-- Two up scripts of version 1: the one listed last hides the other. -/
theorem second_script_hidden
    : ¬ ∀ listing,
          Lists {"V1__a.sql", "V001__b.sql"} listing
          → ∀ migrations,
              discoverMigrations .ascii "migrations" listing = .ok migrations
              → Catalogue .ascii "migrations" {"V1__a.sql", "V001__b.sql"} migrations := by
  intro right
  have returned
      : discoverMigrations .ascii "migrations" (some ["V1__a.sql", "V001__b.sql"])
        = .ok [⟨1, "b", "migrations/V001__b.sql", none⟩] := by
    decide +kernel
  have lists
      : Lists {"V1__a.sql", "V001__b.sql"} (some ["V1__a.sql", "V001__b.sql"]) := by
    rfl
  have form : ScriptForm .ascii 'V' "V1__a.sql" ['1'] "a" :=
    ⟨rfl, by decide, List.forall_mem_singleton.mpr rfl, by decide, by decide⟩
  obtain ⟨m, member, _, name, _⟩ :=
    (right _ lists _ returned).listed "V1__a.sql" (by decide) ['1'] "a" form
  rw [List.mem_singleton.mp member] at name
  revert name
  decide

end PettyFlow.Migrations
