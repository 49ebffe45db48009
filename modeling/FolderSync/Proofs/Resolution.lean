import FolderSync.Proofs.Config
import FolderSync.Resolution

/-!
# Which configuration is in effect

What was asked for explicitly comes before what the configuration file says, and that before the
defaults, for each field on its own.  A file that cannot be used is an error whatever was asked for, and
comes before a server that is missing.

* `Overrides.Selects`: the file that is read.
* `Overrides.Source`: the entries that the file gives, or none if no file is read.
* `Overrides.SameEntry`: entries that differ at most in a text that was asked for explicitly.
-/

namespace FolderSync

/-- The file that is read: the one asked for, or else the usual one if it is a file. -/
inductive Overrides.Selects (o : Overrides) (configHome : Option Path) (d : Disk) : Path → Prop
  | explicit {p : Path} (asked : o.file = some p) : Selects o configHome d p
  | usual {p : Path} (notAsked : o.file = none) (usual : Config.defaultPath configHome = some p)
      (there : d.isFile p = true) : Selects o configHome d p

/-- The path leads to a file that can be read, and whose text is a table with these entries. -/
def Disk.HoldsTable (d : Disk) (p : Path) (entries : List (String × Toml)) : Prop :=
  ∃ text, d.content p = .ok { bytes := utf8 text } ∧ Toml.read? text = some (.table entries)

/-- The entries that count: those of the file that is read, or none if none is. -/
inductive Overrides.Source (o : Overrides) (configHome : Option Path) (d : Disk) :
    List (String × Toml) → Prop
  | file {p : Path} {entries : List (String × Toml)} (selected : o.Selects configHome d p)
      (holds : d.HoldsTable p entries) : Source o configHome d entries
  | nothing (unselected : ∀ p, ¬ o.Selects configHome d p) : Source o configHome d []

/-- The entries are the same, or both give a text for what was asked for explicitly. -/
inductive Overrides.SameEntry (o : Overrides) : String × Toml → String × Toml → Prop
  | same (entry : String × Toml) : SameEntry o entry entry
  | baseUrl (asked : o.baseUrl ≠ none) (s s' : String) :
    SameEntry o ("base_url", .string s) ("base_url", .string s')
  | targetDir (asked : o.targetDir ≠ none) (s s' : String) :
    SameEntry o ("target_dir", .string s) ("target_dir", .string s')

variable {home p : Path} {configHome : Option Path} {d d' : Disk} {o : Overrides}
  {entries entries' : List (String × Toml)} {c c' : Config}

/-! ### The file -/

theorem Overrides.file?_eq_some_iff : o.file? configHome d = some p ↔ o.Selects configHome d p := by
  unfold Overrides.file?
  split
  · rename_i q hasked
    constructor
    · rintro ⟨⟩
      exact .explicit hasked
    · rintro (hexplicit | ⟨hnotAsked, -, -⟩)
      · rw [← hasked, hexplicit]
      · rw [hnotAsked] at hasked
        cases hasked
  · rename_i hnotAsked
    rw [Option.filter_eq_some_iff]
    constructor
    · rintro ⟨husual, hthere⟩
      exact .usual hnotAsked husual hthere
    · rintro (hexplicit | ⟨-, husual, hthere⟩)
      · rw [hexplicit] at hnotAsked
        cases hnotAsked
      · exact ⟨husual, hthere⟩

namespace Config

theorem load_of_holdsTable (h : d.HoldsTable p entries) :
    Config.load home d p = (ofEntries home entries).mapError fun fault => .toml (.shape fault) := by
  obtain ⟨text, hcontent, hread⟩ := h
  simp only [Config.load, hcontent, text?_utf8, ofText, hread]
  cases ofEntries home entries <;> rfl

theorem exists_holdsTable_of_load (h : Config.load home d p = .ok c) :
    ∃ entries, d.HoldsTable p entries := by
  unfold Config.load at h
  split at h
  · cases h
  rename_i content hcontent
  split at h
  · cases h
  rename_i hfault
  split at h
  · cases h
  rename_i text htext
  split at h
  · cases h
  rename_i said hsaid
  obtain ⟨entries, hread, -⟩ := ofText_eq_ok_iff.1 hsaid
  refine ⟨entries, text, ?_, hread⟩
  rw [hcontent, ← eq_utf8_of_text? htext, ← hfault]

theorem base_of_selects (h : o.Selects configHome d p) :
    base home configHome d o = Config.load home d p := by
  rw [base, Overrides.file?_eq_some_iff.2 h]

theorem base_of_unselected (h : ∀ p, ¬ o.Selects configHome d p) :
    base home configHome d o = .ok (default home) := by
  have hnone : o.file? configHome d = none := Option.eq_none_iff_forall_not_mem.2 fun p hp =>
    h p (Overrides.file?_eq_some_iff.1 hp)
  rw [base, hnone]

/-- What is read comes from the entries that count. -/
theorem base_of_source (h : o.Source configHome d entries) : base home configHome d o =
    (ofEntries home entries).mapError fun fault => .toml (.shape fault) := by
  cases h with
  | file hp hholds => rw [base_of_selects hp, load_of_holdsTable hholds]
  | nothing hunselected =>
    rw [base_of_unselected hunselected]
    rfl

theorem exists_source_of_base (h : base home configHome d o = .ok c) :
    ∃ entries, o.Source configHome d entries := by
  by_cases hselects : ∃ p, o.Selects configHome d p
  · obtain ⟨p, hp⟩ := hselects
    rw [base_of_selects hp] at h
    obtain ⟨entries, hholds⟩ := exists_holdsTable_of_load h
    exact ⟨entries, .file hp hholds⟩
  · exact ⟨[], .nothing (not_exists.1 hselects)⟩

/-- The entries that count have no key twice. -/
theorem distinct_of_source (h : o.Source configHome d entries) : (Toml.table entries).Distinct := by
  cases h with
  | file _ hholds =>
    obtain ⟨text, -, hread⟩ := hholds
    exact Toml.distinct_of_read? hread
  | nothing _ => exact Toml.distinct_table_iff.2 ⟨List.nodup_nil, by simp⟩

theorem base_eq_ok_iff_of_source (h : o.Source configHome d entries) :
    base home configHome d o = .ok c ↔ Says home entries c := by
  rw [base_of_source h, mapError_eq_ok_iff, ofEntries_eq_ok_iff (distinct_of_source h)]

theorem base_eq_ok_iff : base home configHome d o = .ok c ↔
    ∃ entries, o.Source configHome d entries ∧ Says home entries c := by
  constructor
  · intro h
    obtain ⟨entries, hsource⟩ := exists_source_of_base h
    exact ⟨entries, hsource, (base_eq_ok_iff_of_source hsource).1 h⟩
  · rintro ⟨entries, hsource, hsaid⟩
    exact (base_eq_ok_iff_of_source hsource).2 hsaid

/-- No configuration is read just if there is a file to be read, and it says none. -/
theorem base_eq_error_iff : (∃ e, base home configHome d o = .error e) ↔
    ∃ p, o.Selects configHome d p ∧ ¬ ∃ entries c, d.HoldsTable p entries ∧ Says home entries c := by
  constructor
  · rintro ⟨e, he⟩
    by_cases hselects : ∃ p, o.Selects configHome d p
    · obtain ⟨p, hp⟩ := hselects
      refine ⟨p, hp, ?_⟩
      rintro ⟨entries, c, hholds, hsaid⟩
      rw [(base_eq_ok_iff_of_source (.file hp hholds)).2 hsaid] at he
      cases he
    · rw [base_of_unselected (not_exists.1 hselects)] at he
      cases he
  · rintro ⟨p, hp, hsaid⟩
    rw [base_of_selects hp]
    cases hload : Config.load home d p with
    | error e => exact ⟨e, rfl⟩
    | ok c =>
      obtain ⟨entries, hholds⟩ := exists_holdsTable_of_load hload
      rw [← base_of_selects hp, base_eq_ok_iff_of_source (.file hp hholds)] at hload
      exact (hsaid ⟨entries, c, hholds, hload⟩).elim

/-! ### What was asked for -/

theorem apply_eq_iff : o.apply c = o.apply c' ↔ o.baseUrl.getD c.baseUrl = o.baseUrl.getD c'.baseUrl ∧
    o.targetDir.getD c.targetDir = o.targetDir.getD c'.targetDir ∧ c.filter = c'.filter ∧
    c.manifestTimeout = c'.manifestTimeout ∧ c.downloadTimeout = c'.downloadTimeout ∧
    c.verifyIntegrity = c'.verifyIntegrity := by
  rw [Overrides.apply, Overrides.apply, Config.mk.injEq]

/-- One more entry makes no difference where there was none. -/
theorem addKey_apply {entry entry' : String × Toml} (hentry : o.SameEntry entry entry')
    (h : o.apply c = o.apply c') : (addKey c entry).map o.apply = (addKey c' entry').map o.apply := by
  obtain ⟨hurl, hdir, hfilter, hmanifest, hdownload, hverify⟩ := apply_eq_iff.1 h
  cases hentry with
  | same =>
    unfold addKey
    split
    · exact map_map_congr fun _ => apply_eq_iff.2 ⟨rfl, hdir, hfilter, hmanifest, hdownload, hverify⟩
    · exact map_map_congr fun _ => apply_eq_iff.2 ⟨hurl, rfl, hfilter, hmanifest, hdownload, hverify⟩
    · exact map_map_congr fun _ => apply_eq_iff.2 ⟨hurl, hdir, rfl, hmanifest, hdownload, hverify⟩
    · exact map_map_congr fun _ => apply_eq_iff.2 ⟨hurl, hdir, hfilter, rfl, hdownload, hverify⟩
    · exact map_map_congr fun _ => apply_eq_iff.2 ⟨hurl, hdir, hfilter, hmanifest, rfl, hverify⟩
    · exact map_map_congr fun _ => apply_eq_iff.2 ⟨hurl, hdir, hfilter, hmanifest, hdownload, rfl⟩
    · exact congrArg Except.ok h
  | baseUrl asked s s' =>
    obtain ⟨url, hasked⟩ := Option.ne_none_iff_exists'.1 asked
    exact congrArg Except.ok (apply_eq_iff.2
      ⟨by rw [hasked]; rfl, hdir, hfilter, hmanifest, hdownload, hverify⟩)
  | targetDir asked s s' =>
    obtain ⟨dir, hasked⟩ := Option.ne_none_iff_exists'.1 asked
    exact congrArg Except.ok (apply_eq_iff.2
      ⟨hurl, by rw [hasked]; rfl, hfilter, hmanifest, hdownload, hverify⟩)

/-- Nor do all the entries, one after the other. -/
theorem foldlM_addKey_apply (hsame : List.Forall₂ o.SameEntry entries entries')
    (h : o.apply c = o.apply c') :
    (entries.foldlM addKey c).map o.apply = (entries'.foldlM addKey c').map o.apply := by
  induction hsame generalizing c c' with
  | nil => exact congrArg Except.ok h
  | cons hentry _ ih =>
    rw [List.foldlM_cons, List.foldlM_cons]
    obtain ⟨fault, hone, hother⟩ | ⟨next, next', hone, hother, hnext⟩ :=
      map_eq_map_iff.1 (addKey_apply hentry h)
    · rw [hone, hother]
      rfl
    · rw [hone, hother]
      exact ih hnext

/-- The texts given for what was asked for explicitly make no difference. -/
theorem base_apply_eq (hsource : o.Source configHome d entries)
    (hsource' : o.Source configHome d' entries')
    (hsame : List.Forall₂ o.SameEntry entries entries') :
    (base home configHome d o).map o.apply = (base home configHome d' o).map o.apply := by
  have hentries : (ofEntries home entries).map o.apply = (ofEntries home entries').map o.apply :=
    foldlM_addKey_apply hsame rfl
  rw [base_of_source hsource, base_of_source hsource', map_mapError, map_mapError, hentries]

/-! ### The configuration in effect -/

theorem resolve_of_error {e : SyncError} (h : base home configHome d o = .error e) :
    resolve home configHome d o = .error (.unreadable e) := by
  rw [resolve, h]

theorem resolve_of_ok (h : base home configHome d o = .ok c) : resolve home configHome d o =
    if Text.IsBlank (o.baseUrl.getD c.baseUrl) then .error .noServer else .ok (o.apply c) := by
  rw [resolve, h]
  rfl

theorem resolve_eq_unreadable_iff {e : SyncError} :
    resolve home configHome d o = .error (.unreadable e) ↔ base home configHome d o = .error e := by
  cases hbase : base home configHome d o with
  | error _ => simp [resolve_of_error hbase]
  | ok said =>
    rw [resolve_of_ok hbase]
    split_ifs <;> simp

theorem resolve_eq_noServer_iff : resolve home configHome d o = .error .noServer ↔
    ∃ said, base home configHome d o = .ok said ∧ Text.IsBlank (o.baseUrl.getD said.baseUrl) := by
  cases hbase : base home configHome d o with
  | error _ => simp [resolve_of_error hbase]
  | ok said =>
    rw [resolve_of_ok hbase]
    split_ifs with hblank <;> simp [hblank]

theorem resolve_eq_ok_iff : resolve home configHome d o = .ok c ↔
    ∃ said, base home configHome d o = .ok said ∧ ¬ Text.IsBlank (o.baseUrl.getD said.baseUrl) ∧
      c = o.apply said := by
  cases hbase : base home configHome d o with
  | error _ => simp [resolve_of_error hbase]
  | ok said =>
    rw [resolve_of_ok hbase]
    split_ifs with hblank <;> simp [hblank, eq_comm]

theorem resolve_congr
    (h : (base home configHome d o).map o.apply = (base home configHome d' o).map o.apply) :
    resolve home configHome d o = resolve home configHome d' o := by
  obtain ⟨e, hbase, hbase'⟩ | ⟨said, said', hbase, hbase', happly⟩ := map_eq_map_iff.1 h
  · rw [resolve_of_error hbase, resolve_of_error hbase']
  · rw [resolve_of_ok hbase, resolve_of_ok hbase', happly, (apply_eq_iff.1 happly).1]

/-- Keys that are not known, and the order of keys, do not change a configuration that is found. -/
theorem resolve_eq_ok_of_alike (hsource : o.Source configHome d entries)
    (hsource' : o.Source configHome d' entries') (halike : Alike entries entries') :
    resolve home configHome d o = .ok c ↔ resolve home configHome d' o = .ok c := by
  simp only [resolve_eq_ok_iff, base_eq_ok_iff_of_source hsource, base_eq_ok_iff_of_source hsource',
    says_congr (distinct_of_source hsource) (distinct_of_source hsource') halike]

/-- The configuration in effect.  A file that cannot be read, or that says no configuration, is an error;
otherwise it is an error that no server is named; otherwise each field is what was asked for, or what the
file says under its key, or its default.  Keys that are not known, and the order of keys, do not change
it, nor do the texts that a file gives for what was asked for. -/
theorem resolve_verdict (home : Path) (configHome : Option Path) (d : Disk) (o : Overrides) :
    ((∃ e, resolve home configHome d o = .error (.unreadable e)) ↔
      ∃ p, o.Selects configHome d p ∧
        ¬ ∃ entries said, d.HoldsTable p entries ∧ Says home entries said) ∧
    (resolve home configHome d o = .error .noServer ↔
      ∃ entries said, o.Source configHome d entries ∧ Says home entries said ∧
        Text.IsBlank (o.baseUrl.getD said.baseUrl)) ∧
    (∀ c, resolve home configHome d o = .ok c ↔
      ∃ entries said, o.Source configHome d entries ∧ Says home entries said ∧
        ¬ Text.IsBlank (o.baseUrl.getD said.baseUrl) ∧
        c = { said with
          baseUrl := o.baseUrl.getD said.baseUrl
          targetDir := o.targetDir.getD said.targetDir }) ∧
    (∀ d' entries entries', o.Source configHome d entries → o.Source configHome d' entries' →
      Alike entries entries' →
      ∀ c, resolve home configHome d o = .ok c ↔ resolve home configHome d' o = .ok c) ∧
    (∀ d' entries entries', o.Source configHome d entries → o.Source configHome d' entries' →
      List.Forall₂ o.SameEntry entries entries' →
      resolve home configHome d o = resolve home configHome d' o) := by
  refine ⟨?_, ?_, fun c => ?_, fun d' entries entries' hsource hsource' halike c => ?_,
    fun d' entries entries' hsource hsource' hsame => ?_⟩
  · simp only [resolve_eq_unreadable_iff, base_eq_error_iff]
  · simp only [resolve_eq_noServer_iff, base_eq_ok_iff]
    constructor
    · rintro ⟨said, ⟨entries, hsource, hsaid⟩, hblank⟩
      exact ⟨entries, said, hsource, hsaid, hblank⟩
    · rintro ⟨entries, said, hsource, hsaid, hblank⟩
      exact ⟨said, ⟨entries, hsource, hsaid⟩, hblank⟩
  · simp only [resolve_eq_ok_iff, base_eq_ok_iff]
    constructor
    · rintro ⟨said, ⟨entries, hsource, hsaid⟩, hnamed, rfl⟩
      exact ⟨entries, said, hsource, hsaid, hnamed, rfl⟩
    · rintro ⟨entries, said, hsource, hsaid, hnamed, rfl⟩
      exact ⟨said, ⟨entries, hsource, hsaid⟩, hnamed, rfl⟩
  · exact resolve_eq_ok_of_alike hsource hsource' halike
  · exact resolve_congr (base_apply_eq hsource hsource' hsame)

/-- A disk with one file, in which settings are kept. -/
def settingsDisk (text : String) : Disk :=
  { entries := [([utf8 "a"], .file { bytes := utf8 text })] }

/-- What is asked for: the file with the settings, and a server. -/
def settingsAsked : Overrides := { file := some (.ofText "/a"), baseUrl := some "v" }

/-- Settings that name a server and a filter. -/
def settings (server : String) : List (String × Toml) :=
  [("base_url", .string server), ("filter", .table [("suffix", .string ""), ("prefix", .string "m")])]

/-- The same settings in another order, and one that is not known. -/
def reorderedSettings (server : String) : List (String × Toml) :=
  [("x", .integer 1), ("filter", .table [("prefix", .string "m"), ("suffix", .string "")]),
    ("base_url", .string server)]

theorem source_settings {text : String} (h : Toml.read? text = some (.table entries)) :
    settingsAsked.Source configHome (settingsDisk text) entries :=
  .file (.explicit rfl) ⟨text, rfl, h⟩

theorem says_settings (server : String) : Says (.ofText "/h") (settings server)
    ⟨server, .ofText "/h/.minecraft/mods", ⟨"m", ""⟩, 5, 30, true⟩ where
  baseUrl := .given rfl
  targetDir := .missing
  filter := .given (.table ⟨.given rfl, .given rfl⟩)
  manifestTimeout := .missing
  downloadTimeout := .missing
  verifyIntegrity := .missing

theorem alike_settings (server : String) : Alike (settings server) (reorderedSettings server) where
  known := by simp [SameUnder, settings, reorderedSettings]
  filter := .inr ⟨_, _, rfl, rfl, .swap _ _ _⟩

/-- Three files that come to the same: the second has another order and a key that is not known, and the
third names another server, but that was asked for. -/
theorem resolve_verdict_settings :
    resolve (.ofText "/h") none
        (settingsDisk "base_url='s'\nfilter=\x7bsuffix='',prefix='m'\x7d") settingsAsked =
      .ok ⟨"v", .ofText "/h/.minecraft/mods", ⟨"m", ""⟩, 5, 30, true⟩ ∧
    resolve (.ofText "/h") none
        (settingsDisk "x=1\nfilter=\x7bprefix='m',suffix=''\x7d\nbase_url='s'") settingsAsked =
      .ok ⟨"v", .ofText "/h/.minecraft/mods", ⟨"m", ""⟩, 5, 30, true⟩ ∧
    resolve (.ofText "/h") none
        (settingsDisk "base_url='t'\nfilter=\x7bsuffix='',prefix='m'\x7d") settingsAsked =
      .ok ⟨"v", .ofText "/h/.minecraft/mods", ⟨"m", ""⟩, 5, 30, true⟩ := by
  have first : settingsAsked.Source none
      (settingsDisk "base_url='s'\nfilter=\x7bsuffix='',prefix='m'\x7d") (settings "s") :=
    source_settings (by decide +kernel)
  have reordered : settingsAsked.Source none
      (settingsDisk "x=1\nfilter=\x7bprefix='m',suffix=''\x7d\nbase_url='s'") (reorderedSettings "s") :=
    source_settings (by decide +kernel)
  have elsewhere : settingsAsked.Source none
      (settingsDisk "base_url='t'\nfilter=\x7bsuffix='',prefix='m'\x7d") (settings "t") :=
    source_settings (by decide +kernel)
  have hasked : settingsAsked.SameEntry ("base_url", .string "s") ("base_url", .string "t") :=
    .baseUrl (by decide) "s" "t"
  obtain ⟨-, -, hok, halike, hsame⟩ := resolve_verdict (.ofText "/h") none
    (settingsDisk "base_url='s'\nfilter=\x7bsuffix='',prefix='m'\x7d") settingsAsked
  have hfirst := (hok ⟨"v", .ofText "/h/.minecraft/mods", ⟨"m", ""⟩, 5, 30, true⟩).2
    ⟨settings "s", _, first, says_settings "s", by decide, rfl⟩
  have helsewhere := hsame _ _ _ first elsewhere (.cons hasked (.cons (.same _) .nil))
  exact ⟨hfirst, (halike _ _ _ first reordered (alike_settings "s") _).1 hfirst, helsewhere ▸ hfirst⟩

end Config

end FolderSync
