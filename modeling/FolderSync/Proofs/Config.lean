import FolderSync.Config
import FolderSync.Proofs.Lookup
import FolderSync.Proofs.Results
import FolderSync.Proofs.Toml.Keys

/-!
# What a table says of a configuration

A configuration is read key by key, in the order of the text.  What comes of it can be said without the
order: each field has the value under its own key, or its default if there is none (`Config.Says`), and
reading gives just the configurations that the table says (`ofText_eq_ok_iff`).  The order does not
matter since no key stands twice.

* `Toml.Stated`: a value, or a default.
* `Config.IsFilter`: the filter that a value stands for.
* `Config.Alike`: tables that differ only in the order of their keys and in keys that are not known.
-/

namespace FolderSync

/-! ### Values -/

namespace Toml

/-- The value is a text. -/
def IsText (v : Toml) (s : String) : Prop := v = .string s

/-- The value is the text of a path. -/
def IsPath (v : Toml) (p : Path) : Prop := ∃ s, v = .string s ∧ p = .ofText s

/-- The value is a natural number. -/
def IsNatural (v : Toml) (n : Nat) : Prop := v = .integer n

/-- The value is a truth value. -/
def IsBoolean (v : Toml) (b : Bool) : Prop := v = .boolean b

/-- What a value stands for if there is one, and otherwise a default. -/
inductive Stated (P : Toml → α → Prop) (default : α) : Option Toml → α → Prop
  | missing : Stated P default none default
  | given {v : Toml} {a : α} (h : P v a) : Stated P default (some v) a

variable {P : Toml → α → Prop} {default a : α} {v : Toml} {key : String}
  {entry : String × Toml} {rest : List (String × Toml)}

@[simp] theorem stated_none_iff : Stated P default none a ↔ a = default := by
  constructor
  · rintro (_ | _)
    rfl
  · rintro rfl
    exact .missing

@[simp] theorem stated_some_iff : Stated P default (some v) a ↔ P v a := by
  constructor
  · rintro (_ | h)
    exact h
  · exact .given

/-- One entry states the value under its own key, and no other. -/
theorem stated_single_iff {first : String} :
    Stated P default ([(first, v)].lookup key) a ↔ if first = key then P v a else a = default := by
  split_ifs with hkey
  · subst hkey
    simp
  · simp [List.lookup_cons, beq_eq_false_iff_ne.2 (Ne.symm hkey)]

/-- Beside a key that does not stand again, what comes behind is stated on top of it. -/
theorem stated_cons (hnew : entry.1 ∉ rest.map Prod.fst) :
    Stated P default ((entry :: rest).lookup key) a ↔
      ∃ between, Stated P default ([entry].lookup key) between ∧
        Stated P between (rest.lookup key) a := by
  obtain ⟨first, v⟩ := entry
  by_cases hkey : key = first
  · subst hkey
    have hrest : rest.lookup key = none := by
      rw [List.lookup_eq_none_iff]
      intro p hp
      exact bne_iff_ne.2 fun heq => hnew (List.mem_map.2 ⟨p, hp, heq.symm⟩)
    simp [hrest]
  · have hbeq : (key == first) = false := beq_eq_false_iff_ne.2 hkey
    simp [List.lookup_cons, hbeq]

/-- Entries whose keys are new are gone through one by one: a relation that says what one entry does,
and that goes through lists as a fold does, says what the fold does. -/
theorem foldlM_eq_ok_iff {σ ε : Type} {add : σ → String × Toml → Except ε σ}
    {Says : σ → List (String × Toml) → σ → Prop} (hnil : ∀ {s t}, Says s [] t ↔ t = s)
    (hcons : ∀ {s t entry rest}, entry.1 ∉ rest.map Prod.fst →
      (Says s (entry :: rest) t ↔ ∃ between, Says s [entry] between ∧ Says between rest t))
    {entries : List (String × Toml)} (hnodup : (entries.map Prod.fst).Nodup)
    (hadd : ∀ entry ∈ entries, ∀ s t, add s entry = .ok t ↔ Says s [entry] t) {s t : σ} :
    entries.foldlM add s = .ok t ↔ Says s entries t := by
  induction entries generalizing s with
  | nil =>
    rw [List.foldlM_nil, hnil]
    exact ⟨fun h => (Except.ok.inj h).symm, fun h => h ▸ rfl⟩
  | cons entry rest ih =>
    obtain ⟨hnew, hnodup⟩ := List.nodup_cons.1 hnodup
    have hrest := fun {u} => ih hnodup (fun p hp => hadd p (List.mem_cons_of_mem _ hp)) (s := u)
    simp only [List.foldlM_cons, bind_eq_ok_iff, hcons hnew, hadd entry List.mem_cons_self, hrest]

end Toml

open Toml (Stated IsText IsPath IsNatural IsBoolean)

namespace Config

variable {home : Path} {entries : List (String × Toml)} {entry : String × Toml} {v : Toml}
  {c start : Config}

theorem asText_eq_ok_iff {expected : Expected} {s : String} :
    asText expected v = .ok s ↔ v.IsText s := by
  cases v <;> simp [asText, IsText]

theorem asNatural_eq_ok_iff {n : Nat} : asNatural v = .ok n ↔ v.IsNatural n := by
  cases v with
  | integer i =>
    rw [asNatural, IsNatural, Toml.integer.injEq]
    split
    · rw [Except.ok.injEq]
      omega
    · refine ⟨fun h => (nomatch h), fun h => ?_⟩
      omega
  | _ => simp [asNatural, IsNatural]

theorem asBoolean_eq_ok_iff {b : Bool} : asBoolean v = .ok b ↔ v.IsBoolean b := by
  cases v <;> simp [asBoolean, IsBoolean]

/-! ### The filter -/

/-- The entries say the filter: each part has the value under its key, or else the one it had. -/
@[mk_iff filterSays_iff]
structure FilterSays (start : Filter) (entries : List (String × Toml)) (f : Filter) : Prop where
  opening : Stated IsText start.opening (entries.lookup "prefix") f.opening
  ending : Stated IsText start.ending (entries.lookup "suffix") f.ending

/-- The value stands for the filter: a table with its two keys, a list with its two parts in front, or
a date or a time, which has no keys. -/
inductive IsFilter : Toml → Filter → Prop
  | table {entries : List (String × Toml)} {f : Filter}
      (h : FilterSays ⟨"blockcraft-", ".jar"⟩ entries f) : IsFilter (.table entries) f
  | list {items : List Toml} {f : Filter} (opening : Stated IsText "blockcraft-" items[0]? f.opening)
      (ending : Stated IsText ".jar" items[1]? f.ending) : IsFilter (.array items) f
  | moment : IsFilter .moment ⟨"blockcraft-", ".jar"⟩

theorem isFilter_table_iff {f : Filter} :
    IsFilter (.table entries) f ↔ FilterSays ⟨"blockcraft-", ".jar"⟩ entries f :=
  ⟨fun | .table h => h, .table⟩

theorem isFilter_array_iff {items : List Toml} {f : Filter} : IsFilter (.array items) f ↔
    Stated IsText "blockcraft-" items[0]? f.opening ∧ Stated IsText ".jar" items[1]? f.ending :=
  ⟨fun | .list opening ending => ⟨opening, ending⟩, fun ⟨opening, ending⟩ => .list opening ending⟩

theorem filterSays_nil {start f : Filter} : FilterSays start [] f ↔ f = start := by
  obtain ⟨opening, ending⟩ := f
  obtain ⟨opening', ending'⟩ := start
  simp [filterSays_iff]

theorem filterSays_cons {start f : Filter} {rest : List (String × Toml)}
    (hnew : entry.1 ∉ rest.map Prod.fst) : FilterSays start (entry :: rest) f ↔
      ∃ between, FilterSays start [entry] between ∧ FilterSays between rest f := by
  simp only [filterSays_iff, Toml.stated_cons hnew]
  constructor
  · rintro ⟨⟨opening, h₁, h₁'⟩, ending, h₂, h₂'⟩
    exact ⟨⟨opening, ending⟩, ⟨h₁, h₂⟩, h₁', h₂'⟩
  · rintro ⟨between, ⟨h₁, h₂⟩, h₁', h₂'⟩
    exact ⟨⟨_, h₁, h₁'⟩, _, h₂, h₂'⟩

theorem addFilterKey_eq_ok_iff {start f : Filter} :
    addFilterKey start entry = .ok f ↔ FilterSays start [entry] f := by
  obtain ⟨key, v⟩ := entry
  obtain ⟨opening, ending⟩ := f
  obtain ⟨opening', ending'⟩ := start
  simp only [filterSays_iff, Toml.stated_single_iff]
  by_cases hopening : key = "prefix"
  · simp only [addFilterKey, hopening, reduceIte, String.reduceEq, map_eq_ok_iff, asText_eq_ok_iff]
    grind
  by_cases hending : key = "suffix"
  · simp only [addFilterKey, hending, reduceIte, String.reduceEq, map_eq_ok_iff, asText_eq_ok_iff]
    grind
  · simp only [addFilterKey, hopening, hending, reduceIte]
    grind

theorem asFilter_eq_ok_iff {f : Filter} (hv : v.Distinct) : asFilter v = .ok f ↔ IsFilter v f := by
  cases v with
  | table entries =>
    obtain ⟨hnodup, -⟩ := Toml.distinct_table_iff.1 hv
    rw [isFilter_table_iff]
    exact Toml.foldlM_eq_ok_iff filterSays_nil filterSays_cons hnodup fun _ _ _ _ =>
      addFilterKey_eq_ok_iff
  | array items =>
    obtain ⟨opening, ending⟩ := f
    rw [isFilter_array_iff]
    match items with
    | [] => simp [asFilter, pure, Except.pure, eq_comm]
    | [_] =>
      simp only [asFilter, bind_eq_ok_iff, asText_eq_ok_iff, pure, Except.pure, Except.ok.injEq,
        Filter.mk.injEq, List.getElem?_cons_zero, List.getElem?_cons_succ, List.getElem?_nil,
        Toml.stated_some_iff, Toml.stated_none_iff]
      grind
    | _ :: _ :: _ =>
      simp only [asFilter, bind_eq_ok_iff, asText_eq_ok_iff, pure, Except.pure, Except.ok.injEq,
        Filter.mk.injEq, List.getElem?_cons_zero, List.getElem?_cons_succ, Toml.stated_some_iff]
      grind
  | moment => exact ⟨fun h => Except.ok.inj h ▸ .moment, fun | .moment => rfl⟩
  | _ => exact ⟨fun h => (nomatch h), fun h => (nomatch h)⟩

/-! ### The configuration -/

/-- The entries say the configuration: each field has the value under its key, or else the one it had. -/
@[mk_iff saysFrom_iff]
structure SaysFrom (start : Config) (entries : List (String × Toml)) (c : Config) : Prop where
  baseUrl : Stated IsText start.baseUrl (entries.lookup "base_url") c.baseUrl
  targetDir : Stated IsPath start.targetDir (entries.lookup "target_dir") c.targetDir
  filter : Stated IsFilter start.filter (entries.lookup "filter") c.filter
  manifestTimeout :
    Stated IsNatural start.manifestTimeout (entries.lookup "manifest_timeout_secs") c.manifestTimeout
  downloadTimeout :
    Stated IsNatural start.downloadTimeout (entries.lookup "download_timeout_secs") c.downloadTimeout
  verifyIntegrity :
    Stated IsBoolean start.verifyIntegrity (entries.lookup "verify_integrity") c.verifyIntegrity

/-- The table says the configuration: each field has the value under its key, or else its default. -/
def Says (home : Path) (entries : List (String × Toml)) (c : Config) : Prop :=
  SaysFrom ⟨"", (home.join ".minecraft").join "mods", ⟨"blockcraft-", ".jar"⟩, 5, 30, true⟩ entries c

theorem saysFrom_nil : SaysFrom start [] c ↔ c = start := by
  cases c
  cases start
  simp [saysFrom_iff]

theorem saysFrom_cons {rest : List (String × Toml)} (hnew : entry.1 ∉ rest.map Prod.fst) :
    SaysFrom start (entry :: rest) c ↔
      ∃ between, SaysFrom start [entry] between ∧ SaysFrom between rest c := by
  simp only [saysFrom_iff, Toml.stated_cons hnew]
  constructor
  · rintro ⟨⟨_, h₁, h₁'⟩, ⟨_, h₂, h₂'⟩, ⟨_, h₃, h₃'⟩, ⟨_, h₄, h₄'⟩, ⟨_, h₅, h₅'⟩, _, h₆, h₆'⟩
    exact ⟨⟨_, _, _, _, _, _⟩, ⟨h₁, h₂, h₃, h₄, h₅, h₆⟩, h₁', h₂', h₃', h₄', h₅', h₆'⟩
  · rintro ⟨between, ⟨h₁, h₂, h₃, h₄, h₅, h₆⟩, h₁', h₂', h₃', h₄', h₅', h₆'⟩
    exact ⟨⟨_, h₁, h₁'⟩, ⟨_, h₂, h₂'⟩, ⟨_, h₃, h₃'⟩, ⟨_, h₄, h₄'⟩, ⟨_, h₅, h₅'⟩, _, h₆, h₆'⟩

theorem addKey_eq_ok_iff (hv : entry.2.Distinct) :
    addKey start entry = .ok c ↔ SaysFrom start [entry] c := by
  obtain ⟨key, v⟩ := entry
  cases c
  cases start
  simp only [saysFrom_iff, Toml.stated_single_iff]
  simp only [addKey]
  split
  · simp only [map_eq_ok_iff, asText_eq_ok_iff, String.reduceEq, reduceIte]
    grind
  · simp only [map_eq_ok_iff, asText_eq_ok_iff, String.reduceEq, reduceIte, IsPath, IsText]
    grind
  · simp only [map_eq_ok_iff, asFilter_eq_ok_iff hv, String.reduceEq, reduceIte]
    grind
  · simp only [map_eq_ok_iff, asNatural_eq_ok_iff, String.reduceEq, reduceIte]
    grind
  · simp only [map_eq_ok_iff, asNatural_eq_ok_iff, String.reduceEq, reduceIte]
    grind
  · simp only [map_eq_ok_iff, asBoolean_eq_ok_iff, String.reduceEq, reduceIte]
    grind
  · grind

theorem ofEntries_eq_ok_iff (hentries : (Toml.table entries).Distinct) :
    ofEntries home entries = .ok c ↔ Says home entries c := by
  obtain ⟨hnodup, hvalues⟩ := Toml.distinct_table_iff.1 hentries
  exact Toml.foldlM_eq_ok_iff saysFrom_nil saysFrom_cons hnodup fun entry hentry _ _ =>
    addKey_eq_ok_iff (hvalues entry hentry)

theorem ofText_eq_ok_iff {text : String} : ofText home text = .ok c ↔
    ∃ entries, Toml.read? text = some (.table entries) ∧ Says home entries c := by
  unfold ofText
  split
  · rename_i entries hread
    have hdistinct := Toml.distinct_of_read? hread
    simp only [hread, Option.some.injEq, Toml.table.injEq, ← ofEntries_eq_ok_iff hdistinct,
      exists_eq_left']
    cases ofEntries home entries <;> simp
  · rename_i hother
    exact ⟨fun h => (nomatch h), fun ⟨entries, hread, _⟩ => (hother entries hread).elim⟩

/-! ### Tables that say the same -/

/-- The tables differ only in the order of their keys, and in keys that are not known; and so do the
tables that they hold for the filter. -/
structure Alike (entries entries' : List (String × Toml)) : Prop where
  known : SameUnder ["base_url", "target_dir", "manifest_timeout_secs", "download_timeout_secs",
    "verify_integrity"] entries entries'
  filter : entries.lookup "filter" = entries'.lookup "filter" ∨
    ∃ parts parts', entries.lookup "filter" = some (.table parts) ∧
      entries'.lookup "filter" = some (.table parts') ∧ SameUnder ["prefix", "suffix"] parts parts'

theorem filterSays_congr {parts parts' : List (String × Toml)} {start f : Filter}
    (hsame : SameUnder ["prefix", "suffix"] parts parts') (hnodup : (parts.map Prod.fst).Nodup)
    (hnodup' : (parts'.map Prod.fst).Nodup) : FilterSays start parts f ↔ FilterSays start parts' f := by
  rw [filterSays_iff, filterSays_iff, hsame.lookup_eq "prefix" (by simp) hnodup hnodup',
    hsame.lookup_eq "suffix" (by simp) hnodup hnodup']

/-- Tables that are alike state the filter alike. -/
theorem Alike.stated_filter_iff {entries' : List (String × Toml)} {start f : Filter}
    (hentries : (Toml.table entries).Distinct) (hentries' : (Toml.table entries').Distinct)
    (h : Alike entries entries') : Stated IsFilter start (entries.lookup "filter") f ↔
      Stated IsFilter start (entries'.lookup "filter") f := by
  obtain heq | ⟨parts, parts', hparts, hparts', hsame⟩ := h.filter
  · rw [heq]
  · have hdistinct := (Toml.distinct_table_iff.1 hentries).2 _ (mem_of_lookup hparts)
    have hdistinct' := (Toml.distinct_table_iff.1 hentries').2 _ (mem_of_lookup hparts')
    obtain ⟨hnodup, -⟩ := Toml.distinct_table_iff.1 hdistinct
    obtain ⟨hnodup', -⟩ := Toml.distinct_table_iff.1 hdistinct'
    rw [hparts, hparts', Toml.stated_some_iff, Toml.stated_some_iff, isFilter_table_iff,
      isFilter_table_iff, filterSays_congr hsame hnodup hnodup']

/-- Tables that are alike say the same configurations. -/
theorem says_congr {entries' : List (String × Toml)} (hentries : (Toml.table entries).Distinct)
    (hentries' : (Toml.table entries').Distinct) (h : Alike entries entries') :
    Says home entries c ↔ Says home entries' c := by
  obtain ⟨hnodup, -⟩ := Toml.distinct_table_iff.1 hentries
  obtain ⟨hnodup', -⟩ := Toml.distinct_table_iff.1 hentries'
  have hlookup (key : String) hkey := h.known.lookup_eq key hkey hnodup hnodup'
  rw [Says, Says, saysFrom_iff, saysFrom_iff, h.stated_filter_iff hentries hentries',
    hlookup "base_url" (by simp), hlookup "target_dir" (by simp),
    hlookup "manifest_timeout_secs" (by simp),
    hlookup "download_timeout_secs" (by simp), hlookup "verify_integrity" (by simp)]

end Config

end FolderSync
