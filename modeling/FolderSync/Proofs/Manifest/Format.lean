import FolderSync.Manifest
import FolderSync.Proofs.Hashing.Canonical
import FolderSync.Proofs.Json.Reading
import FolderSync.Proofs.Results

/-!
# The format of manifests

`Manifest.Holds` says which bodies hold a manifest, and with which entries: a JSON object that
reports success and lists entries (`Listing.IsSent`), each of which names a file, a hash and an
address of the web (`Listing.Sound`), no two with one name.  `Listing.Means` says which descriptor
an entry stands for.  Reading a body accepts just these (`Manifest.ofBytes_eq_ok_iff`).
-/

namespace FolderSync

/-! ### Values that may be missing -/

namespace Json

/-- The value is a text. -/
def IsText (v : Json) (s : String) : Prop := v = .string s

/-- The value is a natural number of 64 bits. -/
def IsNatural (v : Json) (n : Nat) : Prop := v = .integer n ∧ n ≤ maxNatural

/-- A value that may be missing, or null instead. -/
inductive Maybe (P : Json → α → Prop) : Option Json → Option α → Prop
  | missing : Maybe P none none
  | null : Maybe P (some .null) none
  | given {v : Json} {a : α} (given : P v a) : Maybe P (some v) (some a)

theorem not_isText_null (s : String) : ¬ IsText .null s := by simp [IsText]

theorem not_isNatural_null (n : Nat) : ¬ IsNatural .null n := by simp [IsNatural]

variable {v : Json} {depth : Nat} {name : String} {fields : List (String × Json)}
  {read : Json → Except ShapeFault α} {P : Json → α → Prop}

theorem asText_eq_ok_iff {s : String} : asText v = .ok s ↔ v.IsText s := by
  cases v <;> simp [asText, IsText]

theorem asNatural_eq_ok_iff (hv : Regular Set.univ depth v) {n : Nat} :
    asNatural v = .ok n ↔ v.IsNatural n := by
  cases hv with
  | integer fits =>
    rename_i i
    rw [asNatural, IsNatural, Json.integer.injEq]
    split
    · have hmax := fits.2
      rw [Except.ok.injEq]
      omega
    · refine ⟨fun h => (nomatch h), fun h => ?_⟩
      omega
  | _ => simp [asNatural, IsNatural]

/-- A reader of values reads those that may be null. -/
theorem asOptional_eq_ok_iff (hread : ∀ a, read v = .ok a ↔ P v a) (hnull : ∀ a, ¬ P .null a)
    {result : Option α} : asOptional read v = .ok result ↔ Maybe P (some v) result := by
  by_cases hv : v = .null
  · subst hv
    rw [asOptional, Except.ok.injEq]
    constructor
    · rintro rfl
      exact .null
    · rintro (_ | _ | h)
      · rfl
      · exact absurd h (hnull _)
  · have heq : asOptional read v = (read v).map some := by
      cases v <;> first | exact absurd rfl hv | rfl
    rw [heq, map_eq_ok_iff]
    constructor
    · rintro ⟨a, ha, rfl⟩
      exact .given ((hread a).1 ha)
    · rintro (_ | _ | h)
      · exact absurd rfl hv
      · exact ⟨_, (hread _).2 h, rfl⟩

theorem fieldOf_eq_some_iff {a : α} :
    fieldOf read fields name = .ok (some a) ↔ ∃ v, valueOf? name fields = some v ∧ read v = .ok a := by
  unfold fieldOf
  cases valueOf? name fields with
  | none => simp
  | some v => simp [map_eq_ok_iff]

/-- A field that may be missing is read with the values that may be null. -/
theorem fieldOf_asOptional_iff
    (hread : ∀ v, valueOf? name fields = some v → ∀ a, read v = .ok a ↔ P v a)
    (hnull : ∀ a, ¬ P .null a) {result : Option α} :
    (∃ found, fieldOf (asOptional read) fields name = .ok found ∧ found.join = result) ↔
      Maybe P (valueOf? name fields) result := by
  unfold fieldOf
  cases hvalue : valueOf? name fields with
  | none =>
    constructor
    · rintro ⟨found, h, rfl⟩
      cases h
      exact .missing
    · rintro (_ | _ | _)
      exact ⟨none, rfl, rfl⟩
  | some v =>
    simp only [map_eq_ok_iff, asOptional_eq_ok_iff (hread v hvalue) hnull]
    constructor
    · rintro ⟨_, ⟨found, h, rfl⟩, rfl⟩
      exact h
    · exact fun h => ⟨_, ⟨result, h, rfl⟩, rfl⟩

/-- The parts of a regular value are regular. -/
theorem Regular.field? {floats : Set Binary64} {value : Json} (h : Regular floats depth value)
    (hfield : value.field? name = some v) : ∃ inner, Regular floats inner v := by
  cases h with
  | object _ regular => exact ⟨_, regular _ (mem_of_valueOf?_eq hfield)⟩
  | _ => cases hfield

theorem Regular.items {floats : Set Binary64} {items : List Json}
    (h : Regular floats depth (.array items)) :
    ∃ inner, ∀ item ∈ items, Regular floats inner item := by
  cases h with
  | array regular => exact ⟨_, regular⟩

end Json

/-! ### Entries -/

theorem required_eq_ok_iff {name : String} {found : Option α} {a : α} :
    required name found = .ok a ↔ found = some a := by
  cases found <;> simp [required]

namespace Listing

open Json (Maybe IsText IsNatural Regular)

/-- The entry is sent in this value: as an object with its fields, others besides, or as a list of
three to five items. -/
inductive IsSent (l : Listing) : Json → Prop
  | object {fields : List (String × Json)}
      (filename : valueOf? "filename" fields = some (.string l.filename))
      (sha1 : valueOf? "sha1" fields = some (.string l.sha1))
      (url : valueOf? "download_url" fields = some (.string l.url))
      (size : Maybe IsNatural (valueOf? "size" fields) l.size)
      (project : Maybe IsText (valueOf? "project_name" fields) l.project) : IsSent l (.object fields)
  | list {more : List Json} (size : Maybe IsNatural more[0]? l.size)
      (project : Maybe IsText more[1]? l.project) (length_le : more.length ≤ 2) :
      IsSent l (.array (.string l.filename :: .string l.sha1 :: .string l.url :: more))

/-- The texts of the entry are those of a descriptor: a plain name, forty hexadecimal digits, and an
absolute address of the web. -/
structure Sound (l : Listing) : Prop where
  plain : nameFault? l.filename = none
  length_sha1 : l.sha1.toList.length = 40
  isHexDigit_sha1 : ∀ c ∈ l.sha1.toList, isHexDigit c = true
  isHttp_url : ∃ url, Url.parse l.url = .ok url ∧ url.IsHttp

/-- The entry stands for the descriptor: the hash in lower case, the address in its usual form. -/
structure Means (l : Listing) (d : Descriptor) : Prop where
  filename : d.filename = l.filename
  hash : d.hash.hex = String.ofList (l.sha1.toList.map Char.toLower)
  url : Url.parse l.url = .ok d.url
  size : d.size = l.size
  project : d.project = l.project

variable {l : Listing} {depth : Nat}

theorem ofFields_eq_ok_iff {fields : List (String × Json)}
    (hfields : ∀ p ∈ fields, Regular Set.univ depth p.2) :
    ofFields fields = .ok l ↔ l.IsSent (.object fields) := by
  have hproject : (∃ found, Json.fieldOf (Json.asOptional Json.asText) fields "project_name" = .ok found ∧
      found.join = l.project) ↔ Maybe IsText (valueOf? "project_name" fields) l.project :=
    Json.fieldOf_asOptional_iff (P := IsText) (fun _ _ _ => Json.asText_eq_ok_iff) Json.not_isText_null
  have hsize : (∃ found, Json.fieldOf (Json.asOptional Json.asNatural) fields "size" = .ok found ∧
      found.join = l.size) ↔ Maybe IsNatural (valueOf? "size" fields) l.size :=
    Json.fieldOf_asOptional_iff (P := IsNatural) (fun v hv _ => Json.asNatural_eq_ok_iff (hfields _ (mem_of_valueOf?_eq hv)))
      Json.not_isNatural_null
  simp only [ofFields, bind_eq_ok_iff, required_eq_ok_iff]
  constructor
  · rintro ⟨_, hurl, _, hname, project, hp, _, hsha1, size, hs, name, rfl, sha1, rfl, url, rfl, h⟩
    obtain rfl := (Except.ok.inj h).symm
    simp only [Json.fieldOf_eq_some_iff, Json.asText_eq_ok_iff, IsText, exists_eq_right] at hurl hname hsha1
    exact .object hname hsha1 hurl (hsize.1 ⟨size, hs, rfl⟩) (hproject.1 ⟨project, hp, rfl⟩)
  · rintro (⟨hname, hsha1, hurl, hs, hp⟩)
    obtain ⟨size, hs, hsize⟩ := hsize.2 hs
    obtain ⟨project, hp, hproject⟩ := hproject.2 hp
    refine ⟨some l.url, ?_, some l.filename, ?_, project, hp, some l.sha1, ?_, size, hs, _, rfl, _, rfl,
      _, rfl, ?_⟩
    iterate 3 · exact Json.fieldOf_eq_some_iff.2 ⟨_, ‹_›, rfl⟩
    rw [hsize, hproject]
    rfl

theorem ofItems_eq_ok_iff {items : List Json} (hitems : ∀ item ∈ items, Regular Set.univ depth item) :
    ofItems items = .ok l ↔ l.IsSent (.array items) := by
  have htext : ∀ v s, Json.asOptional Json.asText v = .ok s ↔ Maybe IsText (some v) s :=
    fun v s => Json.asOptional_eq_ok_iff (P := IsText) (fun _ => Json.asText_eq_ok_iff)
      Json.not_isText_null
  have hnatural : ∀ v ∈ items, ∀ n, (Json.asOptional Json.asNatural v = .ok n ↔
      Maybe IsNatural (some v) n) := fun v hv n =>
    Json.asOptional_eq_ok_iff (P := IsNatural) (fun _ => Json.asNatural_eq_ok_iff (hitems v hv))
      Json.not_isNatural_null
  constructor
  · intro h
    match items, h with
    | [], h => cases h
    | [name], h =>
      obtain ⟨_, _, h⟩ := bind_eq_ok_iff.1 h
      cases h
    | [name, hash], h =>
      simp only [ofItems, bind_eq_ok_iff] at h
      obtain ⟨_, _, _, _, h⟩ := h
      cases h
    | [name, hash, address], h =>
      simp only [ofItems, bind_eq_ok_iff, Json.asText_eq_ok_iff] at h
      obtain ⟨_, rfl, _, rfl, _, rfl, h⟩ := h
      cases h
      exact .list .missing .missing (by simp)
    | [name, hash, address, number], h =>
      simp only [ofItems, bind_eq_ok_iff, Json.asText_eq_ok_iff] at h
      obtain ⟨_, rfl, _, rfl, _, rfl, size, hsize, h⟩ := h
      cases h
      exact .list ((hnatural number (by simp) size).1 hsize) .missing (by simp)
    | [name, hash, address, number, title], h =>
      simp only [ofItems, bind_eq_ok_iff, Json.asText_eq_ok_iff] at h
      obtain ⟨_, rfl, _, rfl, _, rfl, size, hsize, project, hproject, h⟩ := h
      cases h
      exact .list ((hnatural number (by simp) size).1 hsize) ((htext title project).1 hproject) (by simp)
    | name :: hash :: address :: number :: title :: _ :: _, h =>
      simp only [ofItems, bind_eq_ok_iff] at h
      obtain ⟨_, _, _, _, _, _, _, _, _, _, h⟩ := h
      cases h
  · rintro (_ | @⟨more, hsize, hproject, hlength⟩)
    simp only [ofItems, bind_eq_ok_iff, Json.asText_eq_ok_iff]
    refine ⟨_, rfl, _, rfl, _, rfl, ?_⟩
    match more, hlength with
    | [], _ =>
      obtain ⟨filename, sha1, url, size, project⟩ := l
      cases hsize
      cases hproject
      rfl
    | [number], _ =>
      obtain ⟨filename, sha1, url, size, project⟩ := l
      cases hproject
      exact bind_eq_ok_iff.2 ⟨size, (hnatural number (by simp) size).2 hsize, rfl⟩
    | [number, title], _ =>
      refine bind_eq_ok_iff.2 ⟨l.size, (hnatural number (by simp) l.size).2 hsize, ?_⟩
      exact bind_eq_ok_iff.2 ⟨l.project, (htext title l.project).2 hproject, rfl⟩

theorem ofJson_eq_ok_iff {v : Json} (hv : Regular Set.univ depth v) :
    ofJson v = .ok l ↔ l.IsSent v := by
  cases hv with
  | array items => exact ofItems_eq_ok_iff items
  | object _ fields => exact ofFields_eq_ok_iff fields
  | _ => exact ⟨fun h => (nomatch h), fun h => (nomatch h)⟩

/-! ### Descriptors -/

theorem ofText_eq_ok_iff {text : String} {name : ArtifactName} :
    ArtifactName.ofText text = .ok name ↔ nameFault? text = none ∧ name.text = text := by
  unfold ArtifactName.ofText
  split
  · rename_i h
    rw [Except.ok.injEq, ArtifactName.ext_iff, eq_comm]
    exact ⟨fun heq => ⟨h, heq⟩, fun heq => heq.2⟩
  · rename_i h
    exact ⟨fun hnone => (by cases hnone), fun heq => absurd heq.1 (by rw [h]; simp)⟩

/-- **An entry has the descriptor that it stands for, if its texts are sound.** -/
theorem descriptor_eq_ok_iff {d : Descriptor} : l.descriptor = .ok d ↔ l.Sound ∧ l.Means d := by
  unfold descriptor
  rw [bind_eq_ok_iff]
  constructor
  · rintro ⟨made, hmade, h⟩
    obtain rfl := (Except.ok.inj h).symm
    unfold Descriptor.of at hmade
    split at hmade
    · cases hmade
    rename_i name hname
    split at hmade
    · cases hmade
    rename_i hash hhash
    split at hmade
    · cases hmade
    rename_i url hurl
    split at hmade
    · rename_i hhttp
      cases hmade
      obtain ⟨hplain, htext⟩ := ofText_eq_ok_iff.1 hname
      obtain ⟨⟨hlength, hdigits⟩, hhex⟩ := ContentHash.parse?_eq_some_iff.1 hhash
      exact ⟨⟨hplain, hlength, hdigits, url, hurl, hhttp⟩, ⟨htext, hhex, hurl, rfl, rfl⟩⟩
    · cases hmade
  · rintro ⟨hsound, hmeans⟩
    have hname : ArtifactName.ofText l.filename = .ok d.name :=
      ofText_eq_ok_iff.2 ⟨hsound.plain, hmeans.filename⟩
    have hhash : ContentHash.parse? l.sha1 = some d.hash :=
      ContentHash.parse?_eq_some_iff.2 ⟨⟨hsound.length_sha1, hsound.isHexDigit_sha1⟩, hmeans.hash⟩
    refine ⟨{ d with size := none, project := none }, ?_, ?_⟩
    · unfold Descriptor.of
      simp only [hname, hhash, hmeans.url, d.isHttp_url, dif_pos]
    · rw [← hmeans.size, ← hmeans.project]
      rfl

theorem exists_means (h : l.Sound) : ∃ d, l.Means d := by
  obtain ⟨url, hurl, hhttp⟩ := h.isHttp_url
  let digits := l.sha1.toList.map Char.toLower
  have hlower : ∀ c ∈ digits, isLowerHex c = true := by
    intro c hc
    obtain ⟨digit, hdigit, rfl⟩ := List.mem_map.1 hc
    exact isLowerHex_toLower (h.isHexDigit_sha1 digit hdigit)
  have hlength : digits.length = 40 := by rw [List.length_map, h.length_sha1]
  let hash : ContentHash := ⟨String.ofList digits, by rwa [String.toList_ofList],
    by rwa [String.toList_ofList]⟩
  exact ⟨⟨⟨l.filename, h.plain⟩, hash, url, hhttp, l.size, l.project⟩, rfl, rfl, hurl, rfl, rfl⟩

/-- An entry stands for one descriptor only. -/
theorem Means.unique {d e : Descriptor} (hd : l.Means d) (he : l.Means e) : d = e := by
  obtain ⟨name, hash, url, isHttp, size, project⟩ := d
  obtain ⟨name', hash', url', isHttp', size', project'⟩ := e
  obtain rfl : name = name' := ArtifactName.ext (hd.filename.trans he.filename.symm)
  obtain rfl : hash = hash' := ContentHash.ext (hd.hash.trans he.hash.symm)
  obtain rfl : url = url' := Except.ok.inj (hd.url.symm.trans he.url)
  obtain rfl : size = size' := hd.size.trans he.size.symm
  obtain rfl : project = project' := hd.project.trans he.project.symm
  rfl

end Listing

/-! ### Manifests -/

namespace Manifest

open Json (Regular)

/-- The value is a manifest with these entries. -/
structure IsWritten (value : Json) (listings : List Listing) : Prop where
  success : value.field? "success" = some (.boolean true)
  sent : ∃ items, value.field? "mods" = some (.array items) ∧
    List.Forall₂ (fun item l => l.IsSent item) items listings
  sound : ∀ l ∈ listings, l.Sound
  nodup : (listings.map Listing.filename).Nodup

/-- The body of a message holds a manifest with these entries. -/
def Holds (body : Bytes) (listings : List Listing) : Prop :=
  ∃ value, Json.read body = .ok value ∧ IsWritten value listings

theorem repeated?_eq_none_iff {seen names : List String} :
    repeated? seen names = none ↔ names.Nodup ∧ ∀ name ∈ names, name ∉ seen := by
  refine ⟨repeated?_eq_none, fun ⟨hnodup, hout⟩ => ?_⟩
  induction names generalizing seen with
  | nil => rfl
  | cons name rest ih =>
    obtain ⟨hname, hrest⟩ := List.nodup_cons.1 hnodup
    rw [repeated?, if_neg (hout name List.mem_cons_self)]
    have hrest' : ∀ other ∈ rest, other ∉ name :: seen := by
      intro other hother hmem
      rcases List.mem_cons.1 hmem with rfl | hmem
      · exact hname hother
      · exact hout other (List.mem_cons_of_mem _ hother) hmem
    exact ih ⟨hrest, hrest'⟩ hrest hrest'

theorem ofArtifacts_eq_ok_iff {ds : List Descriptor} {m : Manifest} :
    ofArtifacts ds = .ok m ↔ m.artifacts = ds := by
  unfold ofArtifacts
  split
  · constructor
    · intro h
      cases h
      rfl
    · rintro rfl
      rfl
  · rename_i name hrepeated
    constructor
    · intro h
      cases h
    · rintro rfl
      have hnone := repeated?_eq_none_iff.2 ⟨m.nodup_names, fun name _ => List.not_mem_nil⟩
      rw [hnone] at hrepeated
      cases hrepeated

theorem entries_eq_ok_iff {value : Json} {depth : Nat} (hvalue : Regular Set.univ depth value)
    {listings : List Listing} : entries value = .ok listings ↔
      ∃ items, value.field? "mods" = some (.array items) ∧
        List.Forall₂ (fun item l => l.IsSent item) items listings := by
  have hitems : ∀ items, value.field? "mods" = some (.array items) →
      (items.mapM Listing.ofJson = .ok listings ↔
        List.Forall₂ (fun item l => l.IsSent item) items listings) := by
    intro items hmods
    obtain ⟨_, hregular⟩ := hvalue.field? hmods
    obtain ⟨_, hregular⟩ := hregular.items
    rw [mapM_eq_ok_iff, List.forall₂_iff_zip, List.forall₂_iff_zip]
    refine and_congr_right fun _ => forall₃_congr fun item l hmem => ?_
    exact Listing.ofJson_eq_ok_iff (hregular item (List.of_mem_zip hmem).1)
  unfold entries
  split
  · rename_i hmods
    simp [hmods]
  · rename_i items hmods
    simp only [hmods, Option.some.injEq, Json.array.injEq, exists_eq_left', hitems items hmods]
  · rename_i v hne hmods
    constructor
    · intro h
      cases h
    · rintro ⟨items, h, -⟩
      rw [hmods] at h
      exact absurd (Option.some.inj h) (hne items)

/-- The names of entries and of the descriptors that they stand for are the same. -/
theorem map_filename_of_means {listings : List Listing} {ds : List Descriptor}
    (h : List.Forall₂ Listing.Means listings ds) :
    ds.map Descriptor.filename = listings.map Listing.filename := by
  induction h with
  | nil => rfl
  | cons hmeans _ ih => rw [List.map_cons, List.map_cons, hmeans.filename, ih]

theorem ofJson_eq_ok_iff {value : Json} {depth : Nat} (hvalue : Regular Set.univ depth value)
    {m : Manifest} : ofJson value = .ok m ↔
      ∃ listings, IsWritten value listings ∧ List.Forall₂ Listing.Means listings m.artifacts := by
  have hdescriptors : ∀ listings ds, listings.mapM Listing.descriptor = .ok ds ↔
      (∀ l ∈ listings, l.Sound) ∧ List.Forall₂ Listing.Means listings ds := by
    intro listings ds
    simp only [mapM_eq_ok_iff, Listing.descriptor_eq_ok_iff, List.forall₂_and_left]
  constructor
  · intro h
    unfold ofJson at h
    split at h
    · cases h
    · cases h
    rename_i hsuccess
    split at h
    · cases h
    rename_i listings hentries
    split at h
    · cases h
    rename_i ds hds
    obtain rfl := ofArtifacts_eq_ok_iff.1 h
    obtain ⟨hsound, hmeans⟩ := (hdescriptors _ _).1 hds
    refine ⟨listings, ⟨?_, (entries_eq_ok_iff hvalue).1 hentries, hsound, ?_⟩, hmeans⟩
    · obtain ⟨flag, hflag, htrue⟩ := Option.bind_eq_some_iff.1 hsuccess
      cases flag with
      | boolean b =>
        cases htrue
        exact hflag
      | _ => cases htrue
    · rw [← map_filename_of_means hmeans]
      exact m.nodup_names
  · rintro ⟨listings, hwritten, hmeans⟩
    have hentries := (entries_eq_ok_iff hvalue).2 hwritten.sent
    have hds := (hdescriptors _ _).2 ⟨hwritten.sound, hmeans⟩
    unfold ofJson
    simp only [hwritten.success, Option.bind_some, Json.boolean?, hentries, hds]
    exact ofArtifacts_eq_ok_iff.2 rfl

/-- **A body is read as the manifest that it holds.** -/
theorem ofBytes_eq_ok_iff {body : Bytes} {m : Manifest} : ofBytes body = .ok m ↔
    ∃ listings, Holds body listings ∧ List.Forall₂ Listing.Means listings m.artifacts := by
  unfold ofBytes Holds
  cases hread : Json.read body with
  | error fault => simp
  | ok value =>
    have hvalue := ofJson_eq_ok_iff (m := m) (Json.regular_of_read hread)
    simp only [Except.ok.injEq, exists_eq_left']
    rw [← hvalue]
    cases ofJson value <;> simp

/-- What a body holds is a manifest. -/
theorem exists_ofBytes_eq_ok {body : Bytes} {listings : List Listing} (h : Holds body listings) :
    ∃ m, ofBytes body = .ok m := by
  have hmeans : ∀ listings : List Listing, (∀ l ∈ listings, l.Sound) →
      ∃ ds, List.Forall₂ Listing.Means listings ds := by
    intro listings hsound
    induction listings with
    | nil => exact ⟨[], .nil⟩
    | cons l rest ih =>
      obtain ⟨d, hd⟩ := Listing.exists_means (hsound l List.mem_cons_self)
      obtain ⟨ds, hds⟩ := ih fun other hother => hsound other (List.mem_cons_of_mem _ hother)
      exact ⟨d :: ds, .cons hd hds⟩
  obtain ⟨value, hread, hwritten⟩ := h
  obtain ⟨ds, hds⟩ := hmeans listings hwritten.sound
  have hnodup : (ds.map Descriptor.filename).Nodup := by
    rw [map_filename_of_means hds]
    exact hwritten.nodup
  exact ⟨⟨ds, hnodup⟩, ofBytes_eq_ok_iff.2 ⟨listings, ⟨value, hread, hwritten⟩, hds⟩⟩

/-- A body is rejected if it is a JSON text that holds no manifest. -/
theorem exists_ofBytes_eq_rejected_iff {body : Bytes} :
    (∃ fault, ofBytes body = .error (.rejected fault)) ↔
      (∃ value, Json.read body = .ok value) ∧ ¬ ∃ listings, Holds body listings := by
  constructor
  · rintro ⟨fault, h⟩
    constructor
    · unfold ofBytes at h
      split at h
      · cases h
      · rename_i value hread
        exact ⟨value, hread⟩
    · rintro ⟨listings, hholds⟩
      obtain ⟨m, hm⟩ := exists_ofBytes_eq_ok hholds
      rw [hm] at h
      cases h
  · rintro ⟨⟨value, hread⟩, hnone⟩
    cases hbody : ofBytes body with
    | ok m =>
      obtain ⟨listings, hholds, -⟩ := ofBytes_eq_ok_iff.1 hbody
      exact absurd ⟨listings, hholds⟩ hnone
    | error fault =>
      unfold ofBytes at hbody
      rw [hread] at hbody
      dsimp only at hbody
      split at hbody
      · cases hbody
        exact ⟨_, rfl⟩
      · cases hbody

theorem exists_ofBytes_eq_malformed_iff {body : Bytes} :
    (∃ reason line column, ofBytes body = .error (.malformed reason line column)) ↔
      ¬ ∃ value, Json.read body = .ok value := by
  unfold ofBytes
  cases Json.read body with
  | error fault => simp
  | ok value =>
    dsimp only
    cases ofJson value <;> simp

/-- The entries of a body are settled by its bytes. -/
theorem Holds.unique {body : Bytes} {listings others : List Listing} (h : Holds body listings)
    (ho : Holds body others) : listings = others := by
  obtain ⟨value, hread, hwritten⟩ := h
  obtain ⟨value', hread', hwritten'⟩ := ho
  obtain rfl : value = value' := Except.ok.inj (hread.symm.trans hread')
  have hvalue := Json.regular_of_read hread
  have hentries := (entries_eq_ok_iff hvalue).2 hwritten.sent
  rw [(entries_eq_ok_iff hvalue).2 hwritten'.sent] at hentries
  exact (Except.ok.inj hentries).symm

end Manifest

end FolderSync
