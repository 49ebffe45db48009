import FolderSync.Proofs.Manifest.Format
import FolderSync.Proofs.Plan
import FolderSync.Publish

/-!
# A published manifest

What a server publishes is read as what it means: one descriptor for each content, in order, and
where the contents are already there, nothing is to be fetched (`publishedManifest_read`).

* `IsStripped`: what is left of a file name when its usual opening and ending are taken off.
* `Publication`: a content, the name under which and the address at which it can be had.
-/

namespace FolderSync

/-! ### Projects -/

/-- The core is left when the opening is taken off the front of the text and the ending off its
back, each as often as it stands there. -/
def IsStripped (opening ending text core : List Char) : Prop :=
  ∃ front back : Nat, text = (List.replicate front opening).flatten ++
      (core ++ (List.replicate back ending).flatten) ∧
    ¬ opening <+: core ++ (List.replicate back ending).flatten ∧ ¬ ending <:+ core

theorem trimStartAll_spec {pattern : List Char} (hpattern : pattern ≠ []) (text : List Char) :
    (∃ n : Nat, text = (List.replicate n pattern).flatten ++ trimStartAll pattern text) ∧
      ¬ pattern <+: trimStartAll pattern text := by
  induction text using trimStartAll.induct pattern with
  | case1 text h ih =>
    obtain ⟨⟨n, hn⟩, hnot⟩ := ih
    obtain ⟨more, rfl⟩ := List.isPrefixOf_iff_prefix.1 h.2
    rw [List.drop_left] at hn hnot
    rw [trimStartAll, if_pos h, List.drop_left]
    refine ⟨⟨n + 1, ?_⟩, hnot⟩
    rw [List.replicate_succ, List.flatten_cons, List.append_assoc, ← hn]
  | case2 text h =>
    rw [trimStartAll, if_neg h]
    refine ⟨⟨0, rfl⟩, fun hprefix => h ⟨hpattern, ?_⟩⟩
    exact List.isPrefixOf_iff_prefix.2 hprefix

theorem trimEndAll_spec {pattern : List Char} (hpattern : pattern ≠ []) (text : List Char) :
    (∃ n : Nat, text = trimEndAll pattern text ++ (List.replicate n pattern).flatten) ∧
      ¬ pattern <:+ trimEndAll pattern text := by
  have hreverse : pattern.reverse ≠ [] := by simpa using hpattern
  obtain ⟨⟨n, hn⟩, hnot⟩ := trimStartAll_spec hreverse text.reverse
  refine ⟨⟨n, ?_⟩, ?_⟩
  · have hflatten : (List.replicate n pattern).flatten.reverse =
        (List.replicate n pattern.reverse).flatten := by
      rw [List.reverse_flatten, List.map_replicate, List.reverse_replicate]
    rw [← List.reverse_inj, trimEndAll, List.reverse_append, hflatten, List.reverse_reverse]
    exact hn
  · rwa [trimEndAll, ← List.reverse_prefix, List.reverse_reverse]

theorem isStripped_trim {opening ending : List Char} (ho : opening ≠ []) (he : ending ≠ [])
    (text : List Char) :
    IsStripped opening ending text (trimEndAll ending (trimStartAll opening text)) := by
  obtain ⟨⟨front, hfront⟩, hstart⟩ := trimStartAll_spec ho text
  obtain ⟨⟨back, hback⟩, hend⟩ := trimEndAll_spec he (trimStartAll opening text)
  exact ⟨front, back, by rw [← hback, ← hfront], by rwa [← hback], hend⟩

/-- The project of a file is its name without the usual openings and endings. -/
theorem isStripped_projectOf (filename : String) :
    IsStripped "blockcraft-".toList ".jar".toList filename.toList (projectOf filename).toList := by
  have hproject : (projectOf filename).toList =
      trimEndAll ".jar".toList (trimStartAll "blockcraft-".toList filename.toList) :=
    String.toList_ofList
  rw [hproject]
  exact isStripped_trim (by decide) (by decide) _

/-! ### Publications -/

/-- A content that is published under a name and can be had at an address of the web. -/
structure Publication where
  name : ArtifactName
  content : Bytes
  address : String
  url : Url
  parse_address : Url.parse address = .ok url
  isHttp_url : url.IsHttp
  length_content_le : content.length ≤ maxNatural

namespace Publication

/-- The name of the published file. -/
def filename (p : Publication) : String := p.name.text

/-- The entry of the manifest. -/
def entry (p : Publication) : Json := publishedEntry p.filename p.content p.address

/-- The entry as it is sent. -/
def listing (p : Publication) : Listing where
  filename := p.filename
  sha1 := (ContentHash.of p.content).hex
  url := p.address
  size := some p.content.length
  project := some (projectOf p.filename)

/-- The descriptor says what was published. -/
structure IsPublished (p : Publication) (d : Descriptor) : Prop where
  filename : d.filename = p.filename
  hash : d.hash = ContentHash.of p.content
  size : d.size = some p.content.length
  project : ∃ project, d.project = some project ∧
    IsStripped "blockcraft-".toList ".jar".toList p.filename.toList project.toList
  url : d.url = p.url

/-- What a folder holds that has each content under its name. -/
def inventory (ps : List Publication) : Inventory :=
  .ofList (ps.map fun p => (p.filename, ContentHash.of p.content))

open Json (Regular)

theorem isSent_listing (p : Publication) : p.listing.IsSent p.entry := by
  unfold entry publishedEntry Json.objectOf
  have hnatural : Json.IsNatural (.integer p.content.length) p.content.length :=
    ⟨rfl, p.length_content_le⟩
  refine .object ?_ ?_ ?_ ?_ ?_ <;>
    simp only [List.foldl_cons, List.foldl_nil, valueOf?_putEntry, String.reduceEq, if_true, if_false]
  · rfl
  · rfl
  · rfl
  · exact .given hnatural
  · exact .given rfl

theorem regular_entry (p : Publication) (depth : Nat) : Regular ∅ (depth + 1) p.entry := by
  have hfits : Json.Fits p.content.length := by
    have hlength := p.length_content_le
    unfold Json.Fits
    omega
  refine Json.regular_objectOf fun field hfield => ?_
  simp only [List.mem_cons, List.not_mem_nil, or_false] at hfield
  rcases hfield with rfl | rfl | rfl | rfl | rfl
  · exact .string _
  · exact .string _
  · exact .string _
  · exact .integer hfits
  · exact .string _

theorem sound_listing (p : Publication) : p.listing.Sound where
  plain := p.name.plain
  length_sha1 := (ContentHash.of p.content).length_hex
  isHexDigit_sha1 c hc := isHexDigit_of_isLowerHex ((ContentHash.of p.content).isLowerHex_hex c hc)
  isHttp_url := ⟨p.url, p.parse_address, p.isHttp_url⟩

theorem isPublished_of_means {p : Publication} {d : Descriptor} (h : p.listing.Means d) :
    p.IsPublished d where
  filename := h.filename
  hash := by
    refine ContentHash.ext (h.hash.trans ?_)
    rw [listing, ContentHash.map_toLower_hex, String.ofList_toList]
  size := h.size
  project := ⟨_, h.project, isStripped_projectOf _⟩
  url := Except.ok.inj (h.url.symm.trans p.parse_address)

/-- The manifest is one of its entries. -/
theorem isWritten_publishedManifest {ps : List Publication}
    (hnodup : (ps.map Publication.filename).Nodup) :
    Manifest.IsWritten (publishedManifest (ps.map entry)) (ps.map listing) where
  success := by
    simp only [publishedManifest, Json.objectOf, Json.field?, List.foldl_cons, List.foldl_nil,
      valueOf?_putEntry, String.reduceEq, if_true, if_false]
  sent := by
    refine ⟨ps.map entry, ?_, ?_⟩
    · simp only [publishedManifest, Json.objectOf, Json.field?, List.foldl_cons, List.foldl_nil,
        valueOf?_putEntry, if_true]
    · rw [List.forall₂_map_left_iff, List.forall₂_map_right_iff, List.forall₂_same]
      exact fun p _ => p.isSent_listing
  sound := by
    intro l hl
    obtain ⟨p, -, rfl⟩ := List.mem_map.1 hl
    exact p.sound_listing
  nodup := by
    rw [List.map_map]
    exact hnodup

theorem regular_publishedManifest {ps : List Publication} (hlength : ps.length ≤ maxNatural) :
    Regular ∅ Json.depthLimit (publishedManifest (ps.map entry)) := by
  have hfits : Json.Fits (ps.map entry).length := by
    rw [List.length_map]
    unfold Json.Fits
    omega
  refine Json.regular_objectOf fun field hfield => ?_
  simp only [List.mem_cons, List.not_mem_nil, or_false] at hfield
  rcases hfield with rfl | rfl | rfl | rfl
  · exact .boolean true
  · exact .string _
  · exact .integer hfits
  · refine .array fun item hitem => ?_
    obtain ⟨p, -, rfl⟩ := List.mem_map.1 hitem
    exact p.regular_entry _

/-! ### The plan -/

theorem get?_inventory {ps : List Publication} (hnodup : (ps.map Publication.filename).Nodup)
    {p : Publication} (hp : p ∈ ps) :
    (inventory ps).get? p.filename = some (ContentHash.of p.content) := by
  refine (NameMap.get?_ofList_iff fun n v w hv hw => ?_).2 (List.mem_map.2 ⟨p, hp, rfl⟩)
  obtain ⟨q, hq, hqv⟩ := List.mem_map.1 hv
  obtain ⟨r, hr, hrw⟩ := List.mem_map.1 hw
  obtain ⟨rfl, rfl⟩ := Prod.mk.inj hqv
  obtain ⟨hname, rfl⟩ := Prod.mk.inj hrw
  rw [List.inj_on_of_nodup_map hnodup hr hq hname]

theorem get?_of_isPublished {inventory : Inventory} {ps : List Publication} {ds : List Descriptor}
    (h : List.Forall₂ IsPublished ps ds)
    (hps : ∀ p ∈ ps, inventory.get? p.filename = some (ContentHash.of p.content)) :
    ∀ d ∈ ds, inventory.get? d.filename = some d.hash := by
  induction h with
  | nil => simp
  | @cons p d ps ds hpublished _ ih =>
    intro other hother
    rcases List.mem_cons.1 hother with rfl | hother
    · rw [hpublished.filename, hpublished.hash]
      exact hps p List.mem_cons_self
    · exact ih (fun q hq => hps q (List.mem_cons_of_mem _ hq)) other hother

/-- **A published manifest is read as it was meant.**  However it is laid out, each content has its
descriptor, in order; and compared with a folder that has the contents, nothing is to be fetched,
whatever the filter. -/
theorem publishedManifest_read (ps : List Publication) (hnodup : (ps.map Publication.filename).Nodup)
    (hlength : ps.length ≤ maxNatural) :
    ∃ m, (∀ layout : Json.Layout, Manifest.ofBytes
        (utf8 (String.ofList ((publishedManifest (ps.map entry)).chars layout 0))) = .ok m) ∧
      List.Forall₂ IsPublished ps m.artifacts ∧
      ∀ f, (Plan.between m (inventory ps) f).toInstall = .empty ∧
        (Plan.between m (inventory ps) f).toUpdate = .empty := by
  have hwritten := isWritten_publishedManifest hnodup
  have hread := Json.read_chars (regular_publishedManifest hlength)
  have hholds : ∀ layout, Manifest.Holds
      (utf8 (String.ofList ((publishedManifest (ps.map entry)).chars layout 0))) (ps.map listing) :=
    fun layout => ⟨_, hread layout, hwritten⟩
  obtain ⟨m, hm⟩ := Manifest.exists_ofBytes_eq_ok (hholds .compact)
  obtain ⟨listings, hothers, hmeans⟩ := Manifest.ofBytes_eq_ok_iff.1 hm
  obtain rfl := hothers.unique (hholds .compact)
  have hpublished : List.Forall₂ IsPublished ps m.artifacts := by
    rw [List.forall₂_map_left_iff] at hmeans
    exact hmeans.imp fun _ _ => isPublished_of_means
  have hthere := get?_of_isPublished hpublished fun p hp => get?_inventory hnodup hp
  refine ⟨m, fun layout => Manifest.ofBytes_eq_ok_iff.2 ⟨_, hholds layout, hmeans⟩, hpublished,
    fun f => Plan.fetches_nothing_of_get? fun d hd => ?_⟩
  exact hthere d hd

/-- A name with a quote and the end of a line in it, at an address that is not in its usual form. -/
def sample : Publication where
  name := ⟨"blockcraft-\"a\n.jar", by decide⟩
  content := utf8 "abc"
  address := "HTTP://[::1]:80/b/../a"
  url := ⟨"http", some ⟨none, .ipv6 [0, 0, 0, 0, 0, 0, 0, 1], none⟩, "/a", none, none⟩
  parse_address := by decide +kernel
  isHttp_url := by decide
  length_content_le := by decide

theorem publishedManifest_read_sample :
    ([sample].map Publication.filename).Nodup ∧ [sample].length ≤ maxNatural ∧
      ∃ m, (∀ layout : Json.Layout, Manifest.ofBytes
          (utf8 (String.ofList ((publishedManifest ([sample].map entry)).chars layout 0))) = .ok m) ∧
        List.Forall₂ IsPublished [sample] m.artifacts ∧
        ∀ f, (Plan.between m (inventory [sample]) f).toInstall = .empty ∧
          (Plan.between m (inventory [sample]) f).toUpdate = .empty :=
  ⟨by decide, by decide, publishedManifest_read [sample] (by decide) (by decide)⟩

end Publication

end FolderSync
