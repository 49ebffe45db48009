import FolderSync.Proofs.Directory.Progress
import FolderSync.Proofs.Hashing
import FolderSync.Proofs.NameMap
import FolderSync.Inventory

/-!
# What a scan finds

A scan of a directory finds under a name the hash of the regular file that stands there, if the
filter accepts the name (`scan_get?_iff`).  Hidden names are never found (`get?_scan_of_hidden`).

After changes toward an up-to-date directory a scan succeeds if it did before (`exists_scan`).
-/

namespace FolderSync

theorem Filter.not_matches_of_hidden {name : String} (h : Name.IsHidden (utf8 name)) (f : Filter) :
    ¬ f.Matches name := fun hmatch => hmatch.1 (isHidden_utf8_iff.1 h)

namespace Disk

variable {d : Disk} {f : Filter} {p : Path} {inv : Inventory} {name : String} {hash : ContentHash}

/-! ### What a path holds -/

theorem opens_of_status {e : Entry} (h : d.status p = .ok e) : p.Opens := by
  obtain ⟨loc, hlocate, -⟩ := status_eq_ok_iff.1 h
  exact opens_of_locate hlocate

theorem status_eq_of_isFile (h : d.isFile p = true) : ∃ c, d.status p = .ok (.file c) := by
  unfold isFile at h
  split at h
  · rename_i c hc
    exact ⟨c, hc⟩
  · cases h

theorem hashFile_eq {c : Content} (h : d.status p = .ok (.file c)) :
    d.hashFile p = match c.fault with
      | none => .ok (.of c.bytes)
      | some cause => .error cause := by
  have hcontent : d.content p = .ok c := by rw [content, h]
  rw [hashFile, hcontent]
  exact ContentHash.ofReads_reads c

/-- The path leads to a regular file with the hash, which can be read to its end. -/
def Holds (d : Disk) (p : Path) (hash : ContentHash) : Prop :=
  d.isFile p = true ∧ d.hashFile p = .ok hash

instance (d : Disk) (p : Path) (hash : ContentHash) : Decidable (d.Holds p hash) :=
  inferInstanceAs (Decidable (_ ∧ _))

/-- The files that are hashed are those that can be read to their end. -/
theorem holds_iff : d.Holds p hash ↔
    ∃ bytes, d.status p = .ok (.file { bytes }) ∧ hash = .of bytes := by
  constructor
  · rintro ⟨hfile, hhash⟩
    obtain ⟨⟨bytes, fault⟩, hstatus⟩ := status_eq_of_isFile hfile
    rw [hashFile_eq hstatus] at hhash
    cases fault with
    | none => exact ⟨bytes, hstatus, (Except.ok.inj hhash).symm⟩
    | some cause => cases hhash
  · rintro ⟨bytes, hstatus, rfl⟩
    exact ⟨by rw [isFile, hstatus], hashFile_eq hstatus⟩

/-! ### One name -/

theorem managed?_eq_some_iff {entry : Except Cause Name} :
    d.managed? f p entry = some (name, hash) ↔
      entry = .ok (utf8 name) ∧ f.Matches name ∧ d.Holds (p.join name) hash := by
  cases entry with
  | error cause => simp [managed?]
  | ok entry =>
    simp only [managed?]
    cases htext : text? entry with
    | none =>
      simp only [reduceCtorEq, false_iff]
      rintro ⟨he, -⟩
      rw [Except.ok.inj he, text?_utf8] at htext
      cases htext
    | some text =>
      obtain rfl := eq_utf8_of_text? htext
      dsimp only
      constructor
      · intro h
        split at h
        · rename_i hok
          split at h
          · rename_i found hfound
            obtain ⟨rfl, rfl⟩ := Prod.mk.inj (Option.some.inj h)
            exact ⟨rfl, hok.1, hok.2, hfound⟩
          · cases h
        · cases h
      · rintro ⟨he, hmatch, hfile, hhash⟩
        obtain rfl := utf8_injective (Except.ok.inj he)
        rw [if_pos ⟨hmatch, hfile⟩, hhash]

/-! ### The whole directory -/

theorem get?_managed (entries : List (Except Cause Name)) :
    (NameMap.ofList (entries.filterMap (d.managed? f p))).get? name = some hash ↔
      .ok (utf8 name) ∈ entries ∧ f.Matches name ∧ d.Holds (p.join name) hash := by
  rw [NameMap.get?_ofList_iff, List.mem_filterMap]
  · simp only [managed?_eq_some_iff]
    constructor
    · rintro ⟨entry, hmem, rfl, hrest⟩
      exact ⟨hmem, hrest⟩
    · rintro ⟨hmem, hrest⟩
      exact ⟨_, hmem, rfl, hrest⟩
  · -- a name has the hash of its one file
    intro n v w hv hw
    obtain ⟨_, _, hv⟩ := List.mem_filterMap.1 hv
    obtain ⟨_, _, hw⟩ := List.mem_filterMap.1 hw
    have hfirst := (managed?_eq_some_iff.1 hv).2.2.2
    rw [(managed?_eq_some_iff.1 hw).2.2.2] at hfirst
    exact (Except.ok.inj hfirst).symm

/-- What a scan that succeeds has seen: nothing, or the listing of a directory. -/
theorem scan_eq_ok (hscan : d.scan f p = .ok inv) :
    (inv = .empty ∧ ∀ loc, d.locate p = .ok loc → d.find? loc = none) ∨
      ∃ loc listed, d.locate p = .ok loc ∧ d.find? loc = some .directory ∧
        d.list? loc = .ok listed ∧ inv = .ofList (listed.filterMap (d.managed? f p)) := by
  unfold scan at hscan
  cases hloc : d.locate p with
  | error cause =>
    rw [hloc] at hscan
    exact .inl ⟨(Except.ok.inj hscan).symm, fun _ h => by cases h⟩
  | ok loc =>
    simp only [hloc] at hscan
    cases hentry : d.find? loc with
    | none =>
      simp only [hentry] at hscan
      refine .inl ⟨(Except.ok.inj hscan).symm, fun other h => ?_⟩
      rw [← Except.ok.inj h, hentry]
    | some e =>
      cases e with
      | directory =>
        cases hlist : d.list? loc with
        | error cause => simp [hentry, hlist] at hscan
        | ok listed =>
          simp only [hentry, hlist] at hscan
          exact .inr ⟨loc, listed, rfl, hentry, hlist, (Except.ok.inj hscan).symm⟩
      | file c => simp [hentry] at hscan
      | link target => simp [hentry] at hscan

theorem get?_scan (hscan : d.scan f p = .ok inv) (hget : inv.get? name = some hash) :
    ∃ loc listed, d.locate p = .ok loc ∧ d.find? loc = some .directory ∧
      d.list? loc = .ok listed ∧ .ok (utf8 name) ∈ listed ∧
      f.Matches name ∧ d.Holds (p.join name) hash := by
  rcases scan_eq_ok hscan with ⟨rfl, -⟩ | ⟨loc, listed, hloc, hdir, hlist, rfl⟩
  · cases hget
  · exact ⟨loc, listed, hloc, hdir, hlist, (get?_managed _).1 hget⟩

/-- What a scan finds of a directory that is there. -/
theorem get?_scan_iff_of_locate (hscan : d.scan f p = .ok inv) {loc : Location}
    (hloc : d.locate p = .ok loc) (hdir : d.find? loc = some .directory) :
    inv.get? name = some hash ↔
      d.find? (loc ++ [utf8 name]) ≠ none ∧ f.Matches name ∧ d.Holds (p.join name) hash := by
  rcases scan_eq_ok hscan with ⟨-, hnone⟩ | ⟨other, listed, hother, -, hlist, rfl⟩
  · rw [hnone loc hloc] at hdir
    cases hdir
  · obtain rfl := Except.ok.inj (hloc.symm.trans hother)
    rw [get?_managed, mem_list?_iff hlist]

theorem matches_of_scan (hscan : d.scan f p = .ok inv) (hget : inv.get? name = some hash) :
    f.Matches name := by
  obtain ⟨-, -, -, -, -, -, hmatch, -⟩ := get?_scan hscan hget
  exact hmatch

/-- No scan finds a hidden name. -/
theorem get?_scan_of_hidden (hscan : d.scan f p = .ok inv) (h : Name.IsHidden (utf8 name)) :
    inv.get? name = none := by
  cases hget : inv.get? name with
  | none => rfl
  | some hash => exact absurd (matches_of_scan hscan hget) (f.not_matches_of_hidden h)

/-- **What a scan finds under a name.** -/
theorem scan_get?_iff (h : d.WellFormed) (hdirect : d.Direct p.trail) (hp : p.bytes ≠ [])
    (hscan : d.scan f p = .ok inv) (plain : nameFault? name = none)
    (hlink : ∀ target, d.find? ((d.destination p.trail).entry name) ≠ some (.link target)) :
    inv.get? name = some hash ↔ f.Matches name ∧ (p.join name).Opens ∧
      ∃ bytes, d.find? ((d.destination p.trail).entry name) = some (.file { bytes }) ∧
        hash = .of bytes := by
  have hproper := proper_of_plain plain
  constructor
  · intro hget
    obtain ⟨loc, -, hloc, hdir, -, -, hmatch, hfile⟩ := get?_scan hscan hget
    obtain ⟨bytes, hstatus, rfl⟩ := holds_iff.1 hfile
    have hopens := opens_of_status hstatus
    rw [locate_eq (hopens.of_join hp hproper.noSlash)] at hloc
    obtain rfl := eq_of_follow hdirect hloc
    exact ⟨hmatch, hopens, bytes, (status_join h hdirect.noUp hdir hproper hopens hlink).1 hstatus, rfl⟩
  · rintro ⟨hmatch, hopens, bytes, hfile, rfl⟩
    have hthere : d.find? (d.destination p.trail ++ [utf8 name]) ≠ none := by
      rw [← Location.entry, hfile]
      simp
    have hdir : d.find? (d.destination p.trail) = some .directory := h.parent hthere
    have hlocate : d.locate p = .ok (d.destination p.trail) := by
      rw [locate_eq (hopens.of_join hp hproper.noSlash)]
      exact follow_eq h hdirect.noUp hdir
    have hstatus := (status_join h hdirect.noUp hdir hproper hopens hlink).2 hfile
    exact (get?_scan_iff_of_locate hscan hlocate hdir).2
      ⟨hthere, hmatch, holds_iff.2 ⟨bytes, hstatus, rfl⟩⟩

/-! ### Scans that fail -/

/-- A scan fails just if the path leads to something else than a directory that can be listed. -/
theorem exists_scan_eq_error_iff : (∃ fault, d.scan f p = .error fault) ↔
    ∃ loc e, d.locate p = .ok loc ∧ d.find? loc = some e ∧
      (e = .directory → ∃ cause, d.list? loc = .error cause) := by
  unfold scan
  cases d.locate p with
  | error cause => simp
  | ok loc =>
    cases hentry : d.find? loc with
    | none => simp [hentry]
    | some e =>
      cases e with
      | directory => cases hlist : d.list? loc <;> simp [hentry, hlist]
      | file c => simp [hentry]
      | link target => simp [hentry]

end Disk

/-- After changes toward an up-to-date directory a scan succeeds if it did before. -/
theorem Progress.Since.exists_scan {start : Disk} {now : Progress} {f : Filter} {p : Path}
    {inv : Inventory} (hstart : start.WellFormed) (hdirect : start.Direct p.trail)
    (h : now.Since (start.destination p.trail) start) (hscan : start.scan f p = .ok inv) :
    ∃ later, now.disk.scan f p = .ok later := by
  cases hnow : now.disk.scan f p with
  | ok later => exact ⟨later, rfl⟩
  | error fault =>
    exfalso
    obtain ⟨loc, e, hlocate, he, hclosed⟩ := Disk.exists_scan_eq_error_iff.1 ⟨fault, hnow⟩
    rw [Disk.exists_list?_eq_error_iff, h.closed] at hclosed
    have hopens := Disk.opens_of_locate hlocate
    rw [Disk.locate_eq hopens] at hlocate
    have hloc := Disk.eq_of_follow (h.direct hdirect List.prefix_rfl) hlocate
    rw [h.destination_eq] at hloc
    subst hloc
    -- what cannot be listed now was there before, and so was the whole way to it
    have hbefore : start.find? (start.destination p.trail) = some e := by
      rcases h.kept_on_way List.prefix_rfl with hkept | ⟨-, hnone, hmade⟩
      · rw [← hkept, he]
      · rw [he] at hmade
        refine absurd (hstart.lookup_closed ?_) (hclosed (Option.some.inj hmade))
        simp [hnone]
    have hsame : ∀ front, front <+: start.destination p.trail →
        now.disk.find? front = start.find? front := by
      intro front hfront
      by_cases heq : front = start.destination p.trail
      · rw [heq, he, hbefore]
      · have hway := hstart.directory_on_way (by rw [hbefore]; simp) hfront heq
        rw [hway, h.directory hfront hway]
    rw [Disk.follow_congr hdirect h.here hsame, ← Disk.locate_eq hopens] at hlocate
    obtain ⟨cause, hfails⟩ := Disk.exists_scan_eq_error_iff.2
      ⟨_, e, hlocate, hbefore, fun he => Disk.exists_list?_eq_error_iff.2 (hclosed he)⟩
    rw [hscan] at hfails
    cases hfails

end FolderSync
