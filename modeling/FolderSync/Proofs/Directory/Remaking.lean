import FolderSync.Proofs.Directory.Filling

/-!
# Making a path again

On a direct way, and where the disk grants all calls, `Volume.ensurePath` gives the same result, and
leaves the same behind, whether some of what it makes is already there or not (`ensurePath_between`).
For filling in it is enough that the two disks differ by directories that are missing on one of them
(`fill_between`); the last directory may be there only if making the path makes it
(`ensureDirectory_between`), since a path that ends in `.` makes no directory of its last name.
-/

namespace FolderSync.Volume

open Disk

variable {v w : Volume} {loc : Location} {names : List Name} {name : Name} {t : Trail} {p : Path}

/-- Two disks that agree on a location that is no directory agree on what lies on the way to it and
behind it. -/
theorem find?_eq_of_stop {d e : Disk} (hd : d.WellFormed) (he : e.WellFormed)
    (hloc : d.find? loc = some .directory) (hloc' : e.find? loc = some .directory)
    (hsame : e.find? (loc ++ [name]) = d.find? (loc ++ [name]))
    (hstop : d.find? (loc ++ [name]) ≠ some .directory) {other : Location}
    (hother : other <+: loc ++ name :: names) : e.find? other = d.find? other := by
  have hbehind : ∀ {f : Disk}, f.WellFormed → f.find? (loc ++ [name]) ≠ some .directory →
      loc ++ [name] <+: other → other ≠ loc ++ [name] → f.find? other = none := by
    intro f hf hstop hprefix hne
    by_contra hfound
    exact hstop (hf.directory_on_way hfound hprefix hne.symm)
  by_cases heq : other = loc ++ [name]
  · rw [heq, hsame]
  have hfull : loc ++ [name] <+: loc ++ name :: names := ⟨names, by simp⟩
  rcases List.prefix_or_prefix_of_prefix hother hfull with hfront | hback
  · rcases List.prefix_concat_iff.1 hfront with rfl | hfront
    · exact absurd rfl heq
    · rw [hd.directory_on_way' hloc hfront, he.directory_on_way' hloc' hfront]
  · rw [hbehind hd hstop hback heq, hbehind he (hsame ▸ hstop) hback heq]

/-- Where some directories are already there, filling in ends the same way. -/
theorem fill_between (hv : v.disk.WellFormed) (hw : w.disk.WellFormed)
    (hloc : v.disk.find? loc = some .directory) (hloc' : w.disk.find? loc = some .directory)
    (hproper : ∀ name ∈ names, name.Proper)
    (hway : ∀ l, l <+: loc ++ names → w.disk.find? l = v.disk.find? l ∨
      (v.disk.find? l = none ∧ w.disk.find? l = some .directory)) :
    (w.fill loc names).2 = (v.fill loc names).2 ∧ ∀ l, l <+: loc ++ names →
      (w.fill loc names).1.disk.find? l = (v.fill loc names).1.disk.find? l := by
  induction names generalizing v w loc with
  | nil =>
    refine ⟨rfl, fun l hl => ?_⟩
    rw [List.append_nil] at hl
    rw [fill, fill, hv.directory_on_way' hloc hl, hw.directory_on_way' hloc' hl]
  | cons name names ih =>
    have hsplit : loc ++ name :: names = (loc ++ [name]) ++ names := by simp
    have hname := hproper name List.mem_cons_self
    have hrest : ∀ n ∈ names, Name.Proper n := fun n hn => hproper n (List.mem_cons_of_mem _ hn)
    have hhere := hway (loc ++ [name]) (hsplit ▸ List.prefix_append _ _)
    by_cases hlen : nameLimit < name.length
    · have hnone : ∀ {d : Disk}, d.WellFormed → d.find? (loc ++ [name]) = none := fun hd => by
        by_contra hfound
        exact absurd (hd.valid hfound).length_le (Nat.not_le.2 hlen)
      rw [fill, fill, if_pos hlen, if_pos hlen]
      refine ⟨rfl, fun l hl => find?_eq_of_stop hv hw hloc hloc' ?_ ?_ hl⟩
      · rw [hnone hv, hnone hw]
      · simp [hnone hv]
    · have hvalid : name.Valid := ⟨hname, Nat.not_lt.1 hlen⟩
      have hmadeWell : ∀ {u : Volume}, u.disk.WellFormed → u.disk.find? loc = some .directory →
          (u.perform (.makeDirectory (loc ++ [name]))).disk.WellFormed := fun hu hdir =>
        hu.put hdir hvalid fun _ => rfl
      have hmade := fun u : Volume => find?_makeDirectory_self u loc name
      rw [fill, fill, if_neg hlen, if_neg hlen, hsplit]
      rw [hsplit] at hway
      cases hentry : v.disk.find? (loc ++ [name]) with
      | none =>
        cases hentry' : w.disk.find? (loc ++ [name]) with
        | none =>
          refine ih (hmadeWell hv hloc) (hmadeWell hw hloc') (hmade v) (hmade w) hrest fun l hl => ?_
          rw [find?_makeDirectory, find?_makeDirectory]
          split
          · exact .inl rfl
          · exact hway l hl
        | some entry =>
          rw [hentry, hentry'] at hhere
          obtain rfl : entry = .directory := by simpa using hhere
          refine ih (hmadeWell hv hloc) hw (hmade v) hentry' hrest fun l hl => ?_
          rw [find?_makeDirectory]
          split
          · rename_i hl'
            exact .inl (hl' ▸ hentry')
          · exact hway l hl
      | some entry =>
        have hentry' : w.disk.find? (loc ++ [name]) = some entry := by simpa [hentry] using hhere
        rw [hentry']
        have hstop : entry ≠ .directory → ∀ l, l <+: loc ++ [name] ++ names →
            w.disk.find? l = v.disk.find? l := fun hne l hl => by
          rw [← hsplit] at hl
          exact find?_eq_of_stop hv hw hloc hloc' (hentry'.trans hentry.symm) (by simpa [hentry]) hl
        cases entry with
        | directory => exact ih hv hw hentry hentry' hrest hway
        | file c => exact ⟨rfl, hstop (by simp)⟩
        | link target => exact ⟨rfl, hstop (by simp)⟩

theorem prefix_dropLast {l : Location} (h : l <+: loc ++ names) :
    l <+: loc ++ names.dropLast ∨ l = loc ++ names ∧ names ≠ [] := by
  cases names using List.reverseRecOn with
  | nil => exact .inl h
  | append_singleton names name =>
    rw [← List.append_assoc] at h
    rw [List.dropLast_concat]
    rcases List.prefix_concat_iff.1 h with rfl | hfront
    · exact .inr ⟨by simp, by simp⟩
    · exact .inl hfront

theorem ensurePath_of_refused (hp : ¬ (p.bytes = [] ∨ p.Opens)) :
    ∃ cause, ∀ v : Volume, v.ensurePath p = (v, .error cause) := by
  rw [not_or] at hp
  cases hopen : p.open? with
  | ok t => exact absurd (Path.open?_eq_ok_iff.1 hopen).1 hp.2
  | error cause =>
    refine ⟨cause, fun v => ?_⟩
    rw [ensurePath, if_neg hp.1, hopen]

/-- Nothing stands at the end of a way that cannot be passed. -/
theorem find?_eq_none_of_passes {d : Disk} (hdisk : d.WellFormed) {cause : Cause}
    (h : d.passes loc names.dropLast = .error cause) : d.find? (loc ++ names) = none := by
  cases names using List.reverseRecOn with
  | nil => cases h
  | append_singleton names name =>
    rw [List.dropLast_concat] at h
    by_contra hfound
    rw [← List.append_assoc] at hfound
    rw [passes_of_directory hdisk (hdisk.parent hfound)] at h
    cases h

theorem makeIn_between (hfront : ∀ l, l <+: loc → w.disk.find? l = v.disk.find? l)
    (hend : w.disk.find? (loc ++ [name]) = v.disk.find? (loc ++ [name]) ∨
      w.disk.find? (loc ++ [name]) = (v.makeIn loc name).1.disk.find? (loc ++ [name])) :
    (w.makeIn loc name).2 = (v.makeIn loc name).2 ∧ ∀ l, l <+: loc ++ [name] →
      (w.makeIn loc name).1.disk.find? l = (v.makeIn loc name).1.disk.find? l := by
  -- where nothing is made, the disks agree at the end, too
  have hall : w.disk.find? (loc ++ [name]) = v.disk.find? (loc ++ [name]) →
      ∀ l, l <+: loc ++ [name] → w.disk.find? l = v.disk.find? l := by
    intro hsame l hl
    rcases List.prefix_concat_iff.1 hl with rfl | hl
    · exact hsame
    · exact hfront l hl
  unfold makeIn at hend ⊢
  by_cases hlen : nameLimit < name.length
  · simp only [if_pos hlen, or_self] at hend ⊢
    exact ⟨trivial, hall hend⟩
  simp only [if_neg hlen] at hend ⊢
  cases hentry : v.disk.find? (loc ++ [name]) with
  | none =>
    simp only [hentry, find?_makeDirectory, if_true] at hend
    rcases hend with hnone | hdir
    · simp only [hnone]
      refine ⟨trivial, fun l hl => ?_⟩
      rw [find?_makeDirectory, find?_makeDirectory, hall (hnone.trans hentry.symm) l hl]
    · simp only [hdir]
      refine ⟨trivial, fun l hl => ?_⟩
      rw [find?_makeDirectory]
      rcases List.prefix_concat_iff.1 hl with rfl | hl
      · rw [if_pos rfl, hdir]
      · rw [if_neg (ne_child_of_way hl name), hfront l hl]
  | some entry =>
    have hsame : w.disk.find? (loc ++ [name]) = some entry := by
      cases entry <;> simpa [hentry] using hend
    rw [hsame]
    cases entry <;> exact ⟨rfl, hall (hsame.trans hentry.symm)⟩

/-- Making the last directory on disks that agree before it. -/
theorem ensureDirectory_between (hcalm : v.Calm) (hcalm' : w.Calm) (hv : v.disk.WellFormed)
    (hw : w.disk.WellFormed)
    (ht : v.disk.Direct t) (ht' : w.disk.Direct t) (hstart : w.disk.start t = v.disk.start t)
    (hfront : ∀ l, l <+: v.disk.start t ++ t.names.dropLast → w.disk.find? l = v.disk.find? l)
    (hend : w.disk.find? (v.disk.destination t) = v.disk.find? (v.disk.destination t) ∨
      w.disk.find? (v.disk.destination t) =
        (v.ensureDirectory t).1.disk.find? (v.disk.destination t)) :
    (w.ensureDirectory t).2 = (v.ensureDirectory t).2 ∧ ∀ l, l <+: v.disk.destination t →
      (w.ensureDirectory t).1.disk.find? l = (v.ensureDirectory t).1.disk.find? l := by
  have hall : w.disk.find? (v.disk.destination t) = v.disk.find? (v.disk.destination t) →
      ∀ l, l <+: v.disk.destination t → w.disk.find? l = v.disk.find? l := by
    intro hsame l hl
    rcases prefix_dropLast hl with hl | ⟨rfl, -⟩
    · exact hfront l hl
    · exact hsame
  have hbefore := passes_congr hfront
  cases hpasses : v.disk.passes (v.disk.start t) t.names.dropLast with
  | error cause =>
    rw [hpasses] at hbefore
    rw [ensureDirectory_eq_error ht hpasses, ensureDirectory_eq_error ht' (hstart ▸ hbefore)]
    refine ⟨rfl, hall ?_⟩
    rw [destination, find?_eq_none_of_passes hv hpasses, find?_eq_none_of_passes hw hbefore]
  | ok _ =>
    rw [hpasses] at hbefore
    by_cases hlast : ∃ name, t.steps.getLast? = some (.into name)
    · obtain ⟨name, hname⟩ := hlast
      obtain ⟨steps, hsteps⟩ := List.getLast?_eq_some_iff.1 hname
      have hnames := names_eq_concat hsteps
      rw [hnames, List.dropLast_concat] at hpasses hbefore hfront
      rw [ensureDirectory_into hcalm ht hsteps hpasses] at hend
      rw [ensureDirectory_into hcalm ht hsteps hpasses,
        ensureDirectory_into hcalm' ht' hsteps (hstart ▸ hbefore), hstart]
      rw [destination, hnames, ← List.append_assoc] at hend ⊢
      exact makeIn_between hfront hend
    · rw [ensureDirectory_stay hv ht (not_exists.1 hlast)] at hend
      rw [ensureDirectory_stay hv ht (not_exists.1 hlast),
        ensureDirectory_stay hw ht' (not_exists.1 hlast), hstart]
      have hagree := hall (hend.elim id id)
      exact ⟨passes_congr hagree, hagree⟩

/-- **On a disk that lies between what was there and what making a path leaves, making the path gives
the same result and leaves the same on the way.** -/
theorem ensurePath_between (hcalm : v.Calm) (hcalm' : w.Calm) (hv : v.disk.WellFormed)
    (hw : w.disk.WellFormed)
    (hhere : w.disk.here = v.disk.here) (ht : v.disk.Direct p.trail)
    (hway : ∀ l, l <+: v.disk.destination p.trail → w.disk.find? l = v.disk.find? l ∨
      w.disk.find? l = (v.ensurePath p).1.disk.find? l) :
    (w.ensurePath p).2 = (v.ensurePath p).2 ∧ ∀ l, l <+: v.disk.destination p.trail →
      (w.ensurePath p).1.disk.find? l = (v.ensurePath p).1.disk.find? l := by
  by_cases hp : p.bytes = [] ∨ p.Opens
  swap
  · obtain ⟨cause, hrefused⟩ := ensurePath_of_refused hp
    rw [hrefused] at hway
    rw [hrefused, hrefused]
    exact ⟨rfl, fun l hl => (hway l hl).elim id id⟩
  have hkept : ∀ l, l <+: v.disk.destination p.trail → w.disk.find? l = v.disk.find? l ∨
      (v.disk.find? l = none ∧ w.disk.find? l = some .directory) := by
    intro l hl
    rcases hway l hl with hsame | hmade
    · exact .inl hsame
    · rw [hmade]
      exact (ensurePath_grown hv p).find? l
  have hstart := start_of_here hhere p.trail
  have htw : w.disk.Direct p.trail := by
    refine ⟨ht.noUp, fun front hfront target hlink => ?_⟩
    rw [hstart] at hlink
    rcases hkept _ ((List.prefix_append_right_inj _).2 hfront) with hsame | ⟨-, hmade⟩
    · exact ht.noLink front hfront target (hsame ▸ hlink)
    · rw [hmade] at hlink
      cases hlink
  have hproper : ∀ name ∈ p.trail.names, name.Proper := fun name hname => proper_of_mem_names hp hname
  -- all names but the last
  have hbefore := fill_between hv hw (hv.find?_start p.trail) (hstart ▸ hw.find?_start p.trail)
    (fun name hname => hproper name (List.dropLast_subset _ hname)) fun l hl =>
      hkept l (hl.trans ((List.prefix_append_right_inj _).2 (List.dropLast_prefix _)))
  cases hfillv : v.fill (v.disk.start p.trail) p.trail.names.dropLast with
  | mk a result =>
    cases hfillw : w.fill (w.disk.start p.trail) p.trail.names.dropLast with
    | mk b result' =>
      obtain ⟨hga, hta, hsa, -⟩ := fill_dropLast hv ht hproper hfillv
      obtain ⟨hgb, htb, hsb, -⟩ := fill_dropLast hw htw hproper hfillw
      have hcalma := calm_fill hcalm (v.disk.start p.trail) p.trail.names.dropLast
      have hcalmb := calm_fill hcalm' (w.disk.start p.trail) p.trail.names.dropLast
      rw [hfillv] at hcalma
      rw [hfillw] at hcalmb
      rw [ensurePath_eq hcalm hv ht hp, hfillv] at hway
      rw [ensurePath_eq hcalm hv ht hp, ensurePath_eq hcalm' hw htw hp, hfillv, hfillw]
      rw [hstart] at hfillw
      rw [hfillv, hfillw] at hbefore
      have hdest : v.disk.destination p.trail = a.disk.destination p.trail := by
        rw [destination, destination, hsa]
      rw [hdest] at hway ⊢
      refine ensureDirectory_between hcalma hcalmb hga.wellFormed hgb.wellFormed hta htb
        (hsb.trans (hstart.trans hsa.symm)) (hsa.symm ▸ hbefore.2) ?_
      -- the last directory itself has not been touched yet
      rcases prefix_dropLast (List.prefix_refl (a.disk.destination p.trail)) with hfront | ⟨-, hne⟩
      · exact .inl (hbefore.2 _ (hsa ▸ hfront))
      · have hapart : ¬ a.disk.destination p.trail <+:
            v.disk.start p.trail ++ p.trail.names.dropLast := by
          intro hprefix
          have hlength := hprefix.length_le
          rw [destination, hsa, List.length_append, List.length_append, List.length_dropLast]
            at hlength
          have := List.length_pos_iff.2 hne
          omega
        have hkeptv := find?_fill_of_apart (v := v) hapart
        have hkeptw := find?_fill_of_apart (v := w) hapart
        rw [hfillv] at hkeptv
        rw [hfillw] at hkeptw
        rw [hkeptv, hkeptw]
        exact hway _ List.prefix_rfl

end FolderSync.Volume
