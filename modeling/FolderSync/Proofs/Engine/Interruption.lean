import FolderSync.Proofs.Engine.Run
import FolderSync.Proofs.Inventory

/-!
# Runs that are interrupted

A run that verifies what it receives can be stopped after any of its changes: what can be seen in
the directory is then what was there before, or the content that the manifest announces
(`run_interrupted`).

* `Engine.Safe`: the disk at one moment of a run.
* `Engine.safe_of_advances`: every moment of a run is safe.
-/

namespace FolderSync.Engine

open Moment Progress

/-- What holds of the disk `now` after the changes `made` of a run that began at `s`. -/
structure Safe (e : Engine) (net : Network) (s : Session) (now : Disk) (made : List Change) :
    Prop where
  /-- A visible entry is as it was, or a whole file with the announced hash. -/
  visible : ∀ name : Name, ¬ name.IsHidden →
    now.find? (e.target s.volume.disk ++ [name]) =
        s.volume.disk.find? (e.target s.volume.disk ++ [name]) ∨
      ∃ m d bytes, (fetchManifest net s.asked e.config.baseUrl).2 = .ok m ∧ d ∈ m.artifacts ∧
        utf8 d.filename = name ∧ ContentHash.of bytes = d.hash ∧
        now.find? (e.target s.volume.disk ++ [name]) = some (.file { bytes })
  /-- Nothing disappears. -/
  present : ∀ loc, s.volume.disk.find? loc ≠ none → now.find? loc ≠ none
  /-- A file that was made under a name of its own stands in the directory, under a name that no
  filter accepts and no scan lists. -/
  staging : ∀ loc, .createFile loc ∈ made → ∃ name,
    loc = (e.target s.volume.disk).entry name ∧
      ∀ f : Filter, ¬ f.Matches name ∧
        ∀ p inventory, now.scan f p = .ok inventory → inventory.get? name = none
  /-- At most one of these files is there. -/
  single : ∀ a b, .createFile a ∈ made → .createFile b ∈ made → now.find? a ≠ none →
    now.find? b ≠ none → a = b

variable {e : Engine} {net : Network} {s : Session} {q : Progress} {made : List Change}

/-- Every moment of a run is safe if only announced contents have been promoted. -/
theorem safe_of_advances (hdisk : s.volume.disk.WellFormed)
    (h : Advances (e.target s.volume.disk) ⟨s.volume.disk, none, []⟩ made q)
    (hannounced : ∀ x ∈ q.promoted, ∃ m d, (fetchManifest net s.asked e.config.baseUrl).2 = .ok m ∧
      d ∈ m.artifacts ∧ d.filename = x.1 ∧ ContentHash.of x.2 = d.hash) :
    e.Safe net s q.disk made := by
  have hsince := h.since (.refl hdisk)
  have hstaged : ∀ loc, .createFile loc ∈ made → q.disk.find? loc ≠ none → q.inFlight = some loc := by
    intro loc hloc hthere
    obtain ⟨hfresh, name, token, -, rfl⟩ := h.of_createFile (.refl hdisk) hloc
    by_contra hflight
    exact hthere (hsince.find?_staging hfresh hflight)
  refine ⟨?_, fun loc => hsince.find?_ne_none, ?_, ?_⟩
  · intro name hname
    have hflight : q.inFlight ≠ some (e.target s.volume.disk ++ [name]) := by
      intro hflight
      obtain ⟨-, ⟨hidden, hloc, hhidden⟩, -⟩ := hsince.inFlight _ hflight
      obtain ⟨-, hlast⟩ := List.append_inj' hloc rfl
      exact hname ((List.cons.inj hlast).1 ▸ hhidden)
    by_cases hpromoted : ∀ x ∈ q.promoted,
        e.target s.volume.disk ++ [name] ≠ (e.target s.volume.disk).entry x.1
    · rcases hsince.kept _ hflight hpromoted with hkept | ⟨hway, -, -⟩
      · exact .inl hkept
      · exact absurd hway (not_prefix_of_child _ name)
    · -- the name was promoted; what stands there is what was promoted last
      push Not at hpromoted
      obtain ⟨⟨text, content⟩, hx, hloc⟩ := hpromoted
      obtain ⟨bytes, hlookup⟩ := exists_lookup_of_mem hx
      obtain ⟨m, d, hm, hd, hname', hhash⟩ := hannounced _ (mem_of_lookup hlookup)
      obtain ⟨-, hlast⟩ := List.append_inj' hloc rfl
      refine .inr ⟨m, d, bytes, hm, hd, ?_, hhash, ?_⟩
      · rw [hname', (List.cons.inj hlast).1]
      · rw [hloc]
        exact hsince.promoted text bytes hlookup
  · intro loc hloc
    obtain ⟨-, name, token, -, rfl⟩ := h.of_createFile (.refl hdisk) hloc
    have hhidden := isHidden_stagingName name token
    exact ⟨_, rfl, fun f => ⟨f.not_matches_of_hidden hhidden, fun p inventory hscan =>
      Disk.get?_scan_of_hidden hscan hhidden⟩⟩
  · intro a b ha hb hathere hbthere
    exact Option.some.inj ((hstaged a ha hathere).symm.trans (hstaged b hb hbthere))

/-- **A verified run may stop after any of its changes.** -/
theorem run_interrupted (e : Engine) (net : Network) (draw : Draw) (s : Session)
    (hverify : e.config.verifyIntegrity = true) (hdisk : s.volume.disk.WellFormed)
    (hdirect : s.volume.disk.Direct e.config.targetDir.trail) :
    ∃ changes, (e.run net draw s).1.volume.journal = s.volume.journal ++ changes ∧
      (e.run net draw s).1.volume.disk = s.volume.disk.replay changes ∧
      ∀ made, made <+: changes → e.Safe net s (s.volume.disk.replay made) made := by
  cases hrun : e.run net draw s with
  | mk t r =>
    obtain ⟨done, heffect⟩ := run_leads hdisk hdirect hrun
    obtain ⟨changes, hmakes, hadvances⟩ := heffect.leads
    refine ⟨changes, hmakes.journal, hmakes.disk, ?_⟩
    rintro made ⟨rest, rfl⟩
    obtain ⟨q, hmade, hrest⟩ := hadvances.of_append
    have hreplay : s.volume.disk.replay made = q.disk := hmade.replay
    rw [hreplay]
    refine safe_of_advances hdisk hmade fun x hx => ?_
    -- what has been promoted by now is promoted by the end, where its hash is known
    have hlog := hrest.promoted_suffix.subset hx
    obtain ⟨y, hy, rfl⟩ := List.mem_map.1 (List.mem_reverse.1 hlog)
    obtain ⟨m, hm, hmem⟩ := heffect.listed y hy
    obtain ⟨earlier, later, -, -, hgenuine⟩ := heffect.genuine y hy
    exact ⟨m, y.descriptor, hm, hmem, rfl, hgenuine.verified hverify⟩

theorem run_interrupted_sample : Session.sample.volume.disk.WellFormed ∧
    Session.sample.volume.disk.Direct sample.config.targetDir.trail ∧
    ∃ changes, (sample.run .sample .sample .sample).1.volume.journal =
        Session.sample.volume.journal ++ changes ∧
      (sample.run .sample .sample .sample).1.volume.disk =
        Session.sample.volume.disk.replay changes ∧
      ∀ made, made <+: changes →
        sample.Safe .sample .sample (Session.sample.volume.disk.replay made) made :=
  ⟨Session.wellFormed_sample, Session.direct_sample,
    run_interrupted _ _ _ _ rfl Session.wellFormed_sample Session.direct_sample⟩

end FolderSync.Engine
