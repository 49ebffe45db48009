import FolderSync.Proofs.Engine.Run

/-!
# What a run can change

Whatever the server replies, a run changes a directory only where it reports an artifact as
installed (`run_confined`).

* `Engine.Confined`: the disk after a run beside the disk before it.
-/

namespace FolderSync.Engine

open Moment Progress

/-- The disk of `t` is the one of `s`, but for the artifacts that are reported as installed and for
missing directories on the way to the directory. -/
structure Confined (e : Engine) (net : Network) (s t : Session) (r : Report) : Prop where
  here : t.volume.disk.here = s.volume.disk.here
  /-- Under the name of an artifact that is reported stands the body that was received for it. -/
  installed : ∀ o ∈ r.installed,
    ∃ m d earlier later reply, (fetchManifest net s.asked e.config.baseUrl).2 = .ok m ∧
      d ∈ m.artifacts ∧ d.filename = o.filename ∧ s.asked <+: earlier ∧ later <+: t.asked ∧
      net.request earlier d.url = (later, .ok reply) ∧ reply.status = 200 ∧ reply.complete = true ∧
      t.volume.disk.find? ((e.target s.volume.disk).entry o.filename) =
        some (.file { bytes := reply.body }) ∧
      o.bytes = reply.body.length ∧ o.hash = .of reply.body
  /-- Anywhere else the disk is as it was, or a missing directory on the way was made. -/
  kept : ∀ loc, (∀ o ∈ r.installed, loc ≠ (e.target s.volume.disk).entry o.filename) →
    t.volume.disk.find? loc = s.volume.disk.find? loc ∨
      (loc <+: e.target s.volume.disk ∧ s.volume.disk.find? loc = none ∧
        t.volume.disk.find? loc = some .directory)
  /-- Nothing disappears. -/
  present : ∀ loc, s.volume.disk.find? loc ≠ none → t.volume.disk.find? loc ≠ none
  /-- Of the files that were made under a name of their own none is left. -/
  noStaging : ∃ changes, t.volume.journal = s.volume.journal ++ changes ∧
    t.volume.disk = s.volume.disk.replay changes ∧
    ∀ loc, .createFile loc ∈ changes → t.volume.disk.find? loc = none

/-- **A run changes nothing but what it reports.** -/
theorem run_confined (e : Engine) (net : Network) (draw : Draw) (s : Session)
    (hdisk : s.volume.disk.WellFormed) (hdirect : s.volume.disk.Direct e.config.targetDir.trail) :
    e.Confined net s (e.run net draw s).1 (e.run net draw s).2 := by
  cases hrun : e.run net draw s with
  | mk t r =>
    obtain ⟨done, heffect⟩ := run_leads hdisk hdirect hrun
    have hsince := heffect.since hdisk
    refine ⟨hsince.here, ?_, ?_, fun loc => hsince.find?_ne_none, ?_⟩
    · intro o ho
      obtain ⟨x, hx, rfl⟩ := List.mem_map.1 (heffect.installed ▸ ho)
      obtain ⟨m, hm, hmem⟩ := heffect.listed x hx
      obtain ⟨earlier, later, hearlier, hlater, hgenuine⟩ := heffect.genuine x hx
      obtain ⟨reply, hrequest, hstatus, hcomplete, hbody⟩ := hgenuine.received
      refine ⟨m, x.descriptor, earlier, later, reply, hm, hmem, hgenuine.filename.symm, hearlier,
        hlater, hrequest, hstatus, hcomplete, ?_, ?_, ?_⟩
      · rw [hgenuine.filename, hbody]
        exact heffect.find?_entry hdisk hx
      · rw [hgenuine.bytes, hbody]
      · rw [hgenuine.hash, hbody]
    · intro loc hloc
      refine heffect.keptAt hdisk fun x hx => ?_
      obtain ⟨earlier, later, -, -, hgenuine⟩ := heffect.genuine x hx
      rw [← hgenuine.filename]
      exact hloc _ (heffect.installed ▸ List.mem_map_of_mem hx)
    · obtain ⟨changes, hmakes, hadvances⟩ := heffect.leads
      refine ⟨changes, hmakes.journal, hmakes.disk, fun loc hloc => ?_⟩
      obtain ⟨hfresh, name, token, -, rfl⟩ := hadvances.of_createFile (.refl hdisk) hloc
      exact hsince.find?_staging hfresh (by simp)

theorem run_confined_sample : Session.sample.volume.disk.WellFormed ∧
    Session.sample.volume.disk.Direct sample.config.targetDir.trail ∧
    sample.Confined .sample .sample (sample.run .sample .sample .sample).1
      (sample.run .sample .sample .sample).2 :=
  ⟨Session.wellFormed_sample, Session.direct_sample,
    run_confined _ _ _ _ Session.wellFormed_sample Session.direct_sample⟩

end FolderSync.Engine
