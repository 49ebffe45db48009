import FolderSync.Proofs.Engine.Convergence

/-!
# Runs one after the other

Engines that keep one directory run one after the other, each with a filter of its own and before
servers that may answer every run differently.  Whatever stands in the directory after such a
history can be traced back (`after_traced`): it stood there at the start, or it is a whole file that
a manifest of the history announced under that very name.

* `Round`, `Session.after`: one run, and the session after several.
* `Declared`: what the manifests of a history announced.
* `Traced`: the directory after a history beside the directory before it.
-/

namespace FolderSync

open Moment Progress

/-! ### Histories -/

/-- One run of a history: the engine, the network that it meets, and the tokens that are drawn. -/
structure Round where
  engine : Engine
  net : Network
  draw : Draw

/-- The session after one more round. -/
def Round.after (s : Session) (r : Round) : Session := (r.engine.run r.net r.draw s).1

/-- The session after the rounds of a history. -/
def Session.after (s : Session) (rounds : List Round) : Session := rounds.foldl Round.after s

@[simp] theorem Session.after_nil (s : Session) : s.after [] = s := rfl

theorem Session.after_concat (s : Session) (rounds : List Round) (r : Round) :
    s.after (rounds ++ [r]) = Round.after (s.after rounds) r := by
  simp [Session.after, List.foldl_append]

/-- A round of the history was given a manifest that announces the hash under the name, and the
filter of that round accepts the name. -/
def Declared (s : Session) (rounds : List Round) (name : String) (hash : ContentHash) : Prop :=
  ∃ before r later m d, rounds = before ++ r :: later ∧
    (fetchManifest r.net (s.after before).asked r.engine.config.baseUrl).2 = .ok m ∧
    d ∈ m.artifacts ∧ d.filename = name ∧ d.hash = hash ∧ r.engine.config.filter.Matches name

/-- What was announced stays announced. -/
theorem Declared.concat {s : Session} {rounds : List Round} {name : String} {hash : ContentHash}
    (h : Declared s rounds name hash) (r : Round) : Declared s (rounds ++ [r]) name hash := by
  obtain ⟨before, q, later, m, d, rfl, hrest⟩ := h
  exact ⟨before, q, later ++ [r], m, d, by simp, hrest⟩

/-! ### One round -/

namespace Engine

variable {e : Engine} {net : Network} {draw : Draw} {s t : Session} {r : Report}
  {done : List Delivery}

/-- What stands in the directory after a verified run: what stood there before, or the content that
the manifest announces. -/
theorem Effect.entry_cases (h : e.Effect net s t r done) (hdisk : s.volume.disk.WellFormed)
    (hverify : e.config.verifyIntegrity = true) (name : Name) :
    t.volume.disk.find? (e.target s.volume.disk ++ [name]) =
        s.volume.disk.find? (e.target s.volume.disk ++ [name]) ∨
      ∃ x ∈ done, utf8 x.descriptor.filename = name ∧ ContentHash.of x.body = x.descriptor.hash ∧
        t.volume.disk.find? (e.target s.volume.disk ++ [name]) = some (.file { bytes := x.body }) := by
  by_cases hname : ∃ x ∈ done, utf8 x.descriptor.filename = name
  · obtain ⟨x, hx, rfl⟩ := hname
    exact .inr ⟨x, hx, rfl, h.verified hverify hx, h.find?_entry hdisk hx⟩
  · refine .inl ?_
    have hapart : ∀ x ∈ done, e.target s.volume.disk ++ [name] ≠
        (e.target s.volume.disk).entry x.descriptor.filename := by
      intro x hx heq
      have hlast := (List.append_inj' heq rfl).2
      exact hname ⟨x, hx, (List.cons.inj hlast).1.symm⟩
    rcases h.keptAt hdisk hapart with hkept | ⟨hway, -, -⟩
    · exact hkept
    · exact absurd hway (not_prefix_of_child _ name)

end Engine

/-! ### Many rounds -/

/-- The directory that a path leads to, after the rounds of a history that began at `s`. -/
structure Traced (p : Path) (s : Session) (rounds : List Round) : Prop where
  wellFormed : (s.after rounds).volume.disk.WellFormed
  direct : (s.after rounds).volume.disk.Direct p.trail
  /-- The path leads to the same place as before. -/
  place : (s.after rounds).volume.disk.destination p.trail = s.volume.disk.destination p.trail
  /-- Nothing disappears. -/
  present : ∀ name : Name,
    s.volume.disk.find? (s.volume.disk.destination p.trail ++ [name]) ≠ none →
      (s.after rounds).volume.disk.find? (s.volume.disk.destination p.trail ++ [name]) ≠ none
  /-- An entry is as it was, or a whole file with a hash that was announced under its name. -/
  origin : ∀ name : Name,
    (s.after rounds).volume.disk.find? (s.volume.disk.destination p.trail ++ [name]) =
        s.volume.disk.find? (s.volume.disk.destination p.trail ++ [name]) ∨
      ∃ text bytes, utf8 text = name ∧ Declared s rounds text (.of bytes) ∧
        (s.after rounds).volume.disk.find? (s.volume.disk.destination p.trail ++ [name]) =
          some (.file { bytes })
  /-- Nothing hidden is added or changed. -/
  hidden : ∀ name : Name, name.IsHidden →
    (s.after rounds).volume.disk.find? (s.volume.disk.destination p.trail ++ [name]) =
      s.volume.disk.find? (s.volume.disk.destination p.trail ++ [name])

variable {p : Path} {s : Session} {rounds : List Round} {r : Round}

theorem Traced.nil (hdisk : s.volume.disk.WellFormed) (hdirect : s.volume.disk.Direct p.trail) :
    Traced p s [] where
  wellFormed := hdisk
  direct := hdirect
  place := rfl
  present _ h := h
  origin _ := .inl rfl
  hidden _ _ := rfl

/-- One more round keeps everything traced. -/
theorem Traced.concat (h : Traced p s rounds) (htarget : r.engine.config.targetDir = p)
    (hverify : r.engine.config.verifyIntegrity = true) : Traced p s (rounds ++ [r]) := by
  subst htarget
  cases hrun : r.engine.run r.net r.draw (s.after rounds) with
  | mk t report =>
    have hafter : s.after (rounds ++ [r]) = t := by
      rw [Session.after_concat, Round.after, hrun]
    obtain ⟨done, heffect⟩ := Engine.run_leads h.wellFormed h.direct hrun
    have hplace : r.engine.target (s.after rounds).volume.disk =
        s.volume.disk.destination r.engine.config.targetDir.trail := h.place
    have hcases := heffect.entry_cases h.wellFormed hverify
    rw [hplace] at hcases
    -- an entry that this round made was announced in this round
    have hdeclared : ∀ x ∈ done, ContentHash.of x.body = x.descriptor.hash →
        Declared s (rounds ++ [r]) x.descriptor.filename (.of x.body) := by
      intro x hx hhash
      obtain ⟨m, hm, hmem⟩ := heffect.listed x hx
      exact ⟨rounds, r, [], m, x.descriptor, rfl, hm, hmem, rfl, hhash.symm,
        heffect.matches_filename hrun hx⟩
    refine ⟨?_, ?_, ?_, ?_, ?_, ?_⟩ <;> rw [hafter]
    · exact heffect.wellFormed h.wellFormed
    · exact heffect.direct h.wellFormed h.direct
    · exact (heffect.target_eq h.wellFormed).trans h.place
    · intro name hname
      exact (heffect.since h.wellFormed).find?_ne_none (h.present name hname)
    · intro name
      rcases hcases name with hkept | ⟨x, hx, hname, hhash, hfile⟩
      · rw [hkept]
        rcases h.origin name with hsame | ⟨text, bytes, htext, hbefore, hfile⟩
        · exact .inl hsame
        · exact .inr ⟨text, bytes, htext, hbefore.concat r, hfile⟩
      · exact .inr ⟨_, x.body, hname, hdeclared x hx hhash, hfile⟩
    · intro name hname
      rcases hcases name with hkept | ⟨x, hx, rfl, -, -⟩
      · rw [hkept, h.hidden name hname]
      · exact absurd hname (not_isHidden_of_plain x.descriptor.nameFault?_filename)

/-- **Whatever stands in a directory after verified runs stood there at the start or was announced
under its name.** -/
theorem after_traced (p : Path) (s : Session) (rounds : List Round)
    (hdisk : s.volume.disk.WellFormed) (hdirect : s.volume.disk.Direct p.trail)
    (hrounds : ∀ r ∈ rounds, r.engine.config.targetDir = p ∧
      r.engine.config.verifyIntegrity = true) : Traced p s rounds := by
  induction rounds using List.reverseRecOn with
  | nil => exact .nil hdisk hdirect
  | append_singleton front r ih =>
    obtain ⟨htarget, hverify⟩ := hrounds r (by simp)
    exact (ih fun q hq => hrounds q (List.mem_append_left _ hq)).concat htarget hverify

/-- Two rounds: one before the small server, one with the link down. -/
theorem after_traced_sample : Session.sample.volume.disk.WellFormed ∧
    Session.sample.volume.disk.Direct Engine.sample.config.targetDir.trail ∧
    Traced Engine.sample.config.targetDir .sample
      [⟨.sample, .sample, .sample⟩, ⟨.sample, .ofRoutes false [], .sample⟩] := by
  refine ⟨Session.wellFormed_sample, Session.direct_sample,
    after_traced _ _ _ Session.wellFormed_sample Session.direct_sample fun r hr => ?_⟩
  rcases List.mem_cons.1 hr with rfl | hr
  · exact ⟨rfl, rfl⟩
  · obtain rfl := List.mem_singleton.1 hr
    exact ⟨rfl, rfl⟩

end FolderSync
