import FolderSync.Filter
import FolderSync.Proofs.Text.Encoding

/-!
# The filter as a glob

A filter is shown as its opening, a star and its ending, and that is what it means: a visible name is
managed just if something stands in it between the two (`Filter.matches_iff_glob`).  The test itself
looks at both ends apart; that the bytes of both fit into the name is what keeps them from sharing
characters (`exists_between`).
-/

namespace FolderSync

/-- Characters at the front and characters at the back whose bytes fit beside each other do not
overlap. -/
theorem exists_between {opening ending name : List Char}
    (hlength : (bytesOf opening).length + (bytesOf ending).length ≤ (bytesOf name).length)
    (hopening : opening <+: name) (hending : ending <:+ name) :
    ∃ between, name = opening ++ between ++ ending := by
  obtain ⟨back, hback⟩ := hopening
  obtain ⟨front, rfl⟩ := hending
  rcases List.append_eq_append_iff.1 hback with ⟨between, rfl, -⟩ | ⟨shared, rfl, rfl⟩
  · exact ⟨between, rfl⟩
  · -- the bytes of what both share would count twice
    have hshared : (bytesOf shared).length = 0 := by
      simp only [bytesOf_append, List.length_append] at hlength
      omega
    obtain rfl : shared = [] := bytesOf_inj.1 (List.length_eq_zero_iff.1 hshared)
    exact ⟨[], by simp⟩

namespace Filter

variable {f : Filter} {name : String}

/-- The test on characters is one on bytes. -/
theorem matches_iff_bytes : f.Matches name ↔ name.toList.head? ≠ some '.' ∧
    (utf8 f.opening).length + (utf8 f.ending).length ≤ (utf8 name).length ∧
      utf8 f.opening <+: utf8 name ∧ utf8 f.ending <:+ utf8 name := by
  unfold Matches
  simp only [List.isPrefixOf_iff_prefix, List.isSuffixOf_iff_suffix, ← length_utf8, utf8_eq_bytesOf,
    bytesOf_prefix_iff, bytesOf_suffix_iff]

/-- **A filter means the glob that it is shown as.**  It accepts the visible names that are its opening,
any text and its ending, one behind the other; and it does so by three tests on the bytes of the name:
there are enough of them for both parts, the first are those of the opening and the last are those of
the ending. -/
theorem matches_iff_glob (f : Filter) (name : String) :
    f.display = f.opening ++ "*" ++ f.ending ∧
      (f.Matches name ↔ name.toList.head? ≠ some '.' ∧ ∃ mid, name = f.opening ++ mid ++ f.ending) ∧
      (f.Matches name ↔ name.toList.head? ≠ some '.' ∧
        (utf8 f.opening).length + (utf8 f.ending).length ≤ (utf8 name).length ∧
          utf8 f.opening <+: utf8 name ∧ utf8 f.ending <:+ utf8 name) := by
  refine ⟨rfl, ?_, matches_iff_bytes⟩
  rw [matches_iff_bytes]
  refine and_congr_right fun _ => ?_
  simp only [utf8_eq_bytesOf, bytesOf_prefix_iff, bytesOf_suffix_iff]
  constructor
  · rintro ⟨hlength, hopening, hending⟩
    obtain ⟨between, hname⟩ := exists_between hlength hopening hending
    refine ⟨String.ofList between, String.toList_inj.1 ?_⟩
    rw [hname, String.toList_append, String.toList_append, String.toList_ofList]
  · rintro ⟨mid, rfl⟩
    simp only [String.toList_append, bytesOf_append, List.length_append]
    refine ⟨by omega, ?_, List.suffix_append _ _⟩
    exact (List.prefix_append _ _).trans (List.prefix_append _ _)

/-- The opening and the ending of this name share four characters, so it is too short for both. -/
example : ¬ Matches ⟨"a.jar", ".jar"⟩ "a.jar" ∧ Matches ⟨"a.jar", ".jar"⟩ "a.jar.jar" := by decide

end Filter

end FolderSync
