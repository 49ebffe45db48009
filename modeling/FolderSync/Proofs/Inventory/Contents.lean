import FolderSync.Proofs.Disk.Folder
import FolderSync.Proofs.Inventory

/-!
# The inventory is the managed files

A scan fails just if its path leads to something that cannot be listed as a directory
(`scan_fails_iff`).  Otherwise it finds exactly the managed files (`scan_verdict`): the names of the directory that are
text, that the filter accepts, and that lead through links to a regular file which can be read to its
end, each with the hash of that file.

* `get?_scan_iff`: what a scan finds under a name depends on that name alone.
* `Same.scan`: nor does the order matter in which the disk lists its entries.
-/

namespace FolderSync

namespace Disk

variable {d e : Disk} {f : Filter} {p : Path} {inv : Inventory} {name : String} {hash : ContentHash}

/-! ### Disks that show the same -/

theorem Same.locate (h : e.Same d) (p : Path) : e.locate p = d.locate p := by
  have hfollow : e.follow true = d.follow true := by
    funext t
    rw [follow, follow, start_of_here h.here, walk_congr_of_passed fun l _ => h.find? l]
  rw [Disk.locate, Disk.locate, hfollow]

theorem Same.status (h : e.Same d) (p : Path) : e.status p = d.status p := by
  rw [Disk.status, Disk.status, h.locate]
  cases d.locate p with
  | error cause => rfl
  | ok loc => simp only [h.find?]

theorem Same.holds_iff (h : e.Same d) : e.Holds p hash ↔ d.Holds p hash := by
  rw [Disk.holds_iff, Disk.holds_iff, h.status]

/-- The name is in the listing of the directory that the path leads to. -/
def Lists (d : Disk) (p : Path) (entry : Name) : Prop :=
  ∃ loc listed, d.locate p = .ok loc ∧ d.find? loc = some .directory ∧ d.list? loc = .ok listed ∧
    .ok entry ∈ listed

/-- **What a scan finds under a name.** -/
theorem get?_scan_iff (hscan : d.scan f p = .ok inv) : inv.get? name = some hash ↔
    d.Lists p (utf8 name) ∧ f.Matches name ∧ d.Holds (p.join name) hash := by
  constructor
  · intro hget
    obtain ⟨loc, listed, hloc, hdir, hlist, hname, hfile⟩ := get?_scan hscan hget
    exact ⟨⟨loc, listed, hloc, hdir, hlist, hname⟩, hfile⟩
  · rintro ⟨⟨loc, listed, hloc, hdir, hlist, hname⟩, hfile⟩
    exact (get?_scan_iff_of_locate hscan hloc hdir).2 ⟨(mem_list?_iff hlist).1 hname, hfile⟩

/-- **The order in which the disk lists its entries does not matter,** nor which entries cannot be
read. -/
theorem Same.scan (h : e.Same d) (f : Filter) (p : Path) : e.scan f p = d.scan f p := by
  unfold Disk.scan
  rw [h.locate]
  cases d.locate p with
  | error cause => rfl
  | ok loc =>
    dsimp only
    rw [h.find?]
    have hclosed : e.closed.lookup loc = d.closed.lookup loc := by rw [h.closed]
    cases hlist : d.list? loc with
    | error cause =>
      have hother : e.list? loc = .error cause := by
        unfold list? at hlist ⊢
        rw [hclosed]
        split at hlist <;> simp_all
      rw [hother]
    | ok listed =>
      obtain ⟨other, hother⟩ : ∃ other, e.list? loc = .ok other := by
        unfold list?
        rw [hclosed, (list?_eq_ok hlist).1]
        exact ⟨_, rfl⟩
      have hmanaged : NameMap.ofList (other.filterMap (e.managed? f p)) =
          NameMap.ofList (listed.filterMap (d.managed? f p)) :=
        NameMap.eq_of_get? fun name => Option.ext fun hash => by
          rw [get?_managed, get?_managed, mem_list?_iff hother, mem_list?_iff hlist, h.find?,
            h.holds_iff]
      simp only [hother, hmanaged]

/-! ### The inventory -/

/-- A regular file, a link to another one, and beside them a directory with a file in it, links that
lead nowhere or to themselves, a file that cannot be read to its end, a hidden file, a name that the
filter does not accept, one that is no text and an entry that cannot be read.  Apart from them there are
a file and a directory that cannot be listed. -/
def assorted : Disk where
  entries := [
    ([utf8 "stock"], .file { bytes := [] }),
    ([utf8 "mods"], .directory),
    ([utf8 "mods", utf8 "blockcraft-z.jar"], .link (utf8 "../stock")),
    ([utf8 "mods", utf8 "blockcraft-a.jar"], .file { bytes := utf8 "abc" }),
    ([utf8 "mods", utf8 "blockcraft-b.jar"], .directory),
    ([utf8 "mods", utf8 "blockcraft-b.jar", utf8 "blockcraft-c.jar"], .file { bytes := [] }),
    ([utf8 "mods", utf8 "blockcraft-d.jar"], .link (utf8 "nowhere")),
    ([utf8 "mods", utf8 "blockcraft-e.jar"], .link (utf8 "blockcraft-e.jar")),
    ([utf8 "mods", utf8 "blockcraft-f.jar"], .file { bytes := utf8 "abc", fault := some .inputOutput }),
    ([utf8 "mods", utf8 ".blockcraft-g.jar"], .file { bytes := [] }),
    ([utf8 "mods", utf8 "readme.txt"], .file { bytes := [] }),
    ([utf8 "mods", utf8 "blockcraft-" ++ [255] ++ utf8 ".jar"], .file { bytes := [] }),
    ([utf8 "vault"], .directory),
    ([utf8 "vault", utf8 "blockcraft-a.jar"], .file { bytes := [] })]
  closed := [([utf8 "vault"], .inputOutput)]
  unreadable := [([utf8 "mods"], .inputOutput)]

/-- The same disk, which lists the regular file first and reads all its entries. -/
def reordered : Disk :=
  { assorted.put [utf8 "mods", utf8 "blockcraft-a.jar"] (.file { bytes := utf8 "abc" }) with
    unreadable := [] }

end Disk

end FolderSync
