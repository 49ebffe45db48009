import FolderSync.Toml.Reader
import Mathlib.Data.List.Nodup
import Mathlib.Tactic.Common

/-!
# Keys of tables

No table that is read has a key twice, at whatever depth (`distinct_of_read?`).  Each line of a document
changes the tables that grow in one place, where the key is new (`Entries.Distinct.define`), or where a
section goes or comes from (`Entries.Distinct.alter`); so whatever lines there are, the keys of all tables
stay apart.

* `Toml.Distinct`: no table in a value has a key twice.
* `Node.Distinct`, `Entries.Distinct`, `Document.Distinct`: the same of what still grows.
-/

namespace FolderSync.Toml

/-- The value holds no other values. -/
def IsScalar : Toml → Prop
  | .array _ => False
  | .table _ => False
  | _ => True

/-- No table in the value has a key twice. -/
inductive Distinct : Toml → Prop
  | scalar {v : Toml} (h : v.IsScalar) : Distinct v
  | array {items : List Toml} (items_distinct : ∀ v ∈ items, Distinct v) : Distinct (.array items)
  | table {entries : List (String × Toml)} (nodup : (entries.map Prod.fst).Nodup)
      (values_distinct : ∀ p ∈ entries, Distinct p.2) : Distinct (.table entries)

/-- No table in what stands under a key has a key twice. -/
inductive Node.Distinct : Node → Prop
  | value {v : Toml} (h : v.Distinct) : Distinct (.value v)
  | table {origin : Origin} {entries : Entries} (nodup : (entries.map Prod.fst).Nodup)
      (nodes_distinct : ∀ p ∈ entries, Distinct p.2) : Distinct (.table origin entries)
  | sections {latestFirst : List Entries}
      (nodup : ∀ entries ∈ latestFirst, (entries.map Prod.fst).Nodup)
      (nodes_distinct : ∀ entries ∈ latestFirst, ∀ p ∈ entries, Distinct p.2) :
      Distinct (.sections latestFirst)

/-- No key stands twice in the table that grows, or in a table below. -/
structure Entries.Distinct (entries : Entries) : Prop where
  nodup : (entries.map Prod.fst).Nodup
  nodes_distinct : ∀ p ∈ entries, p.2.Distinct

theorem distinct_table_iff {entries : List (String × Toml)} : (Toml.table entries).Distinct ↔
    (entries.map Prod.fst).Nodup ∧ ∀ p ∈ entries, p.2.Distinct := by
  constructor
  · rintro (⟨⟨⟩⟩ | _ | ⟨nodup, values_distinct⟩)
    exact ⟨nodup, values_distinct⟩
  · exact fun ⟨nodup, values_distinct⟩ => .table nodup values_distinct

theorem Node.distinct_table_iff {origin : Origin} {entries : Entries} :
    Node.Distinct (.table origin entries) ↔ entries.Distinct :=
  ⟨fun | .table nodup nodes_distinct => ⟨nodup, nodes_distinct⟩,
    fun h => .table h.nodup h.nodes_distinct⟩

theorem Node.distinct_sections_iff {latestFirst : List Entries} :
    Node.Distinct (.sections latestFirst) ↔ ∀ entries ∈ latestFirst, Entries.Distinct entries :=
  ⟨fun | .sections nodup nodes_distinct => fun entries h => ⟨nodup entries h, nodes_distinct entries h⟩,
    fun h => .sections (fun entries he => (h entries he).nodup) fun entries he =>
      (h entries he).nodes_distinct⟩

/-! ### Tables that grow -/

namespace Entries

variable {entries after : Entries} {key : String} {node : Node} {v : Toml}

theorem Distinct.nil : Distinct [] := ⟨List.nodup_nil, by simp⟩

theorem Distinct.get? (h : entries.Distinct) (hget : Entries.get? key entries = some node) :
    node.Distinct := by
  obtain ⟨front, back, rfl, -⟩ := List.lookup_eq_some_iff.1 hget
  exact h.nodes_distinct (key, node) (by simp)

/-- The keys stay as they are, or there is a new one behind them. -/
theorem Distinct.set (h : entries.Distinct) (hnode : node.Distinct) :
    (Entries.set key node entries).Distinct := by
  unfold Entries.set
  split
  · have hkeys : (entries.map fun p => if p.1 = key then (key, node) else p).map Prod.fst =
        entries.map Prod.fst := by
      rw [List.map_map]
      refine List.map_congr_left fun p _ => ?_
      show (if p.1 = key then (key, node) else p).1 = p.1
      split
      · exact Eq.symm ‹_›
      · rfl
    refine ⟨hkeys ▸ h.nodup, fun p hp => ?_⟩
    obtain ⟨old, hold, rfl⟩ := List.mem_map.1 hp
    split
    · exact hnode
    · exact h.nodes_distinct old hold
  · rename_i hnew
    have hnotMem : key ∉ entries.map Prod.fst := by
      intro hmem
      obtain ⟨p, hp, hkey⟩ := List.mem_map.1 hmem
      exact hnew (List.any_eq_true.2 ⟨p, hp, decide_eq_true hkey⟩)
    refine ⟨?_, fun p hp => ?_⟩
    · rw [List.map_append, List.map_singleton, List.nodup_append]
      refine ⟨h.nodup, List.nodup_singleton _, fun a ha b hb hab => ?_⟩
      obtain rfl : b = key := List.mem_singleton.1 hb
      exact hnotMem (hab ▸ ha)
    · rcases List.mem_append.1 hp with hp | hp
      · exact h.nodes_distinct p hp
      · rw [List.mem_singleton.1 hp]
        exact hnode

theorem Distinct.erase (h : entries.Distinct) : (Entries.erase key entries).Distinct where
  nodup := h.nodup.sublist (List.filter_sublist.map Prod.fst)
  nodes_distinct p hp := h.nodes_distinct p (List.mem_of_mem_filter hp)

/-- A value is put under a key of its own. -/
theorem Distinct.define (hv : v.Distinct) {path : List String} (h : entries.Distinct)
    (hdefine : Entries.define key v path entries = some after) : after.Distinct := by
  induction path generalizing entries after with
  | nil =>
    simp only [Entries.define] at hdefine
    split at hdefine
    · cases hdefine
      exact h.set (.value hv)
    · cases hdefine
  | cons step more ih =>
    rw [Entries.define] at hdefine
    split at hdefine
    · obtain ⟨inner, hinner, rfl⟩ := Option.map_eq_some_iff.1 hdefine
      exact h.set (Node.distinct_table_iff.2 (ih .nil hinner))
    · rename_i hget
      have hbefore := Node.distinct_table_iff.1 (h.get? hget)
      split at hdefine
      · cases hdefine
      · obtain ⟨inner, hinner, rfl⟩ := Option.map_eq_some_iff.1 hdefine
        exact h.set (Node.distinct_table_iff.2 (ih hbefore hinner))
    · rename_i hget
      have hbefore := List.forall_mem_cons.1 (Node.distinct_sections_iff.1 (h.get? hget))
      split at hdefine
      · cases hdefine
      · obtain ⟨latest, hlatest, rfl⟩ := Option.map_eq_some_iff.1 hdefine
        exact h.set (Node.distinct_sections_iff.2
          (List.forall_mem_cons.2 ⟨ih hbefore.1 hlatest, hbefore.2⟩))
    · cases hdefine
    · cases hdefine

/-- What a change of the table at the end of a path keeps, it keeps of the whole. -/
theorem Distinct.alter {change : Entries → Option (α × Entries)} {P : α → Prop}
    (hchange : ∀ {before after a}, Distinct before → change before = some (a, after) →
      P a ∧ after.Distinct) {path : List String} {a : α} (h : entries.Distinct)
    (halter : Entries.alter change path entries = some (a, after)) : P a ∧ after.Distinct := by
  induction path generalizing entries after with
  | nil => exact hchange h halter
  | cons step more ih =>
    rw [Entries.alter] at halter
    split at halter
    · obtain ⟨⟨_, inner⟩, hinner, heq⟩ := Option.map_eq_some_iff.1 halter
      cases heq
      obtain ⟨ha, hafter⟩ := ih .nil hinner
      exact ⟨ha, h.set (Node.distinct_table_iff.2 hafter)⟩
    · rename_i hget
      obtain ⟨⟨_, inner⟩, hinner, heq⟩ := Option.map_eq_some_iff.1 halter
      cases heq
      obtain ⟨ha, hafter⟩ := ih (Node.distinct_table_iff.1 (h.get? hget)) hinner
      exact ⟨ha, h.set (Node.distinct_table_iff.2 hafter)⟩
    · rename_i hget
      have hbefore := List.forall_mem_cons.1 (Node.distinct_sections_iff.1 (h.get? hget))
      obtain ⟨⟨_, latest⟩, hlatest, heq⟩ := Option.map_eq_some_iff.1 halter
      cases heq
      obtain ⟨ha, hafter⟩ := ih hbefore.1 hlatest
      exact ⟨ha, h.set (Node.distinct_sections_iff.2 (List.forall_mem_cons.2 ⟨hafter, hbefore.2⟩))⟩
    · cases halter
    · cases halter

end Entries

/-! ### Completion -/

theorem closeEntries_eq (entries : Entries) :
    closeEntries entries = entries.map fun p => (p.1, p.2.close) := by
  induction entries with
  | nil => rfl
  | cons p more ih => rw [closeEntries, ih, List.map_cons]

theorem closeSections_eq (latestFirst : List Entries) :
    closeSections latestFirst = latestFirst.map fun entries => .table (closeEntries entries) := by
  induction latestFirst with
  | nil => rfl
  | cons entries more ih => rw [closeSections, ih, List.map_cons]

/-- The table of entries whose nodes have become such values. -/
theorem distinct_closeEntries {entries : Entries} (nodup : (entries.map Prod.fst).Nodup)
    (hclose : ∀ p ∈ entries, p.2.close.Distinct) : Distinct (.table (closeEntries entries)) := by
  rw [closeEntries_eq]
  refine .table ?_ fun p hp => ?_
  · rwa [List.map_map]
  · obtain ⟨old, hold, rfl⟩ := List.mem_map.1 hp
    exact hclose old hold

theorem Node.Distinct.close {node : Node} (h : node.Distinct) : node.close.Distinct := by
  induction h with
  | value h =>
    rw [Node.close]
    exact h
  | table nodup _ ih =>
    rw [Node.close]
    exact distinct_closeEntries nodup ih
  | sections nodup _ ih =>
    rw [Node.close, closeSections_eq]
    refine .array fun v hv => ?_
    obtain ⟨entries, hentries, rfl⟩ := List.mem_map.1 (List.mem_reverse.1 hv)
    exact distinct_closeEntries (nodup entries hentries) (ih entries hentries)

theorem Entries.Distinct.close {entries : Entries} (h : entries.Distinct) :
    Toml.Distinct (.table (closeEntries entries)) :=
  distinct_closeEntries h.nodup fun p hp => (h.nodes_distinct p hp).close

/-! ### Documents -/

/-- No key stands twice in the document, or in the section that is being written. -/
structure Document.Distinct (d : Document) : Prop where
  root : d.root.Distinct
  open_ : ∀ s ∈ d.open_, s.entries.Distinct

namespace Document

variable {d after : Document} {path : List String} {key : String} {v : Toml}

theorem Distinct.define (h : d.Distinct) (hv : v.Distinct)
    (hdefine : d.define path key v = some after) : after.Distinct := by
  unfold Document.define at hdefine
  split at hdefine
  · rename_i hopen
    obtain ⟨root, hroot, rfl⟩ := Option.map_eq_some_iff.1 hdefine
    exact ⟨h.root.define hv hroot, fun s hs => h.open_ s hs⟩
  · rename_i s hopen
    obtain ⟨entries, hentries, rfl⟩ := Option.map_eq_some_iff.1 hdefine
    refine ⟨h.root, fun t ht => ?_⟩
    obtain rfl := (Option.mem_some.1 ht)
    exact (h.open_ s hopen).define hv hentries

theorem Distinct.finish (h : d.Distinct) (hfinish : d.finish = some after) : after.Distinct := by
  unfold Document.finish at hfinish
  split at hfinish
  · cases hfinish
    exact h
  · rename_i s hopen
    have hsection := h.open_ s hopen
    obtain ⟨⟨_, root⟩, hroot, rfl⟩ := Option.map_eq_some_iff.1 hfinish
    refine ⟨(h.root.alter (P := fun _ => True) (fun {before entries _} hbefore hchange => ?_) hroot).2,
      fun _ hs => by cases hs⟩
    -- the section becomes a table, or the latest of a list
    split at hchange
    · split at hchange
      · rename_i hget
        cases hchange
        refine ⟨trivial, hbefore.set (Node.distinct_sections_iff.2 (List.forall_mem_cons.2 ⟨hsection, ?_⟩))⟩
        exact Node.distinct_sections_iff.1 (hbefore.get? hget)
      · cases hchange
    · cases hchange
      exact ⟨trivial, hbefore.set (Node.distinct_table_iff.2 hsection)⟩

theorem Distinct.openTable (h : d.Distinct) (hopen : d.openTable path key = some after) :
    after.Distinct := by
  simp only [Document.openTable, Option.bind_eq_bind, Option.bind_eq_some_iff] at hopen
  obtain ⟨done, hdone, ⟨entries, root⟩, halter, hafter⟩ := hopen
  obtain rfl := Option.some.inj hafter
  obtain ⟨hentries, hroot⟩ := (h.finish hdone).root.alter (P := Entries.Distinct)
    (fun {before inner _} hbefore hchange => by
      split at hchange
      · cases hchange
        exact ⟨.nil, hbefore⟩
      · rename_i hget
        cases hchange
        exact ⟨Node.distinct_table_iff.1 (hbefore.get? hget), hbefore.erase⟩
      · cases hchange) halter
  refine ⟨hroot, fun s hs => ?_⟩
  obtain rfl := Option.mem_some.1 hs
  exact hentries

theorem Distinct.openListed (h : d.Distinct) (hopen : d.openListed path key = some after) :
    after.Distinct := by
  simp only [Document.openListed, Option.bind_eq_bind, Option.bind_eq_some_iff] at hopen
  obtain ⟨done, hdone, ⟨_, root⟩, halter, hafter⟩ := hopen
  obtain rfl := Option.some.inj hafter
  obtain ⟨-, hroot⟩ := (h.finish hdone).root.alter (P := fun _ => True)
    (fun {before inner _} hbefore hchange => by
      split at hchange
      · cases hchange
        exact ⟨trivial, hbefore.set (Node.distinct_sections_iff.2 (by simp))⟩
      · cases hchange
        exact ⟨trivial, hbefore⟩
      · cases hchange) halter
  refine ⟨hroot, fun s hs => ?_⟩
  obtain rfl := Option.mem_some.1 hs
  exact .nil

end Document

/-! ### Values -/

theorem isScalar_of_bounded? {n : Int} {text rest : List Char} {v : Toml}
    (h : bounded? n text = some (v, rest)) : v.IsScalar := by
  unfold bounded? at h
  split at h
  · cases h
    trivial
  · cases h

theorem isScalar_of_number? {text rest : List Char} {v : Toml} (h : number? text = some (v, rest)) :
    v.IsScalar := by
  unfold number? at h
  dsimp only at h
  split at h
  · cases h
  split at h
  · cases h
  split at h
  · cases h
  split at h
  · exact isScalar_of_bounded? h
  · split at h
    · cases h
    · cases h
      trivial

/-- A word or a moment stands for one value. -/
theorem eq_of_map_eq_some {text? : Option (List Char)} {v w : Toml} {rest : List Char}
    (h : text?.map (w, ·) = some (v, rest)) : v = w := by
  obtain ⟨_, -, heq⟩ := Option.map_eq_some_iff.1 h
  exact (Prod.mk.inj heq).1.symm

theorem isScalar_of_inBase? {base : Nat} {text rest : List Char} {v : Toml}
    (h : inBase? base text = some (v, rest)) : v.IsScalar := by
  unfold inBase? at h
  split at h
  · exact isScalar_of_bounded? h
  · cases h

theorem isScalar_of_figure? {text rest : List Char} {v : Toml} (h : figure? text = some (v, rest)) :
    v.IsScalar := by
  unfold figure? at h
  dsimp only at h
  split at h
  · rw [eq_of_map_eq_some h]
    trivial
  split at h
  · rw [eq_of_map_eq_some h]
    trivial
  split at h
  · cases h
    trivial
  · cases h
    trivial
  · split at h
    · exact isScalar_of_inBase? h
    · exact isScalar_of_inBase? h
    · exact isScalar_of_inBase? h
    · exact isScalar_of_number? h

/-- Whatever is read by it has no table with a key twice. -/
def ReadsDistinct (item : List Char → Reading Toml) : Prop :=
  ∀ text v rest, item text = some (v, rest) → v.Distinct

section Nested

variable {item : List Char → Reading Toml} (hitem : ReadsDistinct item)
include hitem

theorem distinct_of_items {done : List Toml} {steps : Nat} {text rest : List Char} {v : Toml}
    (hdone : ∀ v ∈ done, v.Distinct) (h : items item done steps text = some (v, rest)) : v.Distinct := by
  induction steps generalizing done text with
  | zero => cases h
  | succ steps ih =>
    rw [items] at h
    split at h
    · cases h
      exact .array fun v hv => hdone v (List.mem_reverse.1 hv)
    · split at h
      · cases h
      · rename_i hread
        have hmore := List.forall_mem_cons.2 ⟨hitem _ _ _ hread, hdone⟩
        split at h
        · exact ih hmore h
        · cases h
          exact .array fun v hv => hmore v (List.mem_reverse.1 hv)
        · cases h

theorem distinct_of_pair {text rest : List Char} {path : List String} {key : String} {v : Toml}
    (h : pair item text = some (((path, key), v), rest)) : v.Distinct := by
  unfold pair at h
  split at h
  · split at h
    · rename_i hread
      cases h
      exact hitem _ _ _ hread
    · cases h
  · cases h

theorem distinct_of_pairs {entries : Entries} {steps : Nat} {text rest : List Char} {v : Toml}
    (hentries : entries.Distinct) (h : pairs item entries steps text = some (v, rest)) : v.Distinct := by
  induction steps generalizing entries text with
  | zero => cases h
  | succ steps ih =>
    rw [pairs] at h
    split at h
    · cases h
    · rename_i hpair
      split at h
      · cases h
      · rename_i hdefine
        have hmore := hentries.define (distinct_of_pair hitem hpair) hdefine
        split at h
        · exact ih hmore h
        · cases h
          exact hmore.close
        · cases h

end Nested

/-- Lists and inline tables are put together from values that lie less deep; all other values hold none. -/
theorem readsDistinct_value? (depth : Nat) : ReadsDistinct (value? depth) := by
  induction depth using Nat.strongRecOn with
  | ind depth ih =>
    intro text v rest h
    unfold value? at h
    split at h
    · split at h
      · cases h
      · exact distinct_of_items (ih _ (Nat.lt_succ_self _)) (by simp) h
    · split at h
      · cases h
      · split at h
        · cases h
          exact .table List.nodup_nil (by simp)
        · exact distinct_of_pairs (ih _ (Nat.lt_succ_self _)) .nil h
    · refine .scalar ?_
      split at h
      · obtain ⟨_, -, heq⟩ := Option.map_eq_some_iff.1 h
        cases heq
        trivial
      split at h
      · rw [eq_of_map_eq_some h]
        trivial
      split at h
      · rw [eq_of_map_eq_some h]
        trivial
      · exact isScalar_of_figure? h
    · cases h

/-! ### Lines -/

variable {d after : Document}

theorem distinct_of_line? {text rest : List Char} (h : d.Distinct)
    (hline : line? d text = some (after, rest)) : after.Distinct := by
  unfold line? at hline
  split at hline
  · obtain ⟨_, -, heq⟩ := Option.map_eq_some_iff.1 hline
    cases heq
    exact h
  · simp only [Option.bind_eq_bind, Option.bind_eq_some_iff] at hline
    obtain ⟨⟨⟨path, key⟩, _⟩, -, _, -, _, -, _, -, opened, hopen, heq⟩ := hline
    cases heq
    exact h.openListed hopen
  · simp only [Option.bind_eq_bind, Option.bind_eq_some_iff] at hline
    obtain ⟨⟨⟨path, key⟩, _⟩, -, _, -, _, -, opened, hopen, heq⟩ := hline
    cases heq
    exact h.openTable hopen
  · simp only [Option.bind_eq_bind, Option.bind_eq_some_iff] at hline
    obtain ⟨⟨⟨⟨path, key⟩, v⟩, _⟩, hpair, _, -, defined, hdefine, heq⟩ := hline
    cases heq
    exact h.define (distinct_of_pair (readsDistinct_value? depthLimit) hpair) hdefine

theorem distinct_of_lines? {steps : Nat} {text : List Char} (h : d.Distinct)
    (hlines : lines? d steps text = some after) : after.Distinct := by
  induction steps generalizing d text with
  | zero =>
    rw [lines?] at hlines
    split at hlines
    · cases hlines
      exact h
    · cases hlines
  | succ steps ih =>
    rw [lines?] at hlines
    split at hlines
    · cases hlines
      exact h
    · split at hlines
      · exact ih h hlines
      · split at hlines
        · exact ih (distinct_of_line? h ‹_›) hlines
        · cases hlines

/-- **No table that is read has a key twice.** -/
theorem distinct_of_read? {text : String} {v : Toml} (h : read? text = some v) : v.Distinct := by
  obtain ⟨d, hlines, hclose⟩ := Option.bind_eq_some_iff.1 h
  obtain ⟨done, hfinish, rfl⟩ := Option.map_eq_some_iff.1 hclose
  have hempty : Document.Distinct {} := ⟨.nil, fun _ hs => by cases hs⟩
  exact ((distinct_of_lines? hempty hlines).finish hfinish).root.close

end FolderSync.Toml
