import FolderSync.Fetch
import FolderSync.Proofs.Url.Path
import FolderSync.Proofs.Url.Spelling

/-!
# Where the manifest is asked for

The manifest's path is put behind the text of the server's address.  It is asked for below that
address just if nothing but its path follows the host, no blank stands at its end, and no slash is
doubled (`IsRoot`, `manifestUrl_verdict`).

* `Parted`: a text that consists of an authority and a path.
-/

namespace FolderSync.Url

variable {scheme : String}

/-! ### An authority and a path -/

/-- The text is that of an authority and a path, and the address is one with that authority. -/
structure Parted (u : Url) (rest front path : List Char) : Prop where
  rest_eq : rest = front ++ path
  front_plain : ∀ c ∈ front, endsAuthority .web c = false
  path_head : ∀ c ∈ path.head?, isSlash c = true
  path_plain : ∀ c ∈ path, endsPath c = false
  read : ∃ reading, readAuthority .web u.scheme front = .ok reading ∧
    u.authority = some reading.1
  query : u.query = none
  fragment : u.fragment = none

variable {text : String} {u e : Url} {rest front path slashes blanks : List Char}

/-- A path ends an authority, and so does what is put behind one that is empty. -/
theorem endsAuthority_of_head? {more : List Char} (hpath : ∀ c ∈ path.head?, isSlash c = true)
    (hmore : ∀ c ∈ more.head?, isSlash c = true) :
    ∀ c ∈ (path ++ more).head?, endsAuthority .web c = true := by
  intro c hc
  rw [List.head?_append, Option.mem_def, Option.or_eq_some_iff] at hc
  rcases hc with hc | ⟨-, hc⟩
  · exact endsAuthority_of_isSlash (hpath c hc)
  · exact endsAuthority_of_isSlash (hmore c hc)

theorem endsPath_append {more : List Char} (hpath : ∀ c ∈ path, endsPath c = false)
    (hmore : ∀ c ∈ more, endsPath c = false) : ∀ c ∈ path ++ more, endsPath c = false := by
  intro c hc
  rcases List.mem_append.1 hc with hc | hc
  · exact hpath c hc
  · exact hmore c hc

/-- An address without a query and a fragment has an authority and a path; without the slashes at
its end the path consists of the steps that are taken. -/
theorem Extends.exists_parted (h : Extends text u.scheme rest slashes blanks)
    (hparse : parse text = .ok u) (hplain : ∀ c ∈ rest, endsPath c = false) :
    ∃ front path, Parted u rest front path ∧
      withoutSlashes u.path = String.ofList ((pathOf (taken path)).rdropWhile (· = '/')) := by
  obtain ⟨front, path, rfl, hfront, hback⟩ := exists_cut (endsAuthority .web) rest
  have hpath : ∀ c ∈ path, endsPath c = false := fun c hc => hplain c (List.mem_append_right _ hc)
  have hhead : ∀ c ∈ path.head?, isSlash c = true := fun c hc =>
    isSlash_of_endsAuthority (hback c hc) (hpath c (List.mem_of_mem_head? hc))
  have hslashes : ∀ c ∈ slashes, isSlash c = true ∧ endsPath c = false := fun c hc => by
    rw [h.slash c hc]
    decide
  have hback' := endsAuthority_of_head? hhead fun c hc => (hslashes c (List.mem_of_mem_head? hc)).1
  have hplain' := endsPath_append hpath fun c hc => (hslashes c hc).2
  rw [h.parse_eq, List.append_assoc, readBehindSlashes_plain hfront hback' hplain',
    map_eq_ok_iff] at hparse
  obtain ⟨reading, hreading, heq⟩ := hparse
  obtain ⟨more, hmore, hpathStart⟩ := exists_readPathStart_eq hhead h.slash
  refine ⟨front, path, ⟨rfl, hfront, hhead, hpath, ⟨reading, hreading,
    (congrArg Url.authority heq).symm⟩, (congrArg Url.query heq).symm,
    (congrArg Url.fragment heq).symm⟩, ?_⟩
  have hlist : u.path.toList = pathOf (taken path) ++ more := by
    rw [← congrArg Url.path heq, String.toList_ofList, hpathStart]
  rw [withoutSlashes, hlist, rdropWhile_append]
  exact fun c hc => decide_eq_true (hmore c hc)

/-- A path that is not empty goes on with what does not end it. -/
theorem Parted.append (h : Parted u rest front path) (hne : path ≠ []) {more : List Char}
    (hmore : ∀ c ∈ more, endsPath c = false) :
    Parted u (rest ++ more) front (path ++ more) where
  rest_eq := by rw [h.rest_eq, List.append_assoc]
  front_plain := h.front_plain
  path_head := by
    rw [List.head?_append_of_ne_nil _ hne]
    exact h.path_head
  path_plain := endsPath_append h.path_plain hmore
  read := h.read
  query := h.query
  fragment := h.fragment

/-- What is put behind a path that is read goes on from its steps. -/
theorem Parted.read_append (h : Parted u rest front path) {more : List Char}
    (hmore : ∀ c ∈ more, endsPath c = false) :
    readBehindSlashes .web u.scheme (rest ++ '/' :: more) =
      .ok { u with
        path := String.ofList (pathOf (takeSteps .web (taken path) (fieldsBy isSlash more))) } := by
  obtain ⟨reading, hreading, hauthority⟩ := h.read
  have hback : ∀ c ∈ (path ++ '/' :: more).head?, endsAuthority .web c = true :=
    endsAuthority_of_head? h.path_head (by rintro c ⟨⟩; rfl)
  have hplain : ∀ c ∈ path ++ '/' :: more, endsPath c = false :=
    endsPath_append h.path_plain (List.forall_mem_cons.2 ⟨by decide, hmore⟩)
  rw [h.rest_eq, List.append_assoc, readBehindSlashes_plain h.front_plain hback hplain, hreading,
    readPathStart_append h.path_head, hauthority, h.query, h.fragment]
  rfl

/-! ### The endpoint -/

theorem manifestUrl_eq (baseUrl : String) :
    manifestUrl baseUrl = withoutSlashes baseUrl ++ manifestPath := rfl

theorem toList_manifestPath : manifestPath.toList = '/' :: "api/mods-manifest".toList := rfl

theorem plain_manifest {c : Char} (hc : c ∈ "api/mods-manifest".toList) :
    isEdge c = false ∧ endsPath c = false := by
  have hall : ("api/mods-manifest".toList.all fun c => !isEdge c && !endsPath c) = true := by
    decide +kernel
  simpa using List.all_eq_true.1 hall c hc

theorem pathOf_manifest (done : List (List Char)) :
    pathOf (takeSteps .web done (fieldsBy isSlash "api/mods-manifest".toList)) =
      pathOf done ++ manifestPath.toList := by
  have hfields : fieldsBy isSlash "api/mods-manifest".toList =
      ["api".toList, "mods-manifest".toList] := by decide
  have hsteps : takeSteps .web done ["api".toList, "mods-manifest".toList] =
      done ++ ["api".toList, "mods-manifest".toList] := by
    rw [takeSteps_plain (by decide) (by decide) (by decide),
      takeSteps_plain (by decide) (by decide) (by decide), takeSteps, List.append_assoc]
    rfl
  have hpath : pathOf ["api".toList, "mods-manifest".toList] = manifestPath.toList := by decide
  rw [hfields, hsteps, pathOf_append, hpath]

/-- The text is that of an address to which a path can be added: nothing but its path follows the
host, only such blanks stand at the end as count nowhere, and the path does not end in an empty
step, which a slash behind it would double. -/
structure IsRoot (text : String) : Prop where
  plain : '?' ∉ text.toList ∧ '#' ∉ text.toList
  trailing : ∀ c ∈ text.toList.rtakeWhile isEdge, counts c = false
  single : ∀ u, parse (withoutSlashes text ++ "/") = .ok u → ¬ ['/', '/'] <:+ u.path.toList

theorem slashes_suffix_iff {l : List Char} :
    ['/', '/'] <:+ l ++ ['/'] ↔ l.rdropWhile (· = '/') ≠ l := by
  have hslashes : ['/', '/'] = ['/'] ++ ['/'] := rfl
  rw [Ne, List.rdropWhile_eq_self_iff, hslashes]
  constructor
  · rintro ⟨front, heq⟩ hlast
    rw [← List.append_assoc, List.append_left_inj] at heq
    subst heq
    exact hlast (by simp) (by simp)
  · intro hlast
    obtain ⟨hne, hslash⟩ : ∃ hne : l ≠ [], l.getLast hne = '/' := by simpa using hlast
    rw [← List.dropLast_append_getLast hne, hslash, List.append_assoc]
    exact ⟨l.dropLast, rfl⟩

theorem ne_withoutSlashes_append (path : String) : path ≠ withoutSlashes path ++ manifestPath := by
  intro heq
  have hself : path.toList.rdropWhile (· = '/') = path.toList := by
    rw [List.rdropWhile_eq_self_iff, heq, String.toList_append]
    intro hl
    rw [List.getLast_append_of_ne_nil _ (by decide)]
    decide
  have hlist := congrArg String.toList heq
  rw [String.toList_append, withoutSlashes, String.toList_ofList, hself] at hlist
  exact absurd (List.self_eq_append_right.1 hlist) (by decide)

/-- The manifest's path is read as it is wherever it stands. -/
theorem Extends.parse_manifestUrl (h : Extends text scheme rest slashes blanks) :
    parse (manifestUrl text) =
      readBehindSlashes .web scheme (rest ++ (blanks ++ manifestPath.toList)) := by
  rw [manifestUrl_eq]
  refine h.parse_append manifestPath (by decide) ?_
  rw [toList_manifestPath]
  exact List.forall_mem_cons.2 ⟨rfl, fun c hc => (plain_manifest hc).1⟩

/-- Behind a query or a fragment the manifest's path is no part of the path. -/
theorem Extends.path_eq_of_not_plain (h : Extends text u.scheme rest slashes blanks)
    (hparse : parse text = .ok u) (hplain : ¬ ∀ c ∈ rest, endsPath c = false)
    (he : parse (manifestUrl text) = .ok e) : e.path = u.path := by
  obtain ⟨front, back, rfl, hfront, hback⟩ := exists_cut endsPath rest
  cases back with
  | nil => exact absurd (by simpa using hfront) hplain
  | cons c more =>
    have hc : endsPath c = true := hback c rfl
    rw [h.parse_eq, List.append_assoc, List.cons_append, readBehindSlashes_stop hfront hc,
      map_eq_ok_iff] at hparse
    rw [h.parse_manifestUrl, List.append_assoc, List.cons_append, readBehindSlashes_stop hfront hc,
      map_eq_ok_iff] at he
    obtain ⟨v, hv, rfl⟩ := hparse
    obtain ⟨w, hw, rfl⟩ := he
    obtain rfl : v = w := Except.ok.inj (hv.symm.trans hw)
    rfl

/-- Behind a blank the manifest's path is part of the host, or of a longer step. -/
theorem Extends.path_ne_of_blanks (h : Extends text u.scheme rest slashes blanks)
    (hparted : Parted u rest front path)
    (hpath : withoutSlashes u.path = String.ofList ((pathOf (taken path)).rdropWhile (· = '/')))
    (hne : blanks ≠ []) (he : parse (manifestUrl text) = .ok e) : e.path ≠ withoutSlashes u.path ++ manifestPath := by
  obtain ⟨init, x, rfl⟩ := (List.eq_nil_or_concat' blanks).resolve_left hne
  have hinit : ∀ c ∈ init, isEdge c = true := fun c hc => h.edge c (List.mem_append_left _ hc)
  have hx : isEdge x = true := h.edge x (by simp)
  rw [h.parse_manifestUrl, ← List.append_assoc] at he
  by_cases hnil : path = []
  · -- the blank stands at the end of the host
    have hfront : ∀ c ∈ front ++ init, endsAuthority .web c = false := by
      intro c hc
      rcases List.mem_append.1 hc with hc | hc
      · exact hparted.front_plain c hc
      · exact endsAuthority_of_isEdge (hinit c hc)
    have hfront' : ∀ c ∈ front ++ init ++ [x], endsAuthority .web c = false := by
      simpa [or_imp, forall_and, endsAuthority_of_isEdge hx] using hfront
    have hrest : rest ++ (init ++ [x]) = front ++ init ++ [x] := by
      rw [hparted.rest_eq, hnil, List.append_nil, List.append_assoc]
    rw [hrest, toList_manifestPath, readBehindSlashes_append hfront' (by rintro c ⟨⟩; rfl),
      map_eq_ok_iff] at he
    obtain ⟨reading, hreading, -⟩ := he
    exact absurd hreading (readAuthority_concat hx hfront reading)
  · have hblanks : ∀ c ∈ init ++ [x], endsPath c = false := fun c hc =>
      endsPath_of_isEdge (h.edge c hc)
    rw [toList_manifestPath, (hparted.append hnil hblanks).read_append fun c hc =>
      (plain_manifest hc).2, pathOf_manifest] at he
    cases he
    intro heq
    have hlist := congrArg String.toList heq
    rw [hpath, String.toList_append, String.toList_ofList, String.toList_ofList,
      List.append_left_inj, ← List.append_assoc] at hlist
    have hlonger := length_taken_concat hnil hinit hx
    have hshorter := (List.rdropWhile_prefix (· = '/') (l := pathOf (taken path))).length_le
    rw [← hlist] at hshorter
    omega

/-- In front of a path without a query, a fragment or blanks behind it the manifest's path follows
the steps that are taken. -/
theorem Extends.parse_manifestUrl_eq (h : Extends text u.scheme rest slashes [])
    (hparted : Parted u rest front path) :
    parse (manifestUrl text) =
      .ok { u with path := String.ofList (pathOf (taken path)) ++ manifestPath } := by
  rw [h.parse_manifestUrl, List.nil_append, toList_manifestPath,
    hparted.read_append fun c hc => (plain_manifest hc).2,
    pathOf_manifest, String.ofList_append, String.ofList_toList]

/-- A slash behind the path is doubled if the steps that are taken end in an empty one. -/
theorem Extends.single_iff (h : Extends text u.scheme rest slashes [])
    (hparted : Parted u rest front path) :
    (∀ v, parse (withoutSlashes text ++ "/") = .ok v → ¬ ['/', '/'] <:+ v.path.toList) ↔
      (pathOf (taken path)).rdropWhile (· = '/') = pathOf (taken path) := by
  have hslash : "/".toList = ['/'] := rfl
  have hread : parse (withoutSlashes text ++ "/") =
      .ok { u with path := String.ofList (pathOf (taken path) ++ ['/']) } := by
    have hedge : ∀ c ∈ "/".toList, isEdge c = false := by
      rintro c (_ | ⟨_, ⟨⟩⟩)
      rfl
    rw [h.parse_append "/" (by decide) hedge, List.nil_append, hslash,
      hparted.read_append (by simp), takeSteps_slashes _ (by simp)]
  rw [hread]
  constructor
  · intro hall
    have hsingle := hall _ rfl
    rw [String.toList_ofList, slashes_suffix_iff] at hsingle
    exact not_not.1 hsingle
  · rintro hself v ⟨⟩
    rw [String.toList_ofList, slashes_suffix_iff]
    exact not_not.2 hself

theorem exists_parse_of_usable {c : Config} (h : c.Usable) :
    ∃ base, parse c.baseUrl = .ok base ∧ base.IsHttp := by
  unfold Config.Usable Config.fault? at h
  split at h
  · cases h
  split at h
  · cases h
  rename_i base hbase
  split at h
  · cases h
  · exact ⟨base, hbase, not_not.1 ‹_›⟩

/-- **Where the manifest is asked for.**  It is asked for below the server's address if its path can
be added there; else the address is not read, or leads to another path. -/
theorem manifestUrl_verdict {c : Config} (h : c.Usable) :
    ∃ base, parse c.baseUrl = .ok base ∧
      (IsRoot c.baseUrl → parse (manifestUrl c.baseUrl) =
        .ok { base with path := withoutSlashes base.path ++ manifestPath }) ∧
      (¬ IsRoot c.baseUrl → ∀ e, parse (manifestUrl c.baseUrl) = .ok e →
        e.path ≠ withoutSlashes base.path ++ manifestPath) := by
  obtain ⟨base, hparse, hhttp⟩ := exists_parse_of_usable h
  obtain ⟨rest, slashes, blanks, hextends⟩ := exists_extends hparse hhttp
  refine ⟨base, hparse, ?_⟩
  by_cases hplain : ∀ c ∈ rest, endsPath c = false
  · obtain ⟨front, path, hparted, hpath⟩ := hextends.exists_parted hparse hplain
    by_cases hblanks : blanks = []
    · subst hblanks
      rw [hextends.parse_manifestUrl_eq hparted, hpath]
      constructor
      · intro hroot
        rw [(hextends.single_iff hparted).1 hroot.single]
      · rintro hroot e ⟨⟩ heq
        refine hroot ⟨hextends.plain_iff.1 hplain, hextends.blanks_iff.1 rfl,
          (hextends.single_iff hparted).2 ?_⟩
        have hlist := congrArg String.toList heq
        rw [String.toList_append, String.toList_append, List.append_left_inj, String.toList_ofList,
          String.toList_ofList] at hlist
        exact hlist.symm
    · exact ⟨fun hroot => absurd (hextends.blanks_iff.2 hroot.trailing) hblanks,
        fun _ e he => hextends.path_ne_of_blanks hparted hpath hblanks he⟩
  · refine ⟨fun hroot => absurd (hextends.plain_iff.2 hroot.plain) hplain, fun _ e he => ?_⟩
    rw [hextends.path_eq_of_not_plain hparse hplain he]
    exact ne_withoutSlashes_append base.path

/-- A configuration that follows the server at an address. -/
def following (baseUrl : String) : Config := { baseUrl, targetDir := .ofText "mods" }

theorem manifestUrl_verdict_root :
    (following "http://[::1]:5000/files/").Usable ∧ IsRoot "http://[::1]:5000/files/" ∧
      ∃ base, parse "http://[::1]:5000/files/" = .ok base ∧
        parse (manifestUrl "http://[::1]:5000/files/") =
          .ok { base with path := withoutSlashes base.path ++ manifestPath } := by
  have husable : (following "http://[::1]:5000/files/").Usable := by decide +kernel
  have hroot : IsRoot "http://[::1]:5000/files/" := by
    have hend : "http://[::1]:5000/files/".toList.rtakeWhile isEdge = [] := by decide +kernel
    refine ⟨by decide +kernel, by rw [hend]; simp, fun u hu => ?_⟩
    have hread : parse (withoutSlashes "http://[::1]:5000/files/" ++ "/") =
        .ok ⟨"http", some ⟨none, .ipv6 [0, 0, 0, 0, 0, 0, 0, 1], some 5000⟩, "/files/", none,
          none⟩ := by decide +kernel
    rw [hread] at hu
    cases hu
    decide
  obtain ⟨base, hparse, hendpoint, -⟩ := manifestUrl_verdict husable
  exact ⟨husable, hroot, base, hparse, hendpoint hroot⟩

/-- Behind a blank the manifest's path makes the address one that is not read, and behind a query it
becomes part of the query. -/
theorem not_below_base :
    ((following "http://[::1] ").Usable ∧
      parse (manifestUrl "http://[::1] ") = .error .invalidIpv6) ∧
    ((following "http://[::1]?q").Usable ∧
      parse (manifestUrl "http://[::1]?q") =
        .ok ⟨"http", some ⟨none, .ipv6 [0, 0, 0, 0, 0, 0, 0, 1], none⟩, "/",
          some "q/api/mods-manifest", none⟩) := by
  decide +kernel

end FolderSync.Url
