import ScriptTypes.Proofs.Descent

/-!
# What a search finds

A search goes from path to path, and asks the disk what stands at each. Where there are no links
and no folder has two entries of one name, this comes to the same as going down from entry to entry.

It gives each of the sources that it comes by once, in the order of their paths. What it gives leads
to the file that it came by, so two paths that it gives lead to two files.
-/

namespace ScriptTypes.Files

variable {d : Disk} {e : Entry} {es : List (String × Entry)} {p q path : Path}
  {place place' : Location} {names rest : List String} {name : String} {content : List UInt8}

/-! ## Searches of a disk -/

namespace Disk

variable {paths : List Path}

theorem Proper.holding (h : d.Proper) : (d.holding place content).Proper := Entry.Proper.put h .file

theorem Proper.lacking (h : d.Proper) : (d.lacking place).Proper := Entry.Proper.erase h

/-- There is a result if nothing ended the search, and it is what was found. -/
theorem outcome_eq_ok_iff {found : Found} :
    found.outcome.result = .ok paths ↔ found.failure = none ∧ found.paths = paths := by
  unfold Found.outcome
  cases hf : found.failure with
  | some refusal => exact iff_of_false (fun h => nomatch h) (fun h => nomatch h.1)
  | none => exact ⟨fun h => ⟨rfl, Except.ok.inj h⟩, fun h => congrArg Except.ok h.2⟩

/-- Without links a path that goes on by one name goes on from its folder, if there is room for the
name and the folder can be searched. -/
theorem locate_child (hfree : d.LinkFree) (hl : d.locate path = .ok place)
    (hfolder : d.standing place = .folder) : d.locate (path.child name) =
      if maxPathBytes < (path.child name).text.utf8ByteSize then .error .nameTooLong
      else d.permit .search place >>= fun _ =>
        .ok (if name = ".." then place.dropLast else place ++ [name]) := by
  obtain ⟨_, hway⟩ := (locate_eq_ok_iff hfree).mp hl
  have hon : d.way (startOf d.working (path.child name).anchor) (path.child name).parts =
      d.permit .search place >>= fun _ =>
        .ok (if name = ".." then place.dropLast else place ++ [name]) := by
    show d.way (startOf d.working path.anchor) (path.parts ++ [name]) = _
    rw [way_append, bind_eq_of_ok hway, way, enter_of_folder hfolder]
    rfl
  rw [locate, lead_eq_way hfree, hon]

/-- What a path leads to is told by what stands there. -/
theorem holds_of_at? {kind : Entry → Bool} (hl : d.locate path = .ok place)
    (hat : d.top.at? place = .ok e) : d.holds kind path = .ok (kind e) := by
  unfold holds find
  rw [bind_eq_of_ok hl, hat]

/-- What can be told of an entry of a folder by its path. -/
theorem holds_child {kind : Entry → Bool} (hfree : d.LinkFree) (hl : d.locate path = .ok place)
    (hfolder : d.standing place = .folder)
    (hat : d.top.at? (if name = ".." then place.dropLast else place ++ [name]) = .ok e) :
    d.holds kind (path.child name) =
      if maxPathBytes < (path.child name).text.utf8ByteSize then .error .nameTooLong
      else
        match d.denies .search place with
        | some r => .error r.cause
        | none => .ok (kind e) := by
  have hchild : d.locate (path.child name) = _ := locate_child hfree hl hfolder
  by_cases hlong : maxPathBytes < (path.child name).text.utf8ByteSize
  · rw [if_pos hlong] at hchild ⊢
    unfold holds find
    rw [hchild]
    rfl
  · rw [if_neg hlong] at hchild ⊢
    unfold permit at hchild
    cases hdenies : d.denies .search place with
    | some r =>
        rw [hdenies] at hchild
        unfold holds find
        rw [hchild]
        show (if r.cause.isAbsence then _ else _) = _
        rw [r.isAbsence_cause, if_neg Bool.false_ne_true]
    | none =>
        rw [hdenies] at hchild
        exact holds_of_at? hchild hat

/-- Up from a folder there is a folder. -/
theorem standing_up (h : d.standing place = .folder) : d.standing place.dropLast = .folder := by
  by_cases hroot : place = []
  · rw [hroot] at h ⊢
    exact h
  · exact Entry.standing_dropLast hroot fun hnothing => nomatch h.symm.trans hnothing

/-- Two dots are the name of no source. -/
theorem here_up : Found.here (path.child "..") = {} := by
  have hname : (path.child "..").name = ".." := by simp [Path.child, Path.name]
  have hsource : Dialect.isSource (path.child "..") = false := by
    refine Bool.eq_false_iff.mpr fun h => ?_
    exact (Dialect.name_ne_of_isSource h).2 hname
  rw [Found.here, hsource, if_neg Bool.false_ne_true]

theorem sourcesAt_of_not_isFolder (h : e.isFolder = false) :
    sourcesAt d place path e = .here path := by
  cases e with
  | file content | link target => rfl
  | folder es => cases h

/-- What a search finds at an entry is told by what its path leads to. -/
theorem searchEntry_eq {below : Path → Found} (hfree : d.LinkFree) (hl : d.locate path = .ok place)
    (hfolder : d.standing place = .folder)
    (hat : d.top.at? (if name = ".." then place.dropLast else place ++ [name]) = .ok e) :
    searchEntry d below path name =
      if maxPathBytes < (path.child name).text.utf8ByteSize then
        .broken (path.child name) .nameTooLong
      else
        match d.denies .search place with
        | some r => .broken (path.child name) r.cause
        | none =>
          if e.isFolder then if isIgnored name then {} else below (path.child name)
          else .here (path.child name) := by
  unfold searchEntry
  rw [holds_child hfree hl hfolder hat]
  by_cases hlong : maxPathBytes < (path.child name).text.utf8ByteSize
  · rw [if_pos hlong, if_pos hlong]
  · rw [if_neg hlong, if_neg hlong]
    cases d.denies .search place with
    | some r => rfl
    | none => cases e <;> rfl

/-- A search finds at an entry of a folder what is at and below the entry. -/
theorem searchEntry_eq_sourcesOf {below : Path → Found} {t : String × Entry} (hfree : d.LinkFree)
    (hnames : (es.map (·.1)).Nodup) (hl : d.locate path = .ok place)
    (hat : d.top.at? place = .ok (.folder es)) (ht : t ∈ es)
    (hbelow : d.locate (path.child t.1) = .ok (place ++ [t.1]) →
      d.top.at? (place ++ [t.1]) = .ok t.2 →
      below (path.child t.1) = sourcesAt d (place ++ [t.1]) (path.child t.1) t.2) :
    searchEntry d below path t.1 = sourcesOf d place path t := by
  have hfolder : d.standing place = .folder := Entry.standing_eq_folder_iff.mpr ⟨es, hat⟩
  obtain ⟨name, e⟩ := t
  dsimp only at hbelow ⊢
  by_cases hup : name = ".."
  · -- an entry of this name is not come to by its path, which leads one folder up
    subst hup
    obtain ⟨outer, houter⟩ := Entry.standing_eq_folder_iff.mp (standing_up hfolder)
    have hat' : d.top.at? (if ".." = ".." then place.dropLast else place ++ [".."]) =
        .ok (.folder outer) := by
      rw [if_pos rfl, houter]
    have hnone : (if (Entry.isFolder e && isIgnored "..") = true then ({} : Found)
        else sourcesAt d (place ++ [".."]) (path.child "..") e) = {} := by
      cases he : e.isFolder with
      | true => rw [isIgnored_up, Bool.and_true, if_pos rfl]
      | false =>
          rw [Bool.false_and, if_neg Bool.false_ne_true, sourcesAt_of_not_isFolder he, here_up]
    rw [searchEntry_eq hfree hl hfolder hat', sourcesOf, hnone, isIgnored_up]
    rfl
  · have hentry : d.top.at? (place ++ [name]) = .ok e := by
      rw [Entry.at?_append, bind_eq_of_ok hat, Entry.at?, Named.lookup_of_mem hnames ht]
      rfl
    have hat' : d.top.at? (if name = ".." then place.dropLast else place ++ [name]) = .ok e := by
      rw [if_neg hup, hentry]
    rw [searchEntry_eq hfree hl hfolder hat', sourcesOf]
    have hchild : d.locate (path.child name) = _ := locate_child hfree hl hfolder
    by_cases hlong : maxPathBytes < (path.child name).text.utf8ByteSize
    · rw [if_pos hlong, if_pos hlong]
    · rw [if_neg hlong, if_neg hlong]
      rw [if_neg hlong, if_neg hup, permit] at hchild
      cases hdenies : d.denies .search place with
      | some r => rfl
      | none =>
          rw [hdenies] at hchild
          dsimp only
          cases he : e.isFolder with
          | true => rw [if_pos rfl, Bool.true_and, hbelow hchild hentry]
          | false =>
              rw [if_neg Bool.false_ne_true, Bool.false_and, if_neg Bool.false_ne_true,
                sourcesAt_of_not_isFolder he]

/-- A path has a byte for each of its names but the first: the slash in front of it. -/
theorem length_parts_le : path.parts.length ≤ path.text.utf8ByteSize + 1 := by
  have hjoined : ∀ parts : List String,
      parts.length ≤ ("/".intercalate parts).utf8ByteSize + 1 := by
    intro parts
    induction parts with
    | nil => exact Nat.zero_le _
    | cons name rest ih =>
        cases rest with
        | nil => exact Nat.le_add_left _ _
        | cons next rest =>
            rw [String.intercalate_cons_cons, String.utf8ByteSize_append,
              String.utf8ByteSize_append, List.length_cons]
            have hslash : "/".utf8ByteSize = 1 := rfl
            omega
  have htext : ("/".intercalate path.parts).utf8ByteSize ≤ path.text.utf8ByteSize := by
    unfold Path.text
    dsimp only
    split
    · rename_i hempty
      have hsize := congrArg String.utf8ByteSize hempty
      rw [String.utf8ByteSize_append] at hsize
      have hnone : "".utf8ByteSize = 0 := rfl
      omega
    · rw [String.utf8ByteSize_append]
      omega
  have := hjoined path.parts
  omega

/-- A search that goes as deep as paths can be long comes to an end at no path that leads anywhere
just for its depth. -/
theorem exists_depth {depth : Nat} (hl : d.locate path = .ok place)
    (hdeep : maxPathBytes + 2 ≤ path.parts.length + depth) : ∃ rest, depth = rest + 1 := by
  have hfits := fits_of_lead hl
  have hparts : path.parts.length ≤ _ := length_parts_le
  exact ⟨depth - 1, by omega⟩

/-- **A search from path to path finds what is at and below the entry that its path leads to**, if
it goes as deep as paths can be long. -/
theorem search_eq_sourcesAt {depth : Nat} (hfree : d.LinkFree) (h : e.Proper)
    (hl : d.locate path = .ok place) (hat : d.top.at? place = .ok e)
    (hdeep : maxPathBytes + 2 ≤ path.parts.length + depth) :
    search d depth path = sourcesAt d place path e := by
  induction h generalizing place path depth with
  | link => exact absurd (Entry.standing_eq_link_iff.mpr hat) (hfree _ _)
  | file =>
      obtain ⟨depth, rfl⟩ := exists_depth hl hdeep
      rw [search, holds_of_at? hl hat]
      rfl
  | @folder es hnames hentries ih =>
      obtain ⟨depth, rfl⟩ := exists_depth hl hdeep
      have hlist : d.list path = d.permit .list place >>= fun _ => .ok (es.map (·.1)) := by
        rw [list, bind_eq_of_ok hl, bind_eq_of_ok hat]
        rfl
      rw [search, holds_of_at? hl hat, hlist, sourcesAt, permit]
      cases d.denies .list place with
      | some r => rfl
      | none =>
          dsimp only [Entry.isFile, bind, Except.bind]
          rw [List.map_map, sourcesIn_eq_map]
          congr 1
          refine List.map_congr_left fun t ht => ?_
          have hentry : searchEntry d (search d depth) path t.1 = sourcesOf d place path t := by
            refine searchEntry_eq_sourcesOf hfree hnames hl hat ht fun hl' hat' => ?_
            refine ih t ht hl' hat' ?_
            have hparts : (path.child t.1).parts.length = path.parts.length + 1 := by
              rw [Path.child, List.length_append, List.length_singleton]
            omega
          exact congrArg (Prod.mk t.1) hentry

theorem search_eq (hd : d.Proper) (hfree : d.LinkFree) (hl : d.locate path = .ok place)
    (hat : d.top.at? place = .ok e) : search d searchDepth path = sourcesAt d place path e :=
  search_eq_sourcesAt hfree (Entry.Proper.at? hd hat) hl hat (Nat.le_add_left _ _)

/-- Where nothing is to be found a search finds nothing. -/
theorem paths_search {cause : Cause} (hfind : d.find path = .error cause)
    (hdone : (search d searchDepth path).failure = none) :
    (search d searchDepth path).paths = [] := by
  have hlist : ∃ c, d.list path = .error c := by
    unfold find at hfind
    unfold list
    cases hl : d.locate path with
    | error c => exact ⟨c, rfl⟩
    | ok place =>
        rw [hl, bind_eq_of_ok rfl] at hfind
        rw [bind_eq_of_ok rfl, hfind]
        exact ⟨cause, rfl⟩
  obtain ⟨c, hlist⟩ := hlist
  have hholds :
      d.holds Entry.isFile path = if cause.isAbsence then .ok false else .error cause := by
    rw [holds, hfind]
  unfold searchDepth at hdone ⊢
  rw [search, hholds] at hdone ⊢
  cases ha : cause.isAbsence with
  | true =>
      rw [if_pos rfl, hlist]
      rfl
  | false =>
      rw [ha] at hdone
      cases hdone

theorem holdsNul_of_sources (h : (sources d path).result = .ok paths) : path.holdsNul = false := by
  unfold sources at h
  cases hnul : path.holdsNul with
  | false => rfl
  | true =>
      rw [hnul] at h
      cases h

/-- A search that gives a result has come to its end, and gives what it found. -/
theorem search_of_sources (h : (sources d path).result = .ok paths) :
    (search d searchDepth path).failure = none ∧ (search d searchDepth path).paths = paths := by
  have hnul := holdsNul_of_sources h
  unfold sources at h
  rw [hnul, if_neg Bool.false_ne_true] at h
  exact outcome_eq_ok_iff.mp h

theorem mem_join {found : List Found} (h : q ∈ (Found.join found).paths) :
    ∃ f ∈ found, q ∈ f.paths := by
  induction found with
  | nil => cases h
  | cons f fs ih =>
      rw [Found.join] at h
      split at h
      · exact ⟨f, List.mem_cons_self, h⟩
      · rcases List.mem_append.mp h with hq | hq
        · exact ⟨f, List.mem_cons_self, hq⟩
        · obtain ⟨found, hmem, hq⟩ := ih hq
          exact ⟨found, List.mem_cons_of_mem _ hmem, hq⟩

/-- A search gives nothing but sources, links or not. -/
theorem isSource_of_mem_search {depth : Nat} (h : q ∈ (search d depth path).paths) :
    Dialect.isSource q = true := by
  induction depth generalizing path with
  | zero => cases h
  | succ depth ih =>
      have hhere : ∀ path, q ∈ (Found.here path).paths → Dialect.isSource q = true := by
        intro path hq
        obtain ⟨rfl, hsource⟩ := mem_here.mp hq
        exact hsource
      rw [search] at h
      split at h
      · cases h
      · exact hhere _ h
      · split at h
        · cases h
        · obtain ⟨f, hf, hq⟩ := mem_join h
          obtain ⟨t, ht, rfl⟩ := List.mem_map.mp hf
          obtain ⟨name, _, rfl⟩ := List.mem_map.mp (List.mem_mergeSort.mp ht)
          dsimp only [searchEntry] at hq
          split at hq
          · cases hq
          · split at hq
            · cases hq
            · exact ih hq
          · exact hhere _ hq

theorem isSource_of_mem_sources (h : (sources d path).result = .ok paths) (hq : q ∈ paths) :
    Dialect.isSource q = true := by
  obtain ⟨_, rfl⟩ := search_of_sources h
  exact isSource_of_mem_search hq

/-- What is found is found at the entry to which the path leads, if it leads to one. -/
theorem of_sources (hd : d.Proper) (hfree : d.LinkFree) (h : (sources d path).result = .ok paths) :
    (∃ place e, d.locate path = .ok place ∧ d.top.at? place = .ok e ∧
      (sourcesAt d place path e).failure = none ∧ paths = (sourcesAt d place path e).paths) ∨
    paths = [] ∧ ∀ place, d.locate path = .ok place → ∃ cause, d.top.at? place = .error cause := by
  obtain ⟨hdone, rfl⟩ := search_of_sources h
  cases hfind : d.find path with
  | error cause =>
      refine .inr ⟨paths_search hfind hdone, fun place hl => ⟨cause, ?_⟩⟩
      rwa [find, bind_eq_of_ok hl] at hfind
  | ok e =>
      obtain ⟨place, hl, hat⟩ := bind_eq_ok.mp hfind
      rw [search_eq hd hfree hl hat] at hdone ⊢
      exact .inl ⟨place, e, hl, hat, hdone, rfl⟩

/-- A search of what is there is one of the entry to which the path leads. -/
theorem result_sources (hd : d.Proper) (hfree : d.LinkFree) (hnul : path.holdsNul = false)
    (hl : d.locate path = .ok place) (hat : d.top.at? place = .ok e) :
    (sources d path).result = (sourcesAt d place path e).outcome.result := by
  unfold sources
  rw [hnul, if_neg Bool.false_ne_true, search_eq hd hfree hl hat]

/-- **A search of what is there comes to its end if it can look at all to which its ways lead.** -/
theorem exists_sources_iff (hd : d.Proper) (hfree : d.LinkFree) (hnul : path.holdsNul = false)
    (hl : d.locate path = .ok place) (hthere : d.standing place ≠ .nothing) :
    (∃ paths, (sources d path).result = .ok paths) ↔
      ∀ names, names ≠ [] → d.standing (place ++ names) ≠ .nothing → d.Searches place names →
        d.Shows place path names := by
  cases hat : d.top.at? place with
  | error cause => exact absurd (Entry.standing_eq_nothing_iff.mpr ⟨cause, hat⟩) hthere
  | ok e =>
      have hstanding : ∀ names, d.standing (place ++ names) = e.standing names :=
        fun names => Entry.standing_append hat
      simp only [hstanding]
      rw [result_sources hd hfree hnul hl hat, ← complete_sourcesAt_iff (Entry.Proper.at? hd hat)]
      constructor
      · rintro ⟨paths, h⟩
        exact (outcome_eq_ok_iff.mp h).1
      · intro hdone
        exact ⟨_, outcome_eq_ok_iff.mpr ⟨hdone, rfl⟩⟩

/-- Without links an item is a file. -/
theorem isItem_iff (hfree : d.LinkFree) :
    (d.standing place).IsItem ↔ ∃ content, d.standing place = .file content := by
  cases hs : d.standing place with
  | nothing | folder => exact iff_of_false id nofun
  | file content => exact iff_of_true trivial ⟨content, rfl⟩
  | link target => exact absurd hs (hfree _ _)

/-- **A search finds the sources to which its ways lead.** -/
theorem mem_sources (hd : d.Proper) (hfree : d.LinkFree) (hl : d.locate path = .ok place)
    (h : (sources d path).result = .ok paths) : q ∈ paths ↔
      ∃ names content, q = path.below names ∧ Dialect.isSource q = true ∧
        d.standing (place ++ names) = .file content ∧ d.Searches place names := by
  rcases of_sources hd hfree h with ⟨place', e, hl', hat, hdone, rfl⟩ | ⟨rfl, hnothing⟩
  · obtain rfl := Except.ok.inj (hl.symm.trans hl')
    have hitem : ∀ names, (e.standing names).IsItem ↔
        ∃ content, d.standing (place ++ names) = .file content := by
      intro names
      rw [← isItem_iff hfree, standing, Entry.standing_append hat]
    rw [mem_sourcesAt (Entry.Proper.at? hd hat) hdone]
    refine exists_congr fun names => ?_
    rw [hitem]
    constructor
    · rintro ⟨hq, hsource, ⟨content, hfile⟩, hsearch⟩
      exact ⟨content, hq, hsource, hfile, hsearch⟩
    · rintro ⟨content, hq, hsource, hfile, hsearch⟩
      exact ⟨hq, hsource, ⟨content, hfile⟩, hsearch⟩
  · obtain ⟨cause, hat⟩ := hnothing place hl
    refine iff_of_false List.not_mem_nil ?_
    rintro ⟨names, _, _, _, hstanding, _⟩
    rw [Disk.standing, Entry.standing_append_of_error hat] at hstanding
    cases hstanding

/-- **A search gives paths in their order, each once.** -/
theorem pairwise_sources (hd : d.Proper) (hfree : d.LinkFree)
    (h : (sources d path).result = .ok paths) : paths.Pairwise fun a b => a.parts < b.parts := by
  rcases of_sources hd hfree h with ⟨place, e, _, hat, hdone, rfl⟩ | ⟨rfl, _⟩
  · exact pairwise_sourcesAt (Entry.Proper.at? hd hat) hdone
  · exact List.Pairwise.nil

/-! ## Where the paths of a search lead -/

/-- Names that can be looked at one after the other, and do not go up, lead down. -/
theorem way_of_shows (hup : ".." ∉ names) (hthere : d.standing (place ++ names) ≠ .nothing)
    (hshows : ∀ k < names.length, d.Shows place path (names.take (k + 1))) :
    d.way place names = .ok (place ++ names) := by
  refine way_names hup fun k hk => enter_eq_ok_iff.mpr ⟨?_, ?_⟩
  · have hrest : names.drop k ≠ [] := fun h => Nat.not_le_of_lt hk (List.drop_eq_nil_iff.mp h)
    refine Entry.standing_of_append hrest ?_
    rwa [List.append_assoc, List.take_append_drop]
  · have hlast : (names.take (k + 1)).dropLast = names.take k := by
      rw [List.dropLast_eq_take, List.length_take, List.take_take]
      congr 1
      omega
    exact hlast ▸ (hshows k hk).searched

/-- A path that goes on from another leads on from where that leads. -/
theorem locate_below (hfree : d.LinkFree) (hl : d.locate path = .ok place)
    (hfits : (path.below names).text.utf8ByteSize ≤ maxPathBytes)
    (hway : d.way place names = .ok place') : d.locate (path.below names) = .ok place' := by
  refine (locate_eq_ok_iff hfree).mpr ⟨hfits, ?_⟩
  show d.way (startOf d.working path.anchor) (path.parts ++ names) = _
  rw [way_append, bind_eq_of_ok ((locate_eq_ok_iff hfree).mp hl).2, hway]

/-- A file stands where the path leads. -/
def HasFile (d : Disk) (p : Path) : Prop :=
  ∃ place content, d.locate p = .ok place ∧ d.standing place = .file content

/-- Where the path leads is settled: to a file, or nowhere because the path is too long. -/
def Settles (d : Disk) (p : Path) : Prop := maxPathBytes < p.text.utf8ByteSize ∨ d.HasFile p

/-- Two paths do not lead to the same place. -/
def Apart (d : Disk) (p q : Path) : Prop := ∀ place, d.locate p = .ok place → d.locate q ≠ .ok place

/-- No way of a search to a source goes up. -/
theorem Searches.not_up_of_source (hsearch : d.Searches place names)
    (hsource : Dialect.isSource (path.below names) = true) : ".." ∉ names := by
  refine hsearch.not_up fun name hname => ?_
  have hlast : (path.below names).name = name := by
    rw [Path.name, Path.below, List.getLast?_append, hname]
    rfl
  rw [← hlast]
  exact (Dialect.name_ne_of_isSource hsource).2

/-- A path that a search finds leads down from the start of the search, to a file. -/
theorem exists_names_of_mem_sources (hd : d.Proper) (hfree : d.LinkFree)
    (hl : d.locate path = .ok place) (h : (sources d path).result = .ok paths) (hq : q ∈ paths) :
    ∃ names content, q = path.below names ∧ d.standing (place ++ names) = .file content ∧
      d.locate q = .ok (place ++ names) := by
  obtain ⟨names, content, rfl, hsource, hfile, hsearch⟩ := (mem_sources hd hfree hl h).mp hq
  refine ⟨names, content, rfl, hfile, ?_⟩
  have hthere : d.standing (place ++ names) ≠ .nothing := hfile ▸ nofun
  have hshows : ∀ k < names.length, d.Shows place path (names.take (k + 1)) := by
    have hnul := holdsNul_of_sources h
    have hall := (exists_sources_iff hd hfree hnul hl (Entry.standing_ne_of_append hthere)).mp
      ⟨paths, h⟩
    intro k hk
    have hne : names.take (k + 1) ≠ [] := by
      refine List.ne_nil_of_length_pos ?_
      rw [List.length_take]
      omega
    rw [← List.take_append_drop (k + 1) names] at hsearch hthere
    rw [← List.append_assoc] at hthere
    exact hall _ hne (Entry.standing_ne_of_append hthere) hsearch.of_append
  refine locate_below hfree hl ?_ (way_of_shows (hsearch.not_up_of_source hsource) hthere hshows)
  cases names with
  | nil =>
      rw [Path.below_nil]
      exact fits_of_lead hl
  | cons name rest =>
      have hfits := (hshows rest.length (Nat.lt_succ_self _)).fits
      rwa [← List.length_cons, List.take_length] at hfits

/-- **What a search finds is settled.** -/
theorem settles_of_mem_sources (hd : d.Proper) (hfree : d.LinkFree)
    (h : (sources d path).result = .ok paths) (hq : q ∈ paths) : d.Settles q := by
  rcases of_sources hd hfree h with ⟨place, e, hl, _, _⟩ | ⟨rfl, _⟩
  · obtain ⟨names, content, _, hfile, hlocate⟩ := exists_names_of_mem_sources hd hfree hl h hq
    exact .inr ⟨_, content, hlocate, hfile⟩
  · cases hq

/-- **Two paths that a search finds lead to two files.** -/
theorem apart_of_mem_sources (hd : d.Proper) (hfree : d.LinkFree)
    (h : (sources d path).result = .ok paths) (hp : p ∈ paths) (hq : q ∈ paths) (hne : p ≠ q) :
    d.Apart p q := by
  rcases of_sources hd hfree h with ⟨place, e, hl, _, _⟩ | ⟨rfl, _⟩
  · obtain ⟨names, _, rfl, _, hlocate⟩ := exists_names_of_mem_sources hd hfree hl h hp
    obtain ⟨names', _, rfl, _, hlocate'⟩ := exists_names_of_mem_sources hd hfree hl h hq
    intro where_ hwhere hwhere'
    have hsame := Except.ok.inj (hlocate.symm.trans hwhere)
    have hsame' := Except.ok.inj (hlocate'.symm.trans hwhere')
    exact hne (congrArg path.below (List.append_cancel_left (hsame.trans hsame'.symm)))
  · cases hp

/-- No two of the paths that a search finds lead to one file. -/
theorem pairwise_apart_of_sources (hd : d.Proper) (hfree : d.LinkFree)
    (h : (sources d path).result = .ok paths) : paths.Pairwise d.Apart := by
  refine (pairwise_sources hd hfree h).imp_of_mem fun {p q} hp hq hlt => ?_
  refine apart_of_mem_sources hd hfree h hp hq fun heq => ?_
  rw [heq] at hlt
  exact List.lt_irrefl _ hlt

end Disk

end ScriptTypes.Files
