import ScriptTypes.Files.SourceFiles
import ScriptTypes.Proofs.Target

/-!
# Going down a tree for its sources

A search comes to an end in a tree if it can look at everything to which its ways lead, and then
gives the sources among that, in the order of their paths. Here it goes down from entry to entry,
through all folders that are neither passed over nor closed to it, and follows no links.
-/

namespace ScriptTypes.Files

variable {d : Disk} {e : Entry} {es : List (String × Entry)} {p q path : Path} {place : Location}
  {names rest : List String} {name : String}

/-! ## Folders as they are on disks -/

/-- In no folder at or below the entry two entries have one name. -/
inductive Entry.Proper : Entry → Prop where
  | file {content : List UInt8} : Proper (.file content)
  | link {target : Path} : Proper (.link target)
  | folder {es : List (String × Entry)} : (es.map (·.1)).Nodup → (∀ e ∈ es, Proper e.2) →
      Proper (.folder es)

/-- In no folder of the disk two entries have one name. -/
def Disk.Proper (d : Disk) : Prop := d.top.Proper

namespace Entry

theorem Proper.nodup_names (h : (Entry.folder es).Proper) : (es.map (·.1)).Nodup := by
  cases h with
  | folder hnames _ => exact hnames

theorem Proper.of_mem (h : (Entry.folder es).Proper) {t : String × Entry} (ht : t ∈ es) :
    t.2.Proper := by
  cases h with
  | folder _ hentries => exact hentries t ht

theorem Proper.singleton (h : e.Proper) : (Entry.folder [(name, e)]).Proper := by
  refine .folder (List.pairwise_singleton _ _) fun t ht => ?_
  obtain rfl := List.mem_singleton.mp ht
  exact h

/-- What stands below a place stands below what stands at the place. -/
theorem at?_append : e.at? (place ++ rest) = e.at? place >>= (·.at? rest) := by
  induction place generalizing e with
  | nil => rfl
  | cons name place ih =>
      rw [List.cons_append]
      cases e with
      | file content | link target => rfl
      | folder es =>
          rw [at?, at?]
          cases es.lookup name with
          | none => rfl
          | some e => exact ih

theorem standing_append {below : Entry} (h : e.at? place = .ok below) :
    e.standing (place ++ rest) = below.standing rest := by
  unfold standing
  rw [at?_append, bind_eq_of_ok h]

/-- Below a place where nothing stands there is nothing. -/
theorem standing_append_of_error {cause : Cause} (h : e.at? place = .error cause) :
    e.standing (place ++ rest) = .nothing := by
  rw [standing_eq_nothing_iff, at?_append, h]
  exact ⟨cause, rfl⟩

theorem standing_ne_of_append (h : e.standing (place ++ rest) ≠ .nothing) :
    e.standing place ≠ .nothing := by
  intro hnothing
  obtain ⟨cause, hat⟩ := standing_eq_nothing_iff.mp hnothing
  exact h (standing_append_of_error hat)

/-- A place below which something stands is a folder. -/
theorem standing_of_append (hrest : rest ≠ []) (h : e.standing (place ++ rest) ≠ .nothing) :
    e.standing place = .folder := by
  cases hat : e.at? place with
  | error cause => exact absurd (standing_append_of_error hat) h
  | ok below =>
      rw [standing_append hat] at h
      obtain ⟨name, rest, rfl⟩ := List.exists_cons_of_ne_nil hrest
      obtain ⟨es, rfl⟩ := exists_folder_of_standing h
      exact standing_eq_folder_iff.mpr ⟨es, hat⟩

/-- What stands below an entry of a folder. -/
theorem standing_of_mem (hnames : (es.map (·.1)).Nodup) {t : String × Entry} (ht : t ∈ es) :
    (folder es).standing (t.1 :: rest) = t.2.standing rest := by
  rw [standing_folder_cons, Named.lookup_of_mem hnames ht]
  rfl

/-- What stands below a folder stands at or below one of its entries. -/
theorem exists_mem_of_standing (h : (folder es).standing (name :: rest) ≠ .nothing) :
    ∃ e, (name, e) ∈ es ∧ (folder es).standing (name :: rest) = e.standing rest := by
  rw [standing_folder_cons] at h ⊢
  cases hl : es.lookup name with
  | none =>
      rw [hl] at h
      exact absurd rfl h
  | some e => exact ⟨e, Named.mem_of_lookup hl, rfl⟩

theorem Proper.at? {below : Entry} (h : e.Proper) (hat : e.at? place = .ok below) :
    below.Proper := by
  induction place generalizing e with
  | nil =>
      obtain rfl := Except.ok.inj hat
      exact h
  | cons name place ih =>
      cases e with
      | file content | link target => cases hat
      | folder es =>
          rw [Entry.at?] at hat
          cases hl : es.lookup name with
          | none =>
              rw [hl] at hat
              cases hat
          | some e =>
              rw [hl] at hat
              exact ih (h.of_mem (Named.mem_of_lookup hl)) hat

/-- An entry that is proper is so with a proper entry put somewhere below it. -/
theorem Proper.put {new : Entry} (h : e.Proper) (hnew : new.Proper) : (e.put place new).Proper := by
  induction place generalizing e with
  | nil => exact hnew
  | cons name rest ih =>
      have hempty : (Entry.folder []).Proper := .folder List.nodup_nil (fun _ ht => nomatch ht)
      cases e with
      | file content | link target =>
          rw [Entry.put]
          exact (ih hempty).singleton
      | folder es =>
          rw [Entry.put]
          have hnames := h.nodup_names
          refine .folder ?_ fun t ht => ?_
          · rw [Named.map_fst_alter]
            split
            · exact hnames
            · rename_i hname
              refine List.nodup_append.mpr ⟨hnames, List.pairwise_singleton _ _, ?_⟩
              rintro a ha b hb rfl
              exact hname (List.mem_singleton.mp hb ▸ ha)
          · -- only the entry of the name on the way is another one
            rcases Named.mem_alter ht with hmem | ⟨known, hknown, rfl⟩
            · exact h.of_mem hmem
            · cases known with
              | none => exact ih hempty
              | some e => exact ih (h.of_mem (hknown e rfl))

/-- An entry that is proper is so with something erased below it. -/
theorem Proper.erase (h : e.Proper) : (e.erase place).Proper := by
  induction place generalizing e with
  | nil => exact h
  | cons name rest ih =>
      cases e with
      | file content => exact .file
      | link target => exact .link
      | folder es =>
          have hnames := h.nodup_names
          cases rest with
          | nil =>
              rw [Entry.erase]
              refine .folder (hnames.sublist (List.filter_sublist.map _)) fun t ht => ?_
              exact h.of_mem (List.mem_of_mem_filter ht)
          | cons next rest =>
              rw [Entry.erase]
              refine .folder ?_ fun t ht => ?_
              · rw [List.map_map]
                have hfst : ∀ t : String × Entry, ((fun t : String × Entry => t.1) ∘ fun t =>
                    if t.1 = name then (t.1, Entry.erase (next :: rest) t.2) else t) t = t.1 := by
                  intro t
                  simp only [Function.comp_apply]
                  split <;> rfl
                rw [funext hfst]
                exact hnames
              · obtain ⟨t', ht', rfl⟩ := List.mem_map.mp ht
                split
                · exact ih (h.of_mem ht')
                · exact h.of_mem ht'

end Entry

/-! ## The ways of a search -/

/-- The path that goes on from a path through some names. -/
def Path.below (p : Path) (names : List String) : Path := { p with parts := p.parts ++ names }

@[simp] theorem Path.below_nil : p.below [] = p := by
  unfold below
  rw [List.append_nil]

theorem Path.below_child : (p.child name).below rest = p.below (name :: rest) := by
  unfold below child
  rw [List.append_assoc]
  rfl

/-- A folder of this name would be passed over: the name starts with a dot. -/
theorem isIgnored_up : isIgnored ".." = true := by decide +kernel

/-- A search at a place goes through these names: all folders on the way can be listed, and none
but the first may be one that is passed over. -/
def Disk.Searches (d : Disk) (place : Location) : List String → Prop
  | [] => True
  | name :: rest =>
    d.denies .list place = none ∧ (rest ≠ [] → isIgnored name = false) ∧
      d.Searches (place ++ [name]) rest

/-- No way of a search goes up. -/
theorem Disk.Searches.not_up (h : d.Searches place names)
    (hlast : ∀ name ∈ names.getLast?, name ≠ "..") : ".." ∉ names := by
  induction names generalizing place with
  | nil => exact List.not_mem_nil
  | cons name rest ih =>
      obtain ⟨_, hignored, hrest⟩ := h
      cases rest with
      | nil =>
          intro hup
          exact hlast name rfl (List.mem_singleton.mp hup).symm
      | cons next rest =>
          rw [List.mem_cons, not_or]
          constructor
          · rintro rfl
            rw [isIgnored_up] at hignored
            exact nomatch hignored (List.cons_ne_nil _ _)
          · refine ih hrest fun name hname => hlast name ?_
            rwa [List.getLast?_cons_cons]

/-- A search goes part of the ways that it goes. -/
theorem Disk.Searches.of_append (h : d.Searches place (names ++ rest)) :
    d.Searches place names := by
  induction names generalizing place with
  | nil => trivial
  | cons name names ih =>
      obtain ⟨hlist, hignored, hrest⟩ := h
      exact ⟨hlist, fun hnames => hignored (List.append_ne_nil_of_left_ne_nil hnames _), ih hrest⟩

mutual

/-- What a search finds at and below an entry, if there are no links. -/
def sourcesAt (d : Disk) (place : Location) (path : Path) : Entry → Found
  | .file _ => .here path
  | .link _ => .here path
  | .folder es =>
    match d.denies .list place with
    | some r => .unlisted path r.cause
    | none => .inNameOrder (sourcesIn d place path es)

/-- What it finds at each entry of a folder, by the name of the entry. -/
def sourcesIn (d : Disk) (place : Location) (path : Path) :
    List (String × Entry) → List (String × Found)
  | [] => []
  | (name, e) :: rest =>
    (name,
      if maxPathBytes < (path.child name).text.utf8ByteSize then
        .broken (path.child name) .nameTooLong
      else
        match d.denies .search place with
        | some r => .broken (path.child name) r.cause
        | none =>
          if e.isFolder && isIgnored name then {}
          else sourcesAt d (place ++ [name]) (path.child name) e) :: sourcesIn d place path rest

end

/-- What a search finds at an entry of the folder at a path. -/
def sourcesOf (d : Disk) (place : Location) (path : Path) (t : String × Entry) : Found :=
  if maxPathBytes < (path.child t.1).text.utf8ByteSize then .broken (path.child t.1) .nameTooLong
  else
    match d.denies .search place with
    | some r => .broken (path.child t.1) r.cause
    | none =>
      if t.2.isFolder && isIgnored t.1 then {}
      else sourcesAt d (place ++ [t.1]) (path.child t.1) t.2

theorem sourcesIn_eq_map :
    sourcesIn d place path es = es.map fun t => (t.1, sourcesOf d place path t) := by
  induction es with
  | nil => rfl
  | cons t es ih =>
      rw [sourcesIn, ih, List.map_cons]
      rfl

/-- What a search finds in a folder whose entries are in the order of their names. -/
theorem sourcesAt_of_sorted (hlist : d.denies .list place = none)
    (hsorted : (sourcesIn d place path es).Pairwise fun a b => decide (a.1 ≤ b.1) = true) :
    sourcesAt d place path (.folder es) = .join ((sourcesIn d place path es).map (·.2)) := by
  rw [sourcesAt, hlist]
  dsimp only
  rw [Found.inNameOrder, List.mergeSort_of_pairwise hsorted]

/-- A search in several places comes to its end if it does in each of them. -/
theorem complete_join_iff {found : List Found} :
    (Found.join found).failure = none ↔ ∀ f ∈ found, f.failure = none := by
  induction found with
  | nil => exact iff_of_true rfl (List.forall_mem_nil _)
  | cons f fs ih =>
      rw [Found.join, List.forall_mem_cons, ← ih]
      cases hf : f.failure with
      | some refusal => exact iff_of_false (fun h => nomatch hf.symm.trans h) (fun h => nomatch h.1)
      | none => exact (and_iff_right rfl).symm

/-- It then found what it found in each. -/
theorem paths_join {found : List Found} (h : (Found.join found).failure = none) :
    (Found.join found).paths = found.flatMap (·.paths) := by
  induction found with
  | nil => rfl
  | cons f fs ih =>
      have hf : f.failure = none := complete_join_iff.mp h f List.mem_cons_self
      rw [Found.join, hf] at h ⊢
      rw [List.flatMap_cons, ← ih h]

/-- The same of the entries of a folder, whatever the order in which they are searched. -/
theorem complete_inNameOrder_iff {found : List (String × Found)} :
    (Found.inNameOrder found).failure = none ↔ ∀ t ∈ found, t.2.failure = none := by
  unfold Found.inNameOrder
  rw [complete_join_iff, List.forall_mem_map]
  exact forall_congr' fun t => imp_congr_left List.mem_mergeSort

theorem mem_inNameOrder {found : List (String × Found)}
    (h : (Found.inNameOrder found).failure = none) :
    q ∈ (Found.inNameOrder found).paths ↔ ∃ f ∈ found, q ∈ f.2.paths := by
  have hpaths : (Found.inNameOrder found).paths = _ := paths_join h
  rw [hpaths, List.mem_flatMap]
  constructor
  · rintro ⟨f, hf, hq⟩
    obtain ⟨t, ht, rfl⟩ := List.mem_map.mp hf
    exact ⟨t, List.mem_mergeSort.mp ht, hq⟩
  · rintro ⟨t, ht, hq⟩
    exact ⟨t.2, List.mem_map_of_mem (List.mem_mergeSort.mpr ht), hq⟩

/-- A search gets past an entry if it can look at it, and then passes it over or searches it. -/
theorem complete_sourcesOf_iff {t : String × Entry} :
    (sourcesOf d place path t).failure = none ↔
      (path.child t.1).text.utf8ByteSize ≤ maxPathBytes ∧ d.denies .search place = none ∧
        ((t.2.isFolder && isIgnored t.1) = false →
          (sourcesAt d (place ++ [t.1]) (path.child t.1) t.2).failure = none) := by
  unfold sourcesOf
  by_cases hlong : maxPathBytes < (path.child t.1).text.utf8ByteSize
  · rw [if_pos hlong]
    exact iff_of_false (fun h => nomatch h) (fun h => Nat.not_le_of_lt hlong h.1)
  · rw [if_neg hlong, and_iff_right (Nat.le_of_not_lt hlong)]
    cases d.denies .search place with
    | some r => exact iff_of_false (fun h => nomatch h) (fun h => nomatch h.1)
    | none =>
        rw [and_iff_right rfl]
        cases t.2.isFolder && isIgnored t.1 with
        | true => exact iff_of_true rfl (fun h => nomatch h)
        | false => exact ⟨fun h _ => h, fun h => h rfl⟩

/-- If it does not pass an entry over it finds there what it finds at and below it. -/
theorem sourcesOf_eq {t : String × Entry} (h : (sourcesOf d place path t).failure = none)
    (hopen : (t.2.isFolder && isIgnored t.1) = false) :
    sourcesOf d place path t = sourcesAt d (place ++ [t.1]) (path.child t.1) t.2 := by
  obtain ⟨hfits, hsearch, _⟩ := complete_sourcesOf_iff.mp h
  rw [sourcesOf, if_neg (Nat.not_lt.mpr hfits), hsearch, hopen]
  rfl

/-- If it does it finds nothing there. -/
theorem sourcesOf_of_ignored {t : String × Entry} (h : (sourcesOf d place path t).failure = none)
    (hignored : (t.2.isFolder && isIgnored t.1) = true) : sourcesOf d place path t = {} := by
  obtain ⟨hfits, hsearch, _⟩ := complete_sourcesOf_iff.mp h
  rw [sourcesOf, if_neg (Nat.not_lt.mpr hfits), hsearch, hignored]
  rfl

/-- What has something below it is a folder, so if it is searched it is not passed over. -/
theorem not_isIgnored_of_standing {rest : List String} (hrest : rest ≠ [])
    (hthere : e.standing rest ≠ .nothing) (hopen : (e.isFolder && isIgnored name) = false) :
    isIgnored name = false := by
  obtain ⟨next, rest, rfl⟩ := List.exists_cons_of_ne_nil hrest
  obtain ⟨_, rfl⟩ := Entry.exists_folder_of_standing hthere
  exact hopen

/-- What is found by way of some names from a path at a place can be looked at: the path of it is
not too long, and the folder that it is in can be searched. -/
structure Disk.Shows (d : Disk) (place : Location) (path : Path) (names : List String) : Prop where
  /-- The path is not too long. -/
  fits : (path.below names).text.utf8ByteSize ≤ maxPathBytes
  /-- The folder can be searched. -/
  searched : d.denies .search (place ++ names.dropLast) = none

theorem Disk.shows_cons (hrest : rest ≠ []) :
    d.Shows place path (name :: rest) ↔ d.Shows (place ++ [name]) (path.child name) rest := by
  have hfolder : place ++ (name :: rest).dropLast = (place ++ [name]) ++ rest.dropLast := by
    rw [List.dropLast_cons_of_ne_nil hrest, List.append_assoc, List.singleton_append]
  constructor
  · rintro ⟨hfits, hsearched⟩
    exact ⟨Path.below_child ▸ hfits, hfolder ▸ hsearched⟩
  · rintro ⟨hfits, hsearched⟩
    exact ⟨Path.below_child ▸ hfits, hfolder ▸ hsearched⟩

theorem Disk.shows_singleton : d.Shows place path [name] ↔
    (path.child name).text.utf8ByteSize ≤ maxPathBytes ∧ d.denies .search place = none := by
  have hfolder : place ++ [name].dropLast = place := List.append_nil place
  constructor
  · rintro ⟨hfits, hsearched⟩
    exact ⟨hfits, hfolder ▸ hsearched⟩
  · rintro ⟨hfits, hsearched⟩
    exact ⟨hfits, hfolder.symm ▸ hsearched⟩

/-- **A search comes to its end if it can look at everything to which its ways lead.** -/
theorem complete_sourcesAt_iff (h : e.Proper) : (sourcesAt d place path e).failure = none ↔
    ∀ names, names ≠ [] → e.standing names ≠ .nothing → d.Searches place names →
      d.Shows place path names := by
  induction h generalizing place path with
  | file | link =>
      refine iff_of_true rfl fun names hnames hthere => ?_
      obtain ⟨name, rest, rfl⟩ := List.exists_cons_of_ne_nil hnames
      exact absurd rfl hthere
  | @folder es hdistinct hentries ih =>
      rw [sourcesAt]
      cases hlist : d.denies .list place with
      | some r =>
          refine iff_of_true rfl fun names hnames _ hsearch => ?_
          obtain ⟨name, rest, rfl⟩ := List.exists_cons_of_ne_nil hnames
          cases hlist.symm.trans hsearch.1
      | none =>
          dsimp only
          rw [complete_inNameOrder_iff, sourcesIn_eq_map, List.forall_mem_map]
          constructor
          · intro hdone names hnames hthere hsearch
            obtain ⟨name, rest, rfl⟩ := List.exists_cons_of_ne_nil hnames
            obtain ⟨_, hignored, hsearch⟩ := hsearch
            obtain ⟨e, he, hstanding⟩ := Entry.exists_mem_of_standing hthere
            obtain ⟨hfits, hsearched, hbelow⟩ := complete_sourcesOf_iff.mp (hdone _ he)
            by_cases hrest : rest = []
            · rw [hrest]
              exact Disk.shows_singleton.mpr ⟨hfits, hsearched⟩
            · have hopen : (e.isFolder && isIgnored name) = false := by
                rw [hignored hrest, Bool.and_false]
              refine (Disk.shows_cons hrest).mpr ?_
              exact (ih _ he).mp (hbelow hopen) rest hrest (hstanding ▸ hthere) hsearch
          · intro hshows t ht
            have hentry : d.Shows place path [t.1] := by
              refine hshows [t.1] (List.cons_ne_nil _ _) ?_ ⟨hlist, fun h => absurd rfl h, trivial⟩
              rw [Entry.standing_of_mem hdistinct ht]
              cases t.2 <;> exact nofun
            obtain ⟨hfits, hsearched⟩ := Disk.shows_singleton.mp hentry
            refine complete_sourcesOf_iff.mpr ⟨hfits, hsearched, fun hopen => (ih _ ht).mpr ?_⟩
            intro rest hrest hthere hsearch
            refine (Disk.shows_cons hrest).mp ?_
            refine hshows _ (List.cons_ne_nil _ _) ?_ ⟨hlist, ?_, hsearch⟩
            · rwa [Entry.standing_of_mem hdistinct ht]
            · exact fun _ => not_isIgnored_of_standing hrest hthere hopen

theorem mem_here : q ∈ (Found.here path).paths ↔ q = path ∧ Dialect.isSource path = true := by
  unfold Found.here
  split
  · rename_i hsource
    exact List.mem_singleton.trans (and_iff_left hsource).symm
  · rename_i hsource
    exact iff_of_false List.not_mem_nil fun h => hsource h.2

/-- There is something, and it is no folder. -/
def Standing.IsItem : Standing → Prop
  | .file _ | .link _ => True
  | .nothing | .folder => False

theorem Standing.IsItem.ne_nothing {s : Standing} (h : s.IsItem) : s ≠ .nothing := by
  rintro rfl
  exact h

/-- What a search finds at an entry of a folder is told by what it finds at and below it. -/
theorem mem_sourcesOf {t : String × Entry} (h : (sourcesOf d place path t).failure = none)
    (hbelow : (sourcesAt d (place ++ [t.1]) (path.child t.1) t.2).failure = none →
      (q ∈ (sourcesAt d (place ++ [t.1]) (path.child t.1) t.2).paths ↔
        ∃ rest, q = (path.child t.1).below rest ∧ Dialect.isSource q = true ∧
          (t.2.standing rest).IsItem ∧ d.Searches (place ++ [t.1]) rest)) :
    q ∈ (sourcesOf d place path t).paths ↔
      ∃ rest, q = path.below (t.1 :: rest) ∧ Dialect.isSource q = true ∧
        (t.2.standing rest).IsItem ∧ (rest ≠ [] → isIgnored t.1 = false) ∧
        d.Searches (place ++ [t.1]) rest := by
  cases hopen : t.2.isFolder && isIgnored t.1 with
  | true =>
      rw [sourcesOf_of_ignored h hopen]
      refine iff_of_false List.not_mem_nil ?_
      rintro ⟨rest, _, _, hitem, hignored, _⟩
      obtain ⟨hfolder, hname⟩ := Bool.and_eq_true_iff.mp hopen
      cases rest with
      | cons next rest => exact nomatch hname.symm.trans (hignored (List.cons_ne_nil _ _))
      | nil =>
          -- there is a folder, and that is no item
          generalize t.2 = e at hfolder hitem
          cases e with
          | file content | link target => cases hfolder
          | folder es => cases hitem
  | false =>
      rw [sourcesOf_eq h hopen, hbelow ((complete_sourcesOf_iff.mp h).2.2 hopen)]
      refine exists_congr fun rest => ?_
      rw [Path.below_child]
      constructor
      · rintro ⟨hq, hsource, hitem, hsearch⟩
        exact ⟨hq, hsource, hitem,
          fun hrest => not_isIgnored_of_standing hrest hitem.ne_nothing hopen, hsearch⟩
      · rintro ⟨hq, hsource, hitem, _, hsearch⟩
        exact ⟨hq, hsource, hitem, hsearch⟩

/-- **A search at an entry finds the sources to which its ways lead.** -/
theorem mem_sourcesAt (h : e.Proper) (hdone : (sourcesAt d place path e).failure = none) :
    q ∈ (sourcesAt d place path e).paths ↔
    ∃ names, q = path.below names ∧ Dialect.isSource q = true ∧ (e.standing names).IsItem ∧
      d.Searches place names := by
  induction h generalizing place path with
  | file | link =>
      refine mem_here.trans ⟨?_, ?_⟩
      · rintro ⟨rfl, hsource⟩
        exact ⟨[], Path.below_nil.symm, hsource, trivial, trivial⟩
      · rintro ⟨names, rfl, hsource, hitem, _⟩
        cases names with
        | cons name rest => cases hitem
        | nil =>
            rw [Path.below_nil] at hsource ⊢
            exact ⟨rfl, hsource⟩
  | @folder es hnames _ ih =>
      rw [sourcesAt] at hdone ⊢
      cases hlist : d.denies .list place with
      | some cause =>
          refine iff_of_false List.not_mem_nil ?_
          rintro ⟨names, _, _, hitem, hsearch⟩
          cases names with
          | nil => cases hitem
          | cons name rest => cases hlist.symm.trans hsearch.1
      | none =>
          rw [hlist] at hdone
          dsimp only at hdone ⊢
          have hentries := complete_inNameOrder_iff.mp hdone
          rw [mem_inNameOrder hdone]
          rw [sourcesIn_eq_map] at hentries ⊢
          have hentry : ∀ t ∈ es, (sourcesOf d place path t).failure = none :=
            fun t ht => hentries _ (List.mem_map_of_mem ht)
          constructor
          · rintro ⟨f, hf, hq⟩
            obtain ⟨t, ht, rfl⟩ := List.mem_map.mp hf
            obtain ⟨rest, hq, hsource, hitem, hignored, hsearch⟩ :=
              (mem_sourcesOf (hentry t ht) (ih t ht)).mp hq
            refine ⟨t.1 :: rest, hq, hsource, ?_, hlist, hignored, hsearch⟩
            rwa [Entry.standing_of_mem hnames ht]
          · rintro ⟨names, hq, hsource, hitem, hsearch⟩
            cases names with
            | nil => cases hitem
            | cons name rest =>
                obtain ⟨_, hignored, hrest⟩ := hsearch
                obtain ⟨e, he, hstanding⟩ := Entry.exists_mem_of_standing hitem.ne_nothing
                refine ⟨_, List.mem_map_of_mem he, ?_⟩
                refine (mem_sourcesOf (hentry _ he) (ih _ he)).mpr ?_
                exact ⟨rest, hq, hsource, hstanding ▸ hitem, hignored, hrest⟩

/-! ## The order of a search -/

/-- Things with different names are in the strict order of their names when they are sorted. -/
theorem pairwise_mergeSort_names {β : Type} {things : List (String × β)}
    (hnames : (things.map (·.1)).Nodup) :
    (things.mergeSort fun a b => decide (a.1 ≤ b.1)).Pairwise fun a b => a.1 < b.1 := by
  have hne : (things.mergeSort fun a b => decide (a.1 ≤ b.1)).Pairwise fun a b => a.1 ≠ b.1 := by
    have hperm := (List.mergeSort_perm things fun a b => decide (a.1 ≤ b.1)).map (·.1)
    exact List.pairwise_map.mp (hperm.nodup_iff.mpr hnames)
  refine ((Named.pairwise_mergeSort things).and hne).imp fun {a b} h => ?_
  obtain ⟨hle, hne⟩ := h
  by_contra hlt
  exact hne (String.le_antisymm hle (String.not_lt.mp hlt))

/-- **A search at an entry gives paths in their order, each once.** -/
theorem pairwise_sourcesAt (h : e.Proper) (hdone : (sourcesAt d place path e).failure = none) :
    (sourcesAt d place path e).paths.Pairwise fun a b => a.parts < b.parts := by
  induction h generalizing place path with
  | file | link =>
      show (Found.here path).paths.Pairwise _
      unfold Found.here
      dsimp only
      split
      · exact List.pairwise_singleton _ _
      · exact List.Pairwise.nil
  | @folder es hnames hentries ih =>
      rw [sourcesAt] at hdone ⊢
      cases hlist : d.denies .list place with
      | some cause => exact List.Pairwise.nil
      | none =>
          rw [hlist] at hdone
          dsimp only at hdone ⊢
          have hcomplete := complete_inNameOrder_iff.mp hdone
          have hfound : ∀ t ∈ sourcesIn d place path es,
              (t.2.paths.Pairwise fun a b => a.parts < b.parts) ∧
                ∀ q ∈ t.2.paths, ∃ rest, q.parts = path.parts ++ t.1 :: rest := by
            intro t ht
            have hentry := hcomplete t ht
            rw [sourcesIn_eq_map] at ht
            obtain ⟨⟨name, e⟩, he, rfl⟩ := List.mem_map.mp ht
            dsimp only at hentry ⊢
            cases hopen : e.isFolder && isIgnored name with
            | true =>
                rw [sourcesOf_of_ignored hentry hopen]
                exact ⟨List.Pairwise.nil, fun q hq => nomatch hq⟩
            | false =>
                rw [sourcesOf_eq hentry hopen]
                have hbelow := (complete_sourcesOf_iff.mp hentry).2.2 hopen
                refine ⟨ih _ he hbelow, fun q hq => ?_⟩
                obtain ⟨rest, rfl, _⟩ := (mem_sourcesAt (hentries _ he) hbelow).mp hq
                exact ⟨rest, congrArg Path.parts Path.below_child⟩
          have hkeys : ((sourcesIn d place path es).map (·.1)).Nodup := by
            rw [sourcesIn_eq_map, List.map_map]
            exact hnames
          have hsorted := pairwise_mergeSort_names hkeys
          have hpaths : (Found.inNameOrder (sourcesIn d place path es)).paths = _ :=
            paths_join hdone
          rw [hpaths, List.pairwise_flatMap, List.pairwise_map]
          constructor
          · intro found hmem
            obtain ⟨t, ht, rfl⟩ := List.mem_map.mp hmem
            exact (hfound t (List.mem_mergeSort.mp ht)).1
          · -- the names under which the paths were found already tell them apart
            refine hsorted.imp_of_mem fun {a b} ha hb hlt q hq q' hq' => ?_
            obtain ⟨rest, hrest⟩ := (hfound a (List.mem_mergeSort.mp ha)).2 q hq
            obtain ⟨rest', hrest'⟩ := (hfound b (List.mem_mergeSort.mp hb)).2 q' hq'
            rw [hrest, hrest']
            exact List.append_left_lt (List.Lex.rel hlt)

end ScriptTypes.Files
