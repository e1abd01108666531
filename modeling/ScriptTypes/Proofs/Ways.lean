import ScriptTypes.Proofs.Standing

/-!
# Where paths lead

A path is told where to go on by the folders and the links that it comes by, and by what cannot be
searched. So where these are the same a path leads to the same place, whatever became of the files.

On a disk without links the way of a path is told by its names: each leads into the folder of that
name, or, if it is two dots, out of the folder. What a path leads to without its last name is then
the folder of what it leads to with it.
-/

namespace ScriptTypes.Files.Disk

variable {d d' : Disk} {p : Path} {whole : Bool} {start place : Location} {name : String}
  {parts rest names : List String}
  {jump jump' : Location → Path → List String → Except Cause Location}

/-! ## One name -/

/-- Names can be looked for where there is a folder that can be searched. -/
theorem enter_eq_ok_iff :
    d.enter place = .ok () ↔ d.standing place = .folder ∧ d.denies .search place = none := by
  unfold enter standing
  rw [bind_eq_ok, Entry.standing_eq_folder_iff, ← permit_eq_ok_iff]
  constructor
  · rintro ⟨e, he, h⟩
    cases e with
    | file content | link target => cases h
    | folder es => exact ⟨⟨es, he⟩, h⟩
  · rintro ⟨⟨es, he⟩, h⟩
    exact ⟨_, he, h⟩

theorem enter_of_folder (h : d.standing place = .folder) :
    d.enter place = d.permit .search place := by
  obtain ⟨es, hes⟩ := Entry.standing_eq_folder_iff.mp h
  unfold enter
  rw [bind_eq_of_ok hes]

/-- A way that goes on goes on by what stands under its next name. -/
theorem walk_cons : d.walk whole jump start (name :: rest) = d.enter start >>= fun _ =>
    if name = ".." then d.walk whole jump start.dropLast rest
    else
      match d.standing (start ++ [name]) with
      | .link target =>
        if rest = [] ∧ whole = false then .ok (start ++ [name]) else jump start target rest
      | _ => d.walk whole jump (start ++ [name]) rest := by
  rw [walk]
  refine bind_congr fun _ => ?_
  by_cases hup : name = ".."
  · rw [if_pos hup, if_pos hup]
  · rw [if_neg hup, if_neg hup]
    unfold standing Entry.standing
    cases d.top.at? (start ++ [name]) with
    | error c => rfl
    | ok e => cases e <;> rfl

/-! ## The same folders and links -/

theorem Changed.symm {touched : Location → Prop} (h : Changed touched d d') :
    Changed touched d' d where
  working := h.working.symm
  denies := h.denies.symm
  breaksOff := h.breaksOff.symm
  folders place := (h.folders place).symm
  links place target := (h.links place target).symm
  elsewhere place hp := (h.elsewhere place hp).symm

section

variable {touched : Location → Prop}

theorem Changed.enter (h : Changed touched d d') (henter : d.enter place = .ok ()) :
    d'.enter place = .ok () := by
  obtain ⟨hfolder, hsearch⟩ := enter_eq_ok_iff.mp henter
  exact enter_eq_ok_iff.mpr ⟨(h.folders place).mpr hfolder, h.denies ▸ hsearch⟩

/-- Names lead where they led as long as the folders and the links are the same. -/
theorem Changed.walk (h : Changed touched d d')
    (hjump : ∀ folder target names, jump folder target names = .ok place →
      jump' folder target names = .ok place)
    (hwalk : d.walk whole jump start parts = .ok place) :
    d'.walk whole jump' start parts = .ok place := by
  induction parts generalizing start with
  | nil => exact hwalk
  | cons name rest ih =>
      rw [walk_cons] at hwalk ⊢
      obtain ⟨_, henter, hwalk⟩ := bind_eq_ok.mp hwalk
      rw [bind_eq_of_ok (h.enter henter)]
      by_cases hup : name = ".."
      · rw [if_pos hup] at hwalk ⊢
        exact ih hwalk
      · rw [if_neg hup] at hwalk ⊢
        cases hs : d.standing (start ++ [name]) with
        | link target =>
            rw [hs] at hwalk
            rw [(h.links _ target).mpr hs]
            dsimp only at hwalk ⊢
            split_ifs at hwalk ⊢
            · exact hwalk
            · exact hjump _ _ _ hwalk
        | nothing | folder | file =>
            rw [hs] at hwalk
            cases hs' : d'.standing (start ++ [name]) with
            | link target => cases hs.symm.trans ((h.links _ target).mp hs')
            | nothing | folder | file => exact ih hwalk

theorem Changed.follow {links : Nat} (h : Changed touched d d')
    (hfollow : d.follow whole links start parts = .ok place) :
    d'.follow whole links start parts = .ok place := by
  induction links generalizing start parts with
  | zero => exact h.walk (fun _ _ _ h => h) hfollow
  | succ links ih => exact h.walk (fun _ _ _ hjump => ih hjump) hfollow

theorem Changed.lead (h : Changed touched d d') (hlead : d.lead whole p = .ok place) :
    d'.lead whole p = .ok place := by
  unfold Disk.lead at hlead ⊢
  split_ifs at hlead ⊢
  rw [h.working]
  exact h.follow hlead

/-- A path leads where it led. -/
theorem Changed.lead_iff (h : Changed touched d d') :
    d'.lead whole p = .ok place ↔ d.lead whole p = .ok place :=
  ⟨h.symm.lead, h.lead⟩

theorem Changed.locate_iff (h : Changed touched d d') :
    d'.locate p = .ok place ↔ d.locate p = .ok place :=
  h.lead_iff

end

theorem lead_of_long (h : maxPathBytes < p.text.utf8ByteSize) :
    d.lead whole p = .error .nameTooLong :=
  if_pos h

theorem fits_of_lead (h : d.lead whole p = .ok place) :
    p.text.utf8ByteSize ≤ maxPathBytes := by
  by_contra hlong
  cases (lead_of_long (Nat.lt_of_not_le hlong)).symm.trans h

/-- If there is a folder anywhere then there is one at the root. -/
theorem standing_top (h : d.standing place = .folder) : d.standing [] = .folder := by
  cases place with
  | nil => exact h
  | cons name rest =>
      have hthere : d.top.standing (name :: rest) ≠ .nothing := fun hn => nomatch h.symm.trans hn
      obtain ⟨es, hes⟩ := Entry.exists_folder_of_standing hthere
      rw [standing, hes]
      rfl

/-- A path with a name leads somewhere only if there is a folder at the root. -/
theorem standing_top_of_lead (hparts : p.parts ≠ []) (h : d.lead whole p = .ok place) :
    d.standing [] = .folder := by
  obtain ⟨name, rest, hcons⟩ := List.exists_cons_of_ne_nil hparts
  have hwalk :
      ∃ jump, d.walk whole jump (startOf d.working p.anchor) (name :: rest) = .ok place := by
    unfold lead at h
    split_ifs at h
    rw [hcons] at h
    exact ⟨_, h⟩
  obtain ⟨jump, hwalk⟩ := hwalk
  rw [walk_cons] at hwalk
  obtain ⟨_, henter, _⟩ := bind_eq_ok.mp hwalk
  exact standing_top (enter_eq_ok_iff.mp henter).1

/-! ## Ways without links -/

/-- The location that names lead to from a folder if there are no links. -/
def way (d : Disk) : Location → List String → Except Cause Location
  | place, [] => .ok place
  | place, name :: rest => do
    d.enter place
    way d (if name = ".." then place.dropLast else place ++ [name]) rest

theorem walk_eq_way (hfree : d.LinkFree) : d.walk whole jump start parts = d.way start parts := by
  induction parts generalizing start with
  | nil => rfl
  | cons name rest ih =>
      rw [walk_cons, way]
      refine bind_congr fun _ => ?_
      by_cases hup : name = ".."
      · rw [if_pos hup, if_pos hup]
        exact ih
      · rw [if_neg hup, if_neg hup]
        cases hs : d.standing (start ++ [name]) with
        | link target => exact absurd hs (hfree _ _)
        | nothing | folder | file => exact ih

theorem lead_eq_way (hfree : d.LinkFree) : d.lead whole p =
    if maxPathBytes < p.text.utf8ByteSize then .error .nameTooLong
    else d.way (startOf d.working p.anchor) p.parts := by
  unfold lead maxLinks
  split_ifs
  · rfl
  · exact walk_eq_way hfree

/-- Without links it makes no difference whether one at the end is followed. -/
theorem lead_eq_locate (hfree : d.LinkFree) : d.lead whole p = d.locate p := by
  rw [locate, lead_eq_way hfree, lead_eq_way hfree]

theorem locate_eq_ok_iff (hfree : d.LinkFree) : d.locate p = .ok place ↔
    p.text.utf8ByteSize ≤ maxPathBytes ∧
      d.way (startOf d.working p.anchor) p.parts = .ok place := by
  rw [locate, lead_eq_way hfree]
  split_ifs with hlong
  · exact iff_of_false nofun fun h => Nat.not_le_of_lt hlong h.1
  · exact (and_iff_right (Nat.le_of_not_lt hlong)).symm

/-- A way goes on from where its first part leads. -/
theorem way_append :
    d.way start (parts ++ rest) = d.way start parts >>= fun folder => d.way folder rest := by
  induction parts generalizing start with
  | nil => rfl
  | cons name parts ih =>
      rw [List.cons_append, way, way, bind_assoc]
      exact bind_congr fun _ => ih

/-- Behind a name that is not two dots is the place of that name in the folder before it. -/
theorem way_concat (hname : name ≠ "..") : d.way start (parts ++ [name]) = .ok place ↔
    ∃ folder, d.way start parts = .ok folder ∧ d.enter folder = .ok () ∧
      place = folder ++ [name] := by
  rw [way_append, bind_eq_ok]
  refine exists_congr fun folder => and_congr_right fun _ => ?_
  rw [way, if_neg hname, bind_eq_ok]
  constructor
  · rintro ⟨_, henter, h⟩
    exact ⟨henter, (Except.ok.inj h).symm⟩
  · rintro ⟨henter, rfl⟩
    exact ⟨(), henter, rfl⟩

/-- They lead there through folders that can be searched. -/
theorem way_names (hup : ".." ∉ names)
    (henter : ∀ k < names.length, d.enter (start ++ names.take k) = .ok ()) :
    d.way start names = .ok (start ++ names) := by
  induction names generalizing start with
  | nil => rw [way, List.append_nil]
  | cons name rest ih =>
      rw [List.mem_cons, not_or] at hup
      have hfirst : d.enter start = .ok () := by
        have h := henter 0 (Nat.succ_pos _)
        rwa [List.take_zero, List.append_nil] at h
      have hrest : d.way (start ++ [name]) rest = .ok ((start ++ [name]) ++ rest) := by
        refine ih hup.2 fun k hk => ?_
        have h := henter (k + 1) (Nat.succ_lt_succ hk)
        rwa [List.take_succ_cons, ← List.singleton_append, ← List.append_assoc] at h
      rw [way, bind_eq_of_ok hfirst, if_neg (Ne.symm hup.1), hrest, List.append_assoc]
      rfl

end ScriptTypes.Files.Disk
