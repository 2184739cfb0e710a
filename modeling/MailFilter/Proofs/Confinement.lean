import MailFilter.Proofs.Batches

/-!
# Where a batch changes the disk

A batch only makes folders on the way to the folders of its mailboxes and writes one file in each
of these. The folder of a mailbox is the output folder followed by the name of the mailbox, read as
a path. As long as this path is relative and never climbs above its start, all that changes lies on
the way to the output folder or below it; a name that climbs takes the script somewhere else.
-/
namespace MailFilter

/-! ## Changes of single places -/

namespace Disk

/-- One change: a folder is made where nothing was, or a file is written where no folder was. -/
inductive Change (Folder File : Location → Prop) : Disk → Disk → Prop
  | folder (d : Disk) {l : Location} (hl : l ≠ []) (hnone : d.find? l = none) (hfolder : Folder l) :
    Change Folder File d (d.set l .folder)
  | file (d : Disk) {l : Location} (bytes : List UInt8) (hl : l ≠ [])
    (hne : d.find? l ≠ some .folder) (hfile : File l) :
    Change Folder File d (d.set l (.file bytes))

/-- What became of one place: it is as it was, or it is a new folder, or it holds a file that was
written. -/
inductive Became (Folder File : Location → Prop) (d d' : Disk) (l : Location) : Prop
  | same (h : d'.find? l = d.find? l)
  | folder (hfolder : Folder l) (hnone : d.find? l = none) (h : d'.find? l = some .folder)
  | file (hfile : File l) (hne : d.find? l ≠ some .folder) (bytes : List UInt8)
    (h : d'.find? l = some (.file bytes))

variable {Folder File : Location → Prop}

theorem Became.change {d d' d'' : Disk} {l : Location} (h : Became Folder File d d' l)
    (hchange : Change Folder File d' d'') : Became Folder File d d'' l := by
  cases hchange with
  | @folder k hk hnone hfolder =>
    by_cases hl : l = k
    · subst hl
      have hmade := find?_set_self d' hk .folder
      cases h with
      | same h => exact .folder hfolder (h ▸ hnone) hmade
      | folder _ hold _ => exact .folder hfolder hold hmade
      | file _ _ bytes h =>
        rw [hnone] at h
        cases h
    · have hkept := find?_set_of_ne d' hk .folder hl
      cases h with
      | same h => exact .same (hkept.trans h)
      | folder hf hold h => exact .folder hf hold (hkept.trans h)
      | file hf hold bytes h => exact .file hf hold bytes (hkept.trans h)
  | @file k bytes hk hne hfile =>
    by_cases hl : l = k
    · subst hl
      have hmade := find?_set_self d' hk (.file bytes)
      cases h with
      | same h => exact .file hfile (h ▸ hne) bytes hmade
      | folder _ _ h => exact absurd h hne
      | file _ hold _ _ => exact .file hfile hold bytes hmade
    · have hkept := find?_set_of_ne d' hk (.file bytes) hl
      cases h with
      | same h => exact .same (hkept.trans h)
      | folder hf hold h => exact .folder hf hold (hkept.trans h)
      | file hf hold bytes' h => exact .file hf hold bytes' (hkept.trans h)

/-- One change after the other. -/
theorem became_of_changes {d d' : Disk} (h : Relation.ReflTransGen (Change Folder File) d d')
    (l : Location) : Became Folder File d d' l := by
  induction h with
  | refl => exact .same rfl
  | tail _ hchange ih => exact ih.change hchange

theorem Change.mono {Folder' File' : Location → Prop} (hfolder : ∀ l, Folder l → Folder' l)
    (hfile : ∀ l, File l → File' l) {d d' : Disk} (h : Change Folder File d d') :
    Change Folder' File' d d' := by
  cases h with
  | folder hl hnone h => exact .folder d hl hnone (hfolder _ h)
  | file bytes hl hne h => exact .file d bytes hl hne (hfile _ h)

end Disk

/-! ## Names that stay inside -/

namespace Path

/-- The parts lead back no further than to the place where they start, from so many names below
it. -/
def staysInside : Nat → List Text → Bool
  | _, [] => true
  | depth, q :: qs =>
    match Disk.stepOf q with
    | .stay => staysInside depth qs
    | .up =>
      match depth with
      | 0 => false
      | depth + 1 => staysInside depth qs
    | .into _ => staysInside (depth + 1) qs

/-- A relative path that never climbs above its start. -/
def isInner (p : Path) : Bool := p.root.isEmpty && staysInside 0 p.parts

/-- The steps of such a path and of its initial parts lead below the place where they start. -/
theorem prefix_foldl_move {origin rel : Location} {ps qs : List Text}
    (h : staysInside rel.length qs = true) (hps : ps <+: qs) :
    origin <+: (ps.map Disk.stepOf).foldl Disk.move (origin ++ rel) := by
  -- `rel` holds the names entered so far: a step up takes the last one off and so needs one
  induction qs generalizing rel ps with
  | nil =>
    rw [List.prefix_nil.1 hps]
    exact List.prefix_append origin rel
  | cons q qs ih =>
    rcases List.prefix_cons_iff.1 hps with rfl | ⟨ps, rfl, hrest⟩
    · exact List.prefix_append origin rel
    rw [List.map_cons, List.foldl_cons]
    rw [staysInside.eq_def] at h
    cases hstep : Disk.stepOf q with
    | stay =>
      simp only [hstep] at h
      exact ih h hrest
    | up =>
      simp only [hstep] at h
      rcases List.eq_nil_or_concat rel with rfl | ⟨rel, name, rfl⟩
      · simp at h
      · simp only [List.concat_eq_append, List.length_append, List.length_singleton] at h
        have hup : Disk.move (origin ++ (rel ++ [name])) .up = origin ++ rel := by
          simp [Disk.move, ← List.append_assoc]
        rw [List.concat_eq_append, hup]
        exact ih h hrest
    | into name =>
      simp only [hstep] at h
      have hinto : Disk.move (origin ++ rel) (.into name) = origin ++ (rel ++ [name]) := by
        simp [Disk.move]
      rw [hinto]
      exact ih (by simpa using h) hrest

/-- The place is that of the path or of an initial part of it. -/
def PlacedOnWay (base : Location) (p : Path) (l : Location) : Prop :=
  ∃ qs, qs <+: p.parts ∧ l = place base ⟨p.root, qs⟩

theorem place_append (base : Location) (root : Text) (ps qs : List Text) :
    place base ⟨root, ps ++ qs⟩ =
      (qs.map Disk.stepOf).foldl Disk.move (place base ⟨root, ps⟩) := by
  simp [place, List.foldl_append]

theorem join_of_isInner {q : Path} (hq : q.isInner = true) (p : Path) :
    p.join q = ⟨p.root, p.parts ++ q.parts⟩ := by
  simp only [isInner, Bool.and_eq_true] at hq
  rw [join, if_pos hq.1]

theorem prefix_place_append {q : Path} (hq : q.isInner = true) {rs : List Text}
    (hrs : rs <+: q.parts) (base : Location) (p : Path) :
    p.place base <+: place base ⟨p.root, p.parts ++ rs⟩ := by
  simp only [isInner, Bool.and_eq_true] at hq
  rw [place_append]
  simpa using @prefix_foldl_move (place base p) [] _ _ hq.2 hrs

/-- Below a path that never climbs, what is on the way to the end is on the way to the start or
below it. -/
theorem PlacedOnWay.of_join {base l : Location} {p q : Path} (hq : q.isInner = true)
    (h : PlacedOnWay base (p.join q) l) : PlacedOnWay base p l ∨ p.place base <+: l := by
  obtain ⟨qs, hqs, rfl⟩ := h
  rw [join_of_isInner hq] at hqs ⊢
  rcases List.prefix_or_prefix_of_prefix hqs (List.prefix_append p.parts q.parts) with
    hshort | ⟨rs, rfl⟩
  · exact .inl ⟨qs, hshort, rfl⟩
  · exact .inr (prefix_place_append hq ((List.prefix_append_right_inj p.parts).1 hqs) base p)

@[simp] theorem place_fileFor (base : Location) (dest : Path) (script : Sieve.Script) :
    (dest.fileFor script).place base = dest.place base ++ [scriptFileName script.name] := by
  simp [fileFor, place_append]
  rfl

end Path

/-! ## What storing changes -/

namespace Run

theorem changes_of_makesFolders {base : Location} {dest : Path} (hdest : dest.Normal)
    {File : Location → Prop} {d d' : Disk} (h : Disk.MakesFolders base dest.OnWay d d') :
    Relation.ReflTransGen (Disk.Change (dest.PlacedOnWay base) File) d d' := by
  refine Relation.ReflTransGen.mono ?_ d d' h
  rintro x y ⟨path, ⟨qs, hqs, rfl⟩, hmade⟩
  have htarget := (hdest.of_subset hqs.subset).target_text base
  obtain ⟨hne, hnone, rfl⟩ := Disk.makeFolder_eq_ok hmade
  rw [htarget] at hne hnone ⊢
  exact .folder x hne hnone ⟨qs, hqs, rfl⟩

section

variable [Platform]

/-- Storing a script makes folders on the way and writes the file of the script. -/
theorem changes_writeScripts {dest : Path} (hdest : dest.Normal) (script : Sieve.Script)
    (s : Setting) (d : Disk) :
    Relation.ReflTransGen
      (Disk.Change (dest.PlacedOnWay s.base)
        (· = dest.place s.base ++ [scriptFileName script.name]))
      d ((writeScripts [script] dest).onDisk s d).2 := by
  obtain ⟨d₁, hfolders, hstores⟩ := stores_writeScripts script dest s d
  rcases hstores.disk_cases with hsame | ⟨bytes, hfile⟩
  · rw [hsame]
    exact changes_of_makesFolders hdest hfolders
  · have hnormal : (dest.fileFor script).Normal := hdest.concat (Path.isPart_scriptFileName _)
    have htarget := hnormal.target_text s.base
    obtain ⟨hne, hfolder, hd'⟩ := Disk.write_eq_ok hfile
    rw [htarget] at hne hfolder hd'
    rw [hd']
    exact (changes_of_makesFolders hdest hfolders).tail
      (.file d₁ _ hne hfolder (Path.place_fileFor s.base dest script))

/-! ## What a batch changes -/

/-- Some mapping of the list names a mailbox for which this holds. -/
def ForMailbox (vs : List Value) (P : Text → Prop) : Prop :=
  ∃ v ∈ vs, ∃ mailbox path, Names v mailbox path ∧ P mailbox

section

variable (vs : List Value) (outputDir : Text) (base l : Location)

/-- The place is on the way to the folder of a mailbox. -/
def FolderPlace : Prop :=
  ForMailbox vs fun mailbox => (folderFor outputDir mailbox).PlacedOnWay base l

/-- The place is that of the script of a mailbox. -/
def FilePlace : Prop :=
  ForMailbox vs fun mailbox =>
    l = (folderFor outputDir mailbox).place base ++ [scriptFileName mailbox]

end

theorem changes_turn {outputDir encoding : Text} {skipVerify : Bool} {s : Setting}
    {vs : List Value} {t : Turn} (ht : t.mapping ∈ vs) :
    Relation.ReflTransGen (Disk.Change (FolderPlace vs outputDir s.base)
      (FilePlace vs outputDir s.base)) t.disk (t.result outputDir encoding skipVerify s).2 := by
  rcases t.disk_cases with hsame | ⟨mailbox, path, script, hnames, hdraft, hstored⟩
  · rw [hsame]
  · obtain ⟨fs, hscript⟩ := draftOf_eq_accepted_iff.1 hdraft
    have hname : script.name = mailbox := by
      rw [hscript.script_eq]
      rfl
    rw [hstored]
    refine Relation.ReflTransGen.mono (fun x y h => ?_) _ _
      (changes_writeScripts (normal_folderFor outputDir mailbox) script s t.disk)
    rw [hname] at h
    exact h.mono (fun l hl => ⟨t.mapping, ht, mailbox, path, hnames, hl⟩)
      fun l hl => ⟨t.mapping, ht, mailbox, path, hnames, hl⟩

/-- A batch only makes folders on the way to the folders of its mailboxes and writes their scripts.
When no mailbox climbs, all that changes is on the way to the output folder or below it. -/
theorem convertAll_changes (vs : List Value) (outputDir encoding : Text) (skipVerify : Bool)
    (s : Setting) (w : World) (l : Location) :
    let d' := ((convertAll (.list vs) outputDir skipVerify encoding).start s w).2.disk
    Disk.Became (FolderPlace vs outputDir s.base) (FilePlace vs outputDir s.base) w.disk d' l ∧
      ((∀ v ∈ vs, ∀ mailbox path, Names v mailbox path → (Path.parse mailbox).isInner = true) →
        d'.find? l ≠ w.disk.find? l →
          (Path.parse outputDir).PlacedOnWay s.base l ∨
            (Path.parse outputDir).place s.base <+: l) := by
  intro d'
  have hsilent := silent_convertAll (.list vs) outputDir encoding skipVerify
  have hdisk : d' = ((convertMappings outputDir skipVerify encoding {} vs).onDisk s w.disk).2 :=
    (hsilent.start_eq s w).2.1
  have hbecame : Disk.Became (FolderPlace vs outputDir s.base) (FilePlace vs outputDir s.base)
      w.disk d' l := by
    rw [hdisk]
    refine Disk.became_of_changes (convertMappings_trail (fun _ => .refl)
      (fun _ _ _ h h' => h.trans h') (fun d v hv => ?_) {} w.disk) l
    exact changes_turn (t := ⟨d, v⟩) hv
  refine ⟨hbecame, fun hinner hchanged => ?_⟩
  cases hbecame with
  | same h => exact absurd h hchanged
  | folder hfolder hnone h =>
    obtain ⟨v, hv, mailbox, path, hnames, hplaced⟩ := hfolder
    exact hplaced.of_join (hinner v hv mailbox path hnames)
  | file hfile hne bytes h =>
    obtain ⟨v, hv, mailbox, path, hnames, rfl⟩ := hfile
    have hmailbox := hinner v hv mailbox path hnames
    right
    rw [folderFor, Path.join_of_isInner hmailbox]
    exact (Path.prefix_place_append hmailbox List.prefix_rfl s.base _).trans
      (List.prefix_append _ _)

end

open scoped Platform

theorem convertAll_changes_oneMailbox :
    let d' := ((convertAll (.list [mapping "b" "in/b"]) "out".toList true "utf-8".toList).start
      atRoot ⟨datedDisk, 0, [], []⟩).2.disk
    let file := ["out".toList, "b".toList, "b.sieve".toList]
    d'.find? file ≠ datedDisk.find? file ∧
      ((Path.parse "out".toList).PlacedOnWay [] file ∨
        (Path.parse "out".toList).place [] <+: file) := by
  intro d' file
  have hchanged : d'.find? file ≠ datedDisk.find? file := by decide +kernel
  have hinner : ∀ v ∈ [mapping "b" "in/b"], ∀ mailbox path, Names v mailbox path →
      (Path.parse mailbox).isInner = true := by
    intro v hv mailbox path hnames
    obtain ⟨fs, hmap, hmailbox, -⟩ := hnames
    rw [List.mem_singleton.1 hv] at hmap
    obtain rfl := Value.map.inj hmap
    obtain rfl : "b".toList = mailbox := Value.text.inj (Option.some.inj hmailbox)
    decide +kernel
  exact ⟨hchanged, (convertAll_changes [mapping "b" "in/b"] "out".toList "utf-8".toList true atRoot
    ⟨datedDisk, 0, [], []⟩ file).2 hinner hchanged⟩

/-- The script of a mailbox whose name climbs is written beside the output folder. -/
theorem convertAll_climbingMailbox :
    let run := convertAll (.list [mapping "../evil" "in/b"]) "out".toList false "utf-8".toList
    let file := ["evil".toList, ".._evil.sieve".toList]
    datedDisk.find? file = none ∧
      ((run.start atRoot ⟨datedDisk, 0, [], []⟩).2.disk.find? file).isSome = true ∧
      ¬ (Path.parse "out".toList).place [] <+: file ∧
      ¬ file <+: (Path.parse "out".toList).place [] := by
  decide +kernel

end Run

end MailFilter
